import Turnstile.Proofs.Allocation.Transaction
import Mathlib.Algebra.Module.Submodule.Lattice
import Mathlib.Computability.Primrec.List
import Mathlib.Data.List.Permutation

-- The imports of Mathlib hold the equations of `≤`, `List.lookup` and `Prod.snd`, by which runs on fixed inputs evaluate.

/-!
In every state that transactions reach from a store without registrations, all events are sound. Capacities
never shrink, registrations stay, and cancelled ones stay as they are.
-/

namespace Turnstile

/-- Whatever was drawn so far was drawn once. -/
def Supply.Distinct {α : Type} (s : Supply α) : Prop :=
  ∀ m n, m < s.drawn → n < s.drawn → s.item m = s.item n → m = n

theorem Supply.Distinct.of_skip {α : Type} {s : Supply α} {k : Nat} (h : (s.skip k).Distinct) : s.Distinct :=
  fun m n hm hn => h m n (Nat.lt_add_right k hm) (Nat.lt_add_right k hn)

/-- Numbered identifiers only repeat after 48 bits. -/
theorem IdSupply.distinct_of_counting {ids : IdSupply} (hi : ids.item = (counting 1 1).item)
    (hd : ids.drawn < 281_474_976_710_656) : ids.Distinct := by
  intro m n hm hn h
  rw [hi] at h
  have hlow := congrArg UInt64.toNat (UInt64.add_right_inj _ |>.mp (Uuid.mk.inj h).2)
  simp only [UInt64.toNat_ofNat'] at hlow
  omega

namespace Store

/-- What a store keeps of an earlier state. -/
structure Extends (s' s : Store) : Prop where
  capacity : ∀ event e, s.events.get? event = some e →
    ∃ e', s'.events.get? event = some e' ∧ e.capacity ≤ e'.capacity
  registration : ∀ id r, s.registrations.get? id = some r →
    ∃ r', s'.registrations.get? id = some r' ∧ (r.status = .cancelled → r' = r)

variable {s s' s'' : Store} {new : RegistrationId → Prop}

theorem Extends.refl (s : Store) : s.Extends s :=
  ⟨fun _ e he => ⟨e, he, UInt32.le_refl _⟩, fun _ r hr => ⟨r, hr, fun _ => rfl⟩⟩

theorem Extends.trans (h' : s''.Extends s') (h : s'.Extends s) : s''.Extends s where
  capacity := by
    intro event e he
    obtain ⟨e', he', hle⟩ := h.capacity event e he
    obtain ⟨e'', he'', hle'⟩ := h'.capacity event e' he'
    exact ⟨e'', he'', UInt32.le_trans hle hle'⟩
  registration := by
    intro id r hr
    obtain ⟨r', hr', hc⟩ := h.registration id r hr
    obtain ⟨r'', hr'', hc'⟩ := h'.registration id r' hr'
    refine ⟨r'', hr'', fun hst => ?_⟩
    obtain rfl := hc hst
    exact hc' hst

theorem Lawful.setCapacity (hl : s.Lawful) {event : EventId} {e : ScheduledEvent} {capacity : UInt32}
    (he : s.events.get? event = some e) (hle : e.capacity ≤ capacity) : (s.setCapacity event capacity).Lawful := by
  refine ⟨hl.events_keyed.adjust event fun _ => rfl, hl.keyed, fun id other hother => ?_⟩
  rw [Store.setCapacity, Table.get?_adjust, he] at hother
  split at hother
  · obtain rfl := Option.some.inj hother
    obtain ⟨hp, hn, hs, hf⟩ := hl.sound event e he
    exact ⟨hp, hn, hs, Nat.le_trans hf (UInt32.le_iff_toNat_le.mp hle)⟩
  · exact (hl.sound id other hother).congr rfl

theorem Step.lawful (h : Step new s s') (hl : s.Lawful) : s'.Lawful := by
  cases h with
  | stay => exact hl
  | write he hmoves hm =>
    have hl' := hl.moves he hmoves
    exact ⟨hl'.events_keyed, hl'.keyed, fun id e he => (hl'.sound id e he).congr rfl⟩
  | raise he hle => exact hl.setCapacity he hle

theorem Step.extends (h : Step new s s') (hl : s.Lawful) : s'.Extends s := by
  cases h with
  | stay => exact .refl s
  | @write e rows messages he hmoves hm =>
    refine ⟨fun event e he => ⟨e, by simpa [announce] using he, UInt32.le_refl _⟩, fun id r hr => ?_⟩
    have hsome : ((s.puts (rows.map Tracked.registration)).registrations.get? id).isSome :=
      get?_puts_isSome (Option.isSome_iff_exists.mpr ⟨r, hr⟩)
    obtain ⟨r', hr'⟩ := Option.isSome_iff_exists.mp hsome
    refine ⟨r', hr', fun hst => ?_⟩
    obtain rfl := hl.keyed _ _ hr
    rw [(hmoves.over hl.keyed).get?_of_cancelled hr hst] at hr'
    exact (Option.some.inj hr').symm
  | @raise event e capacity he hle =>
    refine ⟨fun id e' he' => ?_, fun id r hr => ⟨r, hr, fun _ => rfl⟩⟩
    rw [Store.setCapacity, Table.get?_adjust, he]
    split
    · next hid =>
      subst hid
      rw [he] at he'
      obtain rfl := Option.some.inj he'
      exact ⟨_, rfl, hle⟩
    · exact ⟨e', he', UInt32.le_refl _⟩

theorem Step.known (h : Step new s s') (hl : s.Lawful) {id : RegistrationId}
    (hid : (s'.registrations.get? id).isSome) : (s.registrations.get? id).isSome ∨ new id := by
  cases h with
  | stay => exact .inl hid
  | @write e rows messages he hmoves hm =>
    by_cases hin : id ∈ (rows.map Tracked.registration).map Registration.id
    · obtain ⟨r, hr, rfl⟩ := List.mem_map.mp hin
      obtain ⟨t, ht, rfl⟩ := List.mem_map.mp hr
      exact hmoves.known hl.keyed t ht
    · rw [show ((s.puts (rows.map Tracked.registration)).announce messages).registrations.get? id = _ from
        get?_puts_of_notMem hin] at hid
      exact .inl hid
  | raise he hle => exact .inl hid

end Store

namespace Session
variable {s : Session}

/-- Between transactions all events are sound, and registrations have identifiers that were drawn. -/
structure Consistent (s : Session) : Prop where
  idle : s.Idle
  lawful : s.store.Lawful
  drawn : ∀ id, (s.store.registrations.get? id).isSome → ∃ n < s.ids.drawn, id = ⟨s.ids.item n⟩

/-- Nothing happened yet in a store with events and registrants only. -/
def start (events : List ScheduledEvent) (registrants : List Registrant) (ids : Nat → Uuid) : Session where
  store := .prepared events registrants
  clock := .constant default
  ids := { item := ids }

theorem consistent_start (events : List ScheduledEvent) (registrants : List Registrant) (ids : Nat → Uuid) :
    (start events registrants ids).Consistent where
  idle := ⟨rfl, Store.prepared_locked events registrants⟩
  lawful := Store.prepared_lawful events registrants
  drawn := by simp [start, Store.prepared_registrations]

theorem Consistent.facing (h : s.Consistent) (a : Attempt) : (s.facing a).Consistent where
  idle := ⟨h.idle.tx, h.idle.locked⟩
  lawful := ⟨h.lawful.events_keyed, h.lawful.keyed, fun id e he => (h.lawful.sound id e he).congr rfl⟩
  drawn := h.drawn

/-- An identifier that a transaction draws is not that of a registration. -/
theorem Consistent.unused (h : s.Consistent) (t : Transaction) (hd : (t.run s).ids.Distinct)
    (hlt : s.ids.drawn < (t.run s).ids.drawn) : s.store.registrations.get? ⟨s.ids.next⟩ = none := by
  obtain ⟨n, hn⟩ := t.run_ids s
  by_contra hne
  obtain ⟨m, hm, he⟩ := h.drawn _ (Option.isSome_iff_ne_none.mpr hne)
  have hitem : (t.run s).ids.item = s.ids.item := by rw [hn]; rfl
  have heq := hd m s.ids.drawn (by omega) hlt (by rw [hitem]; exact (Id.mk.inj he).symm)
  omega

/-- Nobody has the identifier that somebody new gets. -/
theorem Consistent.unused_of_fresh (h : s.Consistent) {event : EventId} {registrant : RegistrantId}
    (hd : ((Transaction.register event registrant).run s).ids.Distinct)
    (hf : 0 < (Decision.register s.store event registrant s.clock.next ⟨s.ids.next⟩).fresh) :
    s.store.registrations.get? ⟨s.ids.next⟩ = none := by
  have hunused := h.unused (.register event registrant) hd
  obtain ⟨n, hn, hids⟩ := Decision.enact_ids (s := s.tick)
    (d := Decision.register s.tick.store event registrant s.clock.next ⟨s.tick.ids.next⟩)
  rw [Transaction.run, Allocate.on_register h.idle h.lawful, Decision.outcome, Prod.map_snd, id_eq, hids] at hunused
  exact hunused (Nat.lt_add_of_pos_right (Nat.lt_of_lt_of_le hf hn))

theorem Consistent.run (h : s.Consistent) (t : Transaction) (hd : (t.run s).ids.Distinct) :
    (t.run s).Consistent ∧ (t.run s).store.Extends s.store := by
  obtain ⟨n, hn⟩ := t.run_ids s
  obtain ⟨hidle, hstep⟩ := t.run_step h.idle h.lawful (h.unused t hd)
  refine ⟨⟨hidle, hstep.lawful h.lawful, fun id hid => ?_⟩, hstep.extends h.lawful⟩
  have hdrawn : (t.run s).ids.drawn = s.ids.drawn + n := by rw [hn]; rfl
  rcases hstep.known h.lawful hid with hold | ⟨hlt, rfl⟩
  · obtain ⟨m, hm, rfl⟩ := h.drawn id hold
    exact ⟨m, by omega, by rw [hn]; rfl⟩
  · exact ⟨s.ids.drawn, hlt, by rw [hn]; rfl⟩

theorem Consistent.after (h : s.Consistent) (attempts : List Attempt) (hd : (s.after attempts).ids.Distinct) :
    (s.after attempts).Consistent ∧ (s.after attempts).store.Extends s.store := by
  induction attempts generalizing s with
  | nil => exact ⟨h, .refl _⟩
  | cons a attempts ih =>
    obtain ⟨n, hn⟩ := (a.transaction.run (s.facing a)).after_ids attempts
    have hd' : (a.transaction.run (s.facing a)).ids.Distinct := by
      rw [after_cons, hn] at hd
      exact hd.of_skip
    obtain ⟨hrun, hext⟩ := (h.facing a).run a.transaction hd'
    obtain ⟨hafter, hext'⟩ := ih hrun hd
    have hface : (s.facing a).store.Extends s.store :=
      ⟨(Store.Extends.refl s.store).capacity, (Store.Extends.refl s.store).registration⟩
    exact ⟨hafter, hext'.trans (hext.trans hface)⟩

/-- What any transactions in any order keep true of every event, from a store without registrations on. -/
theorem sound_and_extends (events : List ScheduledEvent) (registrants : List Registrant) (ids : Nat → Uuid)
    (attempts later : List Attempt)
    (hd : (((start events registrants ids).after attempts).after later).ids.Distinct) :
    let s := (start events registrants ids).after attempts
    (∀ event e, s.store.events.get? event = some e → s.store.Sound e) ∧ (s.after later).store.Extends s.store := by
  obtain ⟨n, hn⟩ := ((start events registrants ids).after attempts).after_ids later
  have hd' : ((start events registrants ids).after attempts).ids.Distinct := by
    rw [hn] at hd
    exact hd.of_skip
  have hs := ((consistent_start events registrants ids).after attempts hd').1
  exact ⟨hs.lawful.sound, (hs.after later hd).2⟩

/-- Of two who want the one seat the second gets it when the first cancels. -/
theorem sound_and_extends_oneSeat :
    let s := (start [.oneSeat] [⟨⟨⟨0, 2⟩⟩, "a"⟩, ⟨⟨⟨0, 3⟩⟩, "b"⟩] (IdSupply.counting 1 1).item).after
      [⟨.register ScheduledEvent.oneSeat.id ⟨⟨0, 2⟩⟩, .constant default, false⟩,
        ⟨.register ScheduledEvent.oneSeat.id ⟨⟨0, 3⟩⟩, .constant default, false⟩]
    (∀ event e, s.store.events.get? event = some e → s.store.Sound e) ∧
      (s.after [⟨.cancel ⟨IdSupply.number 1⟩, .constant default, false⟩]).store.Extends s.store := by
  refine sound_and_extends _ _ _ _ _ (IdSupply.distinct_of_counting ?_ (by decide +kernel))
  rw [after_item, after_item]
  rfl

/-- One who has the only seat and two who wait for it. -/
def oneSeatTwoWaiting : Session :=
  (start [.oneSeat] [⟨⟨⟨0, 2⟩⟩, "a"⟩, ⟨⟨⟨0, 3⟩⟩, "b"⟩, ⟨⟨⟨0, 4⟩⟩, "c"⟩] (IdSupply.counting 1 1).item).after
    [⟨.register ScheduledEvent.oneSeat.id ⟨⟨0, 2⟩⟩, .constant default, false⟩,
      ⟨.register ScheduledEvent.oneSeat.id ⟨⟨0, 3⟩⟩, .constant default, false⟩,
      ⟨.register ScheduledEvent.oneSeat.id ⟨⟨0, 4⟩⟩, .constant default, false⟩]

theorem oneSeatTwoWaiting_consistent : oneSeatTwoWaiting.Consistent := by
  refine ((consistent_start _ _ _).after _ (IdSupply.distinct_of_counting ?_ (by decide +kernel))).1
  rw [after_item]
  rfl

theorem oneSeatTwoWaiting_queue :
    (oneSeatTwoWaiting.store.queue ScheduledEvent.oneSeat.id).map Registration.id =
      [⟨IdSupply.number 3⟩, ⟨IdSupply.number 5⟩] := by
  cbv

end Session
end Turnstile
