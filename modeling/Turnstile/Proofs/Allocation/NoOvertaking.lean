import Turnstile.Proofs.Allocation.Composition
import Turnstile.Proofs.Allocation.Fairness

/-!
Commands that run one after the other, each to completion, keep all events fair, and registrations stay in
the order in which they were committed.
-/

namespace Turnstile
open scoped List

namespace Store
variable {s s' : Store} {event : EventId}

theorem full_of_empty (h : s.queue event = []) : s.Full event :=
  fun _ _ hne => absurd h hne

theorem Orderly.fair (ho : s.Orderly) (hf : ∀ other ≠ event, s.Full other) (h : s.Full event) : s.Fair := by
  refine ⟨ho, fun other => ?_⟩
  by_cases hne : other = event
  · exact hne ▸ h
  · exact hf other hne

theorem Lawful.announce (hl : s.Lawful) (messages : List OutboxMessage) : (s.announce messages).Lawful :=
  ⟨hl.events_keyed, hl.keyed, fun id e he => (hl.sound id e he).congr rfl⟩

/-- Of two registrations of an event the one that was stored first precedes the other. -/
theorem Orderly.precedes (ho : s'.Orderly) (hk : s'.Keyed) (hkeys : s.registrations.keys <+: s'.registrations.keys)
    {x y : Registration} (hx : x ∈ s'.registrationsOf event) (hy : y ∈ s'.registrationsOf event)
    (hxs : (s.registrations.get? x.id).isSome) (hys : s.registrations.get? y.id = none) : x.Precedes y := by
  have hmem {z : Registration} {entries : List (RegistrationId × Registration)}
      (hsub : ∀ entry ∈ entries, entry ∈ s'.registrations.entries)
      (hz : z ∈ (entries.map Prod.snd).filter fun r => r.eventId = event) : z.id ∈ entries.map Prod.fst := by
    obtain ⟨entry, he, rfl⟩ := List.mem_map.mp (List.mem_filter.mp hz).1
    rw [hk _ _ (Table.get?_eq_some_iff.mpr (hsub entry he))]
    exact List.mem_map_of_mem he
  obtain ⟨rest, hrest⟩ := hkeys
  obtain ⟨old, new, hold, hsplit, -⟩ := List.map_eq_append_iff.mp hrest.symm
  have hof : s'.registrationsOf event = ((old.map Prod.snd).filter fun r => r.eventId = event) ++
      (new.map Prod.snd).filter fun r => r.eventId = event := by
    rw [registrationsOf, Table.values, hold, List.map_append, List.filter_append]
  have hnodup := s'.registrations.keys_nodup
  rw [hold, List.map_append] at hnodup
  have hord := ho event
  rw [hof] at hx hy hord
  have hx' := (List.mem_append.mp hx).resolve_right fun hxn =>
    List.disjoint_of_nodup_append hnodup (hsplit ▸ Table.mem_keys_iff.mpr hxs)
      (hmem (fun entry he => hold ▸ List.mem_append_right _ he) hxn)
  have hy' := (List.mem_append.mp hy).resolve_left fun hyo => by
    have hin := hmem (fun entry he => hold ▸ List.mem_append_left _ he) hyo
    rw [hsplit] at hin
    simpa [hys] using Table.mem_keys_iff.mp hin
  exact (List.pairwise_append.mp hord).2.2 x hx' y hy'

end Store

namespace Decision
variable {s : Store} {event : EventId} {now : Instant}

/-- Either nothing is left to do, or the first who waits takes a seat. -/
theorem promoteStep_cases (hl : s.Lawful) (ho : s.Orderly) (event : EventId) (now : Instant) :
    s.Full event ∧ ((∃ cause, promoteStep s event now = .refuse cause) ∨ promoteStep s event now = .leave none) ∨
      ¬ s.Full event ∧ ∃ rows, promoteStep s event now = .write 0 rows [.promotions] (some rows) ∧
        (s.puts (rows.map Tracked.registration)).Lawful ∧ (s.puts (rows.map Tracked.registration)).Orderly ∧
        (∀ other ≠ event, s.Full other → (s.puts (rows.map Tracked.registration)).Full other) ∧
        ((s.puts (rows.map Tracked.registration)).queue event).length + 1 = (s.queue event).length := by
  unfold promoteStep
  cases he : s.events.get? event with
  | none => exact .inl ⟨fun e he' => by simp [he] at he', .inl ⟨_, rfl⟩⟩
  | some e =>
    obtain rfl := hl.events_keyed _ _ he
    have hsound := hl.sound _ _ he
    cases hq : s.queue e.id with
    | nil => exact .inl ⟨Store.full_of_empty hq, .inr rfl⟩
    | cons r behind =>
      have hfull : s.Full e.id ↔ e.capacity.toNat ≤ (s.seated e.id).length := by
        refine ⟨fun h => Nat.le_of_eq (h e he (by simp [hq])).symm, fun h e' he' _ => ?_⟩
        rw [he] at he'
        obtain rfl := Option.some.inj he'
        exact Nat.le_antisymm hsound.fits h
      dsimp only
      split
      · next hle => exact .inl ⟨hfull.mpr hle, .inr rfl⟩
      · next hfree =>
        have hmoves : Store.Moves (fun _ => False) e s ((Tracked.seatedAt r now).ahead behind now) :=
          .single (.seat_first hq (Nat.lt_of_not_le hfree) now)
        have hover := hmoves.over hl.keyed
        have hleft := Registration.left_seatedAt r now
        refine .inr ⟨mt hfull.mp hfree, _, rfl, hl.moves he hmoves, ?_⟩
        rw [Tracked.map_registration_ahead] at hover ⊢
        refine ⟨ho.puts hover ?_, fun other hne hf => hf.puts_of_ne hover hne.symm, ?_⟩
        · exact Store.precedes_departure hsound (ho e.id) hl.keyed (List.nil_append _ ▸ hq) hleft (fun _ => rfl) now
        · have hqueue := (Store.queue_departure hsound hl.keyed (show _ = [] ++ r :: behind from hq) hleft now).1
          simp [Tracked.seatedAt_registration, hqueue]

end Decision

namespace Allocate
variable {s : Session} {event : EventId}

/-- Seats are filled until nobody waits or all are given, unless no commit succeeds and all are given. -/
theorem fair_promoteAll (hi : s.Idle) (hl : s.store.Lawful) (ho : s.store.Orderly)
    (hf : ∀ other ≠ event, s.store.Full other) (hfail : s.store.failOnCommit = true → s.store.Full event)
    {limit : Nat} (hlim : (s.store.queue event).length ≤ limit) (changed : List Tracked) :
    ((promoteAll event limit changed).on s).2.store.Fair := by
  induction limit generalizing s changed with
  | zero => exact ho.fair hf (Store.full_of_empty (List.length_eq_zero_iff.mp (Nat.le_zero.mp hlim)))
  | succ limit ih =>
    rw [promoteAll, on_bind, on_promoteStep hi hl]
    have hfair := ho.fair hf
    rcases Decision.promoteStep_cases hl ho event s.clock.next with ⟨hfull, h⟩ | ⟨hfree, rows, h, hl', ho', hf', hlen⟩
    · rcases h with ⟨cause, h⟩ | h
      · rw [show s.tick.store = s.store from rfl, h]
        exact hfair hfull
      · rw [show s.tick.store = s.store from rfl, h]
        exact hfair hfull
    · have hcommit : ¬ s.store.failOnCommit = true := mt hfail hfree
      rw [show s.tick.store = s.store from rfl, h, Decision.outcome, Decision.enact, if_neg (by exact hcommit)]
      let store := (s.store.puts (rows.map Tracked.registration)).announce
        (announcements s.ids (announced rows))
      have hlocked : store.locked = [] := Store.puts_locked.trans hi.locked
      refine ih (s := { s.tick.drawing (0 + (announced rows).length) with store, metrics := _ }) ⟨hi.tx, hlocked⟩
        (hl'.announce _) ho' (fun other hne => hf' other hne (hf other hne))
        (fun hc => absurd (Store.puts_failOnCommit.symm.trans hc) hcommit) ?_ _
      exact Nat.le_of_succ_le_succ (Nat.le_trans (Nat.le_of_eq hlen) hlim)

private theorem on_map_snd {α β : Type} (p : Allocate α) (g : α → β) (s : Session) :
    ((do return g (← p)).on s).2 = (p.on s).2 := by
  rw [on_bind]
  rcases p.on s with ⟨_ | _ | _, _⟩ <;> rfl

theorem fair_increaseCapacity (hi : s.Idle) (hl : s.store.Lawful) (hs : s.store.Fair) (event : EventId)
    (capacity : UInt32) : ((increaseCapacity event capacity).on s).2.store.Fair := by
  rw [increaseCapacity, on_bind, on_raiseCapacity hi hl, Decision.raiseCapacity]
  cases he : s.store.events.get? event with
  | none => exact hs
  | some e =>
    have hlim : (s.store.queue event).length ≤ maxWaitlist := by
      have hlen := (hl.sound event e he).numberedFrom.length_lt (by decide)
      rw [hl.events_keyed _ _ he] at hlen
      exact Nat.le_of_add_left_le hlen
    dsimp only
    by_cases hless : capacity < e.capacity
    · rw [if_pos hless]
      exact hs
    rw [if_neg hless]
    by_cases hlt : e.capacity < capacity
    · rw [if_pos hlt]
      by_cases hfail : s.store.failOnCommit = true
      · rw [Decision.outcome, Decision.enact, if_pos hfail]
        exact hs
      rw [Decision.outcome, Decision.enact, if_neg hfail]
      refine (congrArg (fun s => s.store.Fair) (on_map_snd _ _ _)).mpr ?_
      refine fair_promoteAll (s := { s with store := s.store.setCapacity event capacity }) ⟨hi.tx, hi.locked⟩
        (hl.setCapacity he (UInt32.le_of_lt hlt)) hs.orderly (fun other hne e' he' hq => ?_)
        (fun hc => absurd hc hfail) hlim _
      rw [Store.setCapacity, Table.get?_adjust, if_neg hne] at he'
      exact hs.full other e' he' hq
    · rw [if_neg hlt]
      refine (congrArg (fun s => s.store.Fair) (on_map_snd _ _ _)).mpr ?_
      exact fair_promoteAll hi hl hs.orderly (fun other _ => hs.full other) (fun _ => hs.full event) hlim _

end Allocate

/-- A command with the clock it reads, while commits are made to fail or not. -/
structure Request where
  command : Command
  clock : Supply Instant
  failing : Bool := false

namespace Session
variable {s : Session}

/-- The session once a command has run to completion. -/
def serve (s : Session) (r : Request) : Session :=
  ((Allocate.command r.command).on
    { s with store := { s.store with failOnCommit := r.failing }, clock := r.clock }).2

/-- One command after the other, with identifiers from one supply. -/
def served (s : Session) (requests : List Request) : Session := requests.foldl serve s

/-- A session between commands. -/
structure Fair (s : Session) : Prop where
  consistent : s.Consistent
  fair : s.store.Fair

theorem fair_start (events : List ScheduledEvent) (registrants : List Registrant) (ids : Nat → Uuid) :
    (start events registrants ids).Fair where
  consistent := consistent_start events registrants ids
  fair := by
    have hnone (event : EventId) : (start events registrants ids).store.registrationsOf event = [] :=
      Store.prepared_registrationsOf events registrants event
    refine ⟨fun event => ?_, fun event => Store.full_of_empty ?_⟩
    · rw [hnone]
      exact .nil
    · simp [Store.queue, Store.waiting, hnone]

private theorem fair_command (h : s.Fair) (c : Command) (hd : ((Allocate.command c).on s).2.ids.Distinct) :
    ((Allocate.command c).on s).2.store.Fair := by
  have hi := h.consistent.idle
  have hl := h.consistent.lawful
  cases c with
  | register event registrant =>
    rw [Allocate.command, Allocate.on_register hi hl]
    exact Decision.KeepsFair.enact (s := s.tick)
      (Decision.keepsFair_register hl h.fair fun hf => h.consistent.unused_of_fresh hd hf) h.fair
  | cancel registration =>
    rw [Allocate.command, Allocate.on_cancel hi hl]
    exact Decision.KeepsFair.enact (s := s.tick) (Decision.keepsFair_cancel hl h.fair) h.fair
  | promote event =>
    rw [Allocate.command, Allocate.on_promote hi hl]
    exact Decision.KeepsFair.enact (s := s.tick) (Decision.keepsFair_promote h.fair) h.fair
  | confirm registration =>
    rw [Allocate.command, Allocate.on_confirm hi hl]
    exact Decision.KeepsFair.enact (s := s.tick) (Decision.keepsFair_confirm hl h.fair) h.fair
  | increaseCapacity event capacity => exact Allocate.fair_increaseCapacity hi hl h.fair event capacity

/-- A command that was served leaves the session fair, with all registrations in their order. -/
theorem Fair.serve (h : s.Fair) (r : Request) (hd : (s.serve r).ids.Distinct) :
    (s.serve r).Fair ∧ s.store.registrations.keys <+: (s.serve r).store.registrations.keys := by
  have hface : Session.Fair { s with store := { s.store with failOnCommit := r.failing }, clock := r.clock } :=
    ⟨h.consistent.facing ⟨.promote default, r.clock, r.failing⟩, ⟨h.fair.orderly, h.fair.full⟩⟩
  obtain ⟨ts, hts⟩ := Allocate.composed_command r.command
    { s with store := { s.store with failOnCommit := r.failing }, clock := r.clock }
  have hthrough := hface.consistent.afterAll ts (hts ▸ hd)
  rw [← hts] at hthrough
  exact ⟨⟨hthrough.1, fair_command hface r.command hd⟩, hthrough.2⟩

theorem served_ids (requests : List Request) (s : Session) : ∃ n, (s.served requests).ids = s.ids.skip n := by
  induction requests generalizing s with
  | nil => exact ⟨0, rfl⟩
  | cons r requests ih =>
    obtain ⟨m, hm⟩ := Allocate.on_ids (Allocate.command r.command)
      { s with store := { s.store with failOnCommit := r.failing }, clock := r.clock }
    obtain ⟨n, hn⟩ := ih (s.serve r)
    exact ⟨m + n, hn.trans ((congrArg (·.skip n) hm).trans (Supply.skip_skip _ m n))⟩

theorem served_item (requests : List Request) (s : Session) : (s.served requests).ids.item = s.ids.item := by
  obtain ⟨n, hn⟩ := served_ids requests s
  rw [hn]
  rfl

theorem Fair.served (h : s.Fair) (requests : List Request) (hd : (s.served requests).ids.Distinct) :
    (s.served requests).Fair ∧
      s.store.registrations.keys <+: (s.served requests).store.registrations.keys := by
  induction requests generalizing s with
  | nil => exact ⟨h, List.prefix_rfl⟩
  | cons r requests ih =>
    obtain ⟨n, hn⟩ := served_ids requests (s.serve r)
    have hd' : (s.serve r).ids.Distinct := by
      rw [show s.served (r :: requests) = (s.serve r).served requests from rfl, hn] at hd
      exact hd.of_skip
    obtain ⟨hr, hkeys⟩ := h.serve r hd'
    obtain ⟨hall, hkeys'⟩ := ih hr hd
    exact ⟨hall, hkeys.trans hkeys'⟩

/-- In every state that commands reach from a store without registrations: while somebody waits all seats are
given, and if a registration is confirmed so are all that were committed earlier, unless they were cancelled. -/
theorem no_idle_seat_no_overtaking (events : List ScheduledEvent) (registrants : List Registrant) (ids : Nat → Uuid)
    (before later : List Request)
    (hd : (((start events registrants ids).served before).served later).ids.Distinct) :
    let earlier := (start events registrants ids).served before
    let store := (earlier.served later).store
    ∀ event e, store.events.get? event = some e →
      (store.waiting event ≠ [] → (store.seated event).length = e.capacity.toNat) ∧
      ∀ x ∈ store.registrationsOf event, ∀ y ∈ store.registrationsOf event,
        (earlier.store.registrations.get? x.id).isSome → earlier.store.registrations.get? y.id = none →
        x.status ≠ .cancelled → y.status = .confirmed → x.status = .confirmed := by
  obtain ⟨n, hn⟩ := served_ids later ((start events registrants ids).served before)
  have hd' : ((start events registrants ids).served before).ids.Distinct := by
    rw [hn] at hd
    exact hd.of_skip
  have hbefore := ((fair_start events registrants ids).served before hd').1
  obtain ⟨hlater, hkeys⟩ := hbefore.served later hd
  intro earlier store event e he
  refine ⟨fun hw => hlater.fair.full event e he fun hq => hw ?_, fun x hx y hy hxe hye hactive hseat => ?_⟩
  · exact List.Perm.nil_eq (hq ▸ store.queue_perm event) |>.symm
  · have hxy := hlater.fair.orderly.precedes hlater.consistent.lawful.keyed hkeys hx hy hxe hye
    cases hst : x.status with
    | confirmed => rfl
    | cancelled => exact absurd hst hactive
    | waitlisted => exact absurd hseat (hxy hst).1

/-- Three wait for one seat: the first of them is seated when seats are added, the next when one cancels. -/
theorem no_idle_seat_no_overtaking_oneSeat :
    let earlier := (start [.oneSeat] [⟨⟨⟨0, 2⟩⟩, "a"⟩, ⟨⟨⟨0, 3⟩⟩, "b"⟩, ⟨⟨⟨0, 4⟩⟩, "c"⟩, ⟨⟨⟨0, 5⟩⟩, "d"⟩]
      (IdSupply.counting 1 1).item).served
        [⟨.register ScheduledEvent.oneSeat.id ⟨⟨0, 2⟩⟩, .constant default, false⟩,
          ⟨.register ScheduledEvent.oneSeat.id ⟨⟨0, 3⟩⟩, .constant default, false⟩]
    let store := (earlier.served
        [⟨.register ScheduledEvent.oneSeat.id ⟨⟨0, 4⟩⟩, .constant default, false⟩,
          ⟨.register ScheduledEvent.oneSeat.id ⟨⟨0, 5⟩⟩, .constant default, false⟩,
          ⟨.increaseCapacity ScheduledEvent.oneSeat.id 2, .constant default, false⟩,
          ⟨.cancel ⟨IdSupply.number 1⟩, .constant default, false⟩]).store
    ∀ event e, store.events.get? event = some e →
      (store.waiting event ≠ [] → (store.seated event).length = e.capacity.toNat) ∧
      ∀ x ∈ store.registrationsOf event, ∀ y ∈ store.registrationsOf event,
        (earlier.store.registrations.get? x.id).isSome → earlier.store.registrations.get? y.id = none →
        x.status ≠ .cancelled → y.status = .confirmed → x.status = .confirmed := by
  refine no_idle_seat_no_overtaking _ _ _ _ _ (IdSupply.distinct_of_counting ?_ (by cbv))
  rw [served_item, served_item]
  rfl

end Session
end Turnstile
