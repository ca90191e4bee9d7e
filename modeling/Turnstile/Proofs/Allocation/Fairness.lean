import Turnstile.Proofs.Allocation.Invariant
import Turnstile.Proofs.Store.Turns

/-!
Runs of commands overtake nobody and leave no seat idle: while somebody waits for an event all its seats are
given, and of two registrations the one that came first is seated first.
-/

namespace Turnstile
open scoped List

namespace Store
variable {s : Store} {e : ScheduledEvent} {event other : EventId} {rs : List Registration}

/-- No seat is idle and nobody is overtaken, in any event. -/
structure Fair (s : Store) : Prop where
  orderly : s.Orderly
  full : ∀ event, s.Full event

private theorem registrationsOf_of_ne (hover : s.Over e rs) (hne : e.id ≠ other) :
    (s.puts rs).registrationsOf other = s.registrationsOf other :=
  registrationsOf_puts_of_ne hne (fun r hr => (hover r hr).1) fun r hr old hold => ((hover r hr).2 old hold).1

/-- Writes for one event leave the order of all others. -/
theorem Orderly.puts (ho : s.Orderly) (hover : s.Over e rs)
    (h : ((s.puts rs).registrationsOf e.id).Pairwise Registration.Precedes) : (s.puts rs).Orderly := by
  intro other
  by_cases hne : e.id = other
  · exact hne ▸ h
  · rw [registrationsOf_of_ne hover hne]
    exact ho other

theorem Full.puts_of_ne (hf : s.Full other) (hover : s.Over e rs) (hne : e.id ≠ other) : (s.puts rs).Full other := by
  intro e' he'
  simp only [queue, waiting, seated, registrationsOf_of_ne hover hne]
  exact hf e' (by rwa [puts_events] at he')

theorem Fair.puts (hs : s.Fair) (he : s.events.get? e.id = some e) (hover : s.Over e rs)
    (ho : ((s.puts rs).registrationsOf e.id).Pairwise Registration.Precedes)
    (hf : (s.puts rs).queue e.id ≠ [] → ((s.puts rs).seated e.id).length = e.capacity.toNat) :
    (s.puts rs).Fair := by
  refine ⟨hs.orderly.puts hover ho, fun other => ?_⟩
  by_cases hne : e.id = other
  · subst hne
    intro e' he' hq
    rw [puts_events, he] at he'
    obtain rfl := Option.some.inj he'
    exact hf hq
  · exact (hs.full other).puts_of_ne hover hne

theorem Fair.announce (hs : s.Fair) (messages : List OutboxMessage) : (s.announce messages).Fair :=
  ⟨hs.orderly, hs.full⟩

end Store

namespace Decision
variable {α : Type} {s : Store}

/-- What is written keeps the store fair. -/
def KeepsFair (s : Store) : Decision α → Prop
  | refuse _ | leave _ => True
  | write _ rows _ _ => (s.puts (rows.map Tracked.registration)).Fair
  | raise _ _ _ => False

theorem KeepsFair.enact {s : Session} {d : Decision α} (h : d.KeepsFair s.store) (hs : s.store.Fair) :
    (d.enact s).2.store.Fair := by
  cases d with
  | refuse cause => exact hs
  | leave a => exact hs
  | write fresh rows counted a =>
    rw [Decision.enact]
    by_cases hf : s.store.failOnCommit = true
    · simp only [hf, if_true]
      exact hs
    · simp only [hf]
      exact Store.Fair.announce h _
  | raise event capacity a => exact h.elim

private theorem over_of_moves (id : RegistrationId) {n : Nat} {rows : List Tracked} {counted : List Counter} {a : α}
    (hl : s.Lawful) (h : (write n rows counted a).Moving s id) {e : ScheduledEvent} {t : Tracked} (ht : t ∈ rows)
    (he : t.registration.eventId = e.id) : s.Over e (rows.map Tracked.registration) := by
  obtain ⟨e', -, hmoves⟩ := h
  have hover := hmoves.over hl.keyed
  have hid : e'.id = e.id := (hover _ (List.mem_map_of_mem ht)).1.symm.trans he
  intro r hr
  rw [← hid]
  exact hover r hr

section
variable (hl : s.Lawful) (hs : s.Fair)
include hl hs

private theorem keepsFair_enter {e : ScheduledEvent} (he : s.events.get? e.id = some e) {registrant : RegistrantId}
    {now : Instant} {id : RegistrationId}
    (hid : 0 < (enter s e registrant now id).fresh → s.registrations.get? id = none) :
    (enter s e registrant now id).KeepsFair s := by
  have hsound := hl.sound _ _ he
  have hover {t : Tracked} (ht : s.registrations.get? t.registration.id = none)
      (hte : t.registration.eventId = e.id) : s.Over e [t.registration] := by
    simp [Store.Over, ht, hte]
  revert hid
  unfold enter
  split
  · next hfree =>
    intro hid
    replace hid := hid Nat.one_pos
    have hempty : s.queue e.id = [] := by
      by_contra hne
      have hfull := hs.full e.id e he hne
      omega
    refine hs.puts he (hover hid rfl) ?_ fun hne => absurd ?_ hne
    · exact Store.precedes_put_new hsound (hs.orderly e.id) hid rfl (.inl ⟨rfl, hempty⟩)
    · exact ((Store.queue_put_new hsound hl.keyed hid rfl (.inl ⟨rfl, rfl, hfree⟩)).1).trans hempty
  split
  · next hfree hlt =>
    intro hid
    replace hid := hid Nat.one_pos
    let r := (Tracked.queued e.id registrant (.ofNat (s.queue e.id).length + 1) now id).registration
    have hrank : r.rank = some ((s.waiting e.id).length + 1) := by
      rw [← (s.queue_perm e.id).length_eq, ← toNat_ofNat_succ hlt]
      rfl
    refine hs.puts he (hover hid rfl) ?_ fun _ => ?_
    · exact Store.precedes_put_new hsound (hs.orderly e.id) hid rfl (.inr ⟨rfl, hrank⟩)
    · have hseats := Store.seated_put_new (r := r) hl.keyed hid rfl
      exact hseats.length_eq.trans (Nat.le_antisymm hsound.fits (Nat.le_of_not_lt hfree))
  · exact fun _ => trivial

theorem keepsFair_register {event : EventId} {registrant : RegistrantId} {now : Instant} {id : RegistrationId}
    (hid : 0 < (register s event registrant now id).fresh → s.registrations.get? id = none) :
    (register s event registrant now id).KeepsFair s := by
  revert hid
  unfold register
  split
  · exact fun _ => trivial
  next e he =>
  obtain rfl := hl.events_keyed _ _ he
  split
  · exact fun _ => trivial
  split
  · exact fun _ => trivial
  split
  · exact fun _ => trivial
  exact keepsFair_enter hl hs he

section
variable {e : ScheduledEvent} {r : Registration} (he : s.events.get? r.eventId = some e)
  (hr : s.registrations.get? r.id = some r)
include he hr

omit hs hr in
private theorem event_self : s.events.get? e.id = some e := by
  rw [hl.events_keyed _ _ he]
  exact he

/-- A freed seat is taken at once by the first who waits. -/
private theorem keepsFair_cancelSeat (hst : r.status = .confirmed) (now : Instant) :
    (cancelSeat s r now).KeepsFair s := by
  have hide := hl.events_keyed _ _ he
  have hsound := hl.sound _ _ he
  have hm : r ∈ s.seated e.id := (Store.mem_seated hl.keyed).mpr ⟨hr, hide.symm, hst⟩
  have hover := over_of_moves r.id (e := e) hl (moving_cancelSeat hl he hr hst now) List.mem_cons_self
    hide.symm
  have hvacant := Store.precedes_vacate (hs.orderly e.id) hl.keyed hm now
  have hqueue := Store.queue_vacate hsound hl.keyed hm now
  change (s.puts ((Tracked.cancelledAt r now :: Tracked.advance now (s.queue r.eventId)).map
    Tracked.registration)).Fair
  rw [← hide] at hover ⊢
  cases hq : s.queue e.id with
  | nil =>
    rw [hq] at hover
    exact hs.puts (event_self hl he) hover hvacant fun hne => absurd (hqueue.trans hq) hne
  | cons x behind =>
    rw [hq] at hover hqueue
    have hrows : (Tracked.cancelledAt r now :: Tracked.advance now (x :: behind)).map Tracked.registration =
        r.cancelledAt now :: Store.departure (x.seatedAt now) behind now := by
      rw [List.map_cons, Tracked.advance, Tracked.map_registration_ahead]
      rfl
    rw [hrows] at hover ⊢
    have hsound' := hsound.vacate hl.keyed hm now
    have hleft := Registration.left_seatedAt x now
    refine hs.puts (event_self hl he) hover ?_ fun _ => ?_
    · exact Store.precedes_departure hsound' hvacant hl.keyed.put (List.nil_append _ ▸ hqueue) hleft
        (fun _ => rfl) now
    · have hfull := hs.full e.id e (event_self hl he) (by simp [hq])
      have hseats := (Store.seated_vacate hl.keyed hm now).length_eq
      have htaken := Store.seated_departure hl.keyed.put
        (show _ = [] ++ x :: (behind ++ []) by simpa using hqueue) hleft now
      refine htaken.length_eq.trans ?_
      rw [if_pos (by simp [Registration.isConfirmed]), ← hfull, hseats]
      rfl

/-- Whoever leaves the waitlist for good leaves the seats as they are. -/
private theorem keepsFair_cancelPlace (hst : r.status = .waitlisted) (now : Instant) :
    (cancelPlace s r now).KeepsFair s := by
  have hide := hl.events_keyed _ _ he
  have hsound := hl.sound _ _ he
  have hover := over_of_moves r.id (e := e) hl (moving_cancelPlace hl he hr hst now) List.mem_cons_self
    hide.symm
  obtain ⟨pre, hq⟩ := queue_split hl he hr hst
  have hleft := Registration.left_cancelledAt r now
  have hrows : (Tracked.cancelledAt r now :: (s.behind r).map fun x => .movedUpAt x now).map Tracked.registration =
      Store.departure (r.cancelledAt now) (s.behind r) now :=
    Tracked.map_registration_ahead _ _ _
  change (s.puts ((Tracked.cancelledAt r now :: (s.behind r).map fun x => .movedUpAt x now).map
    Tracked.registration)).Fair
  rw [hrows] at hover ⊢
  refine hs.puts (event_self hl he) hover ?_ fun _ => ?_
  · exact Store.precedes_departure hsound (hs.orderly e.id) hl.keyed hq hleft (fun h => by simp at h) now
  · have hseats := Store.seated_departure hl.keyed
      (show _ = pre ++ r :: (s.behind r ++ []) by simpa using hq) hleft now
    refine hseats.length_eq.trans ?_
    rw [if_neg (by simp [Registration.isConfirmed])]
    exact hs.full e.id e (event_self hl he) (by simp [hq])

end

theorem keepsFair_cancel {rid : RegistrationId} {now : Instant} : (cancel s rid now).KeepsFair s := by
  unfold cancel
  split
  · trivial
  · next r hr =>
    obtain rfl := hl.keyed _ _ hr
    split
    · trivial
    · next e he =>
      split
      · trivial
      · next hst => exact keepsFair_cancelSeat hl hs he hr hst now
      · next hst => exact keepsFair_cancelPlace hl hs he hr hst now

/-- While somebody waits no seat is free, so nobody is let in ahead of others. -/
theorem keepsFair_confirm {rid : RegistrationId} {now : Instant} : (confirm s rid now).KeepsFair s := by
  unfold confirm
  split
  · trivial
  · next r hr =>
    obtain rfl := hl.keyed _ _ hr
    split
    · trivial
    · next e he =>
      split
      · trivial
      split
      · trivial
      · next hst hfree =>
        obtain ⟨pre, hq⟩ := queue_split hl he hr (not_not.mp hst)
        have hfull := hs.full r.eventId e he (by rw [← hl.events_keyed _ _ he]; simp [hq])
        omega

omit hl in
theorem keepsFair_promote {event : EventId} {now : Instant} : (promote s event now).KeepsFair s := by
  unfold promote
  split
  · trivial
  · next e he =>
    split
    · trivial
    · next r behind hq =>
      split
      · trivial
      · next hfree =>
        have hfull := hs.full event e he (by simp [hq])
        omega

end

end Decision
end Turnstile
