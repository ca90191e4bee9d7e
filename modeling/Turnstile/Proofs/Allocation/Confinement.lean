import Turnstile.Proofs.Allocation.Sharing

/-!
What a command decides for one event stays within it: the rows are registrations of the event, the capacity is
its own, and all that is announced is about it.
-/

namespace Turnstile

/-- The row announces something about a registration of the event. -/
def OutboxMessage.Tells (m : OutboxMessage) (event : EventId) : Prop :=
  ∃ e : RegistrationEvent, m.Announces e ∧ e.subject.eventId = event

/-- Every change is one of the event, and so is every event that it records. -/
def Tracked.Within (t : Tracked) (event : EventId) : Prop :=
  t.registration.eventId = event ∧ ∀ e ∈ t.pending, e.subject.eventId = event

private theorem exists_announced {m : OutboxMessage} {ids : IdSupply} {events : List RegistrationEvent}
    (hm : m ∈ announcements ids events) : ∃ e ∈ events, m.Announces e := by
  induction events generalizing ids with
  | nil => simp [announcements] at hm
  | cons e events ih =>
    rcases List.mem_cons.mp hm with rfl | hm
    · exact ⟨e, List.mem_cons_self, ⟨rfl, ⟨rfl, rfl⟩, rfl, rfl, rfl, rfl, rfl⟩⟩
    · obtain ⟨x, hx, ha⟩ := ih hm
      exact ⟨x, List.mem_cons_of_mem _ hx, ha⟩

namespace Store

/-- `s'` is `s` with another state of one event and with rows that tell of it. Only `id` is new. -/
structure Confined (event : EventId) (id : RegistrationId) (rows : List OutboxMessage) (s s' : Store) : Prop where
  elsewhere : ∀ other ≠ event, s'.Shares other s
  outbox : s'.outbox = s.outbox ++ rows
  tells : ∀ m ∈ rows, m.Tells event
  known : ∀ i, (s'.registrations.get? i).isSome → (s.registrations.get? i).isSome ∨ i = id

namespace Confined
variable {event : EventId} {id : RegistrationId} {rows rows' : List OutboxMessage} {s s' s'' : Store}

theorem refl (event : EventId) (id : RegistrationId) (s : Store) : s.Confined event id [] s where
  elsewhere other _ := .refl other s
  outbox := (List.append_nil _).symm
  tells := by simp
  known _ := .inl

theorem trans (h : s.Confined event id rows s') (h' : s'.Confined event id rows' s'') :
    s.Confined event id (rows ++ rows') s'' where
  elsewhere other hne := (h'.elsewhere other hne).trans (h.elsewhere other hne)
  outbox := by rw [h'.outbox, h.outbox, List.append_assoc]
  tells m hm := (List.mem_append.mp hm).elim (h.tells m) (h'.tells m)
  known i hi := (h'.known i hi).elim (h.known i) .inr

/-- What is written for an event by moves of it. -/
theorem of_moves {e : ScheduledEvent} {new : RegistrationId → Prop} {changes : List Tracked} (hk : s.Keyed)
    (hm : Moves new e s changes) (hnew : ∀ i, new i → i = id) (hin : ∀ t ∈ changes, t.Within event)
    (ids : IdSupply) :
    s.Confined event id (announcements ids (announced changes))
      ((s.puts (changes.map Tracked.registration)).announce (announcements ids (announced changes))) where
  elsewhere other hne := by
    cases changes with
    | nil => exact ⟨rfl, fun _ _ _ => .rfl, fun _ => rfl⟩
    | cons t rest =>
      have hover := hm.over hk
      have he : event = e.id := (hin t List.mem_cons_self).1.symm.trans (hover _ List.mem_cons_self).1
      have h := hover.shares_of_ne hk (he ▸ hne)
      exact ⟨h.found, h.rows, h.registrants⟩
  outbox := congrArg (· ++ _) puts_outbox
  tells m hmem := by
    obtain ⟨e, he, ha⟩ := exists_announced hmem
    obtain ⟨t, ht, het⟩ := List.mem_flatMap.mp (List.mem_of_mem_filter he)
    exact ⟨e, ha, (hin t ht).2 e het⟩
  known i hi := by
    by_cases hmem : i ∈ (changes.map Tracked.registration).map Registration.id
    · obtain ⟨r, hr, rfl⟩ := List.mem_map.mp hmem
      obtain ⟨t, ht, rfl⟩ := List.mem_map.mp hr
      exact (hm.known hk t ht).imp_right (hnew _)
    · exact .inl (by rwa [← get?_puts_of_notMem (s := s) hmem])

theorem setCapacity (s : Store) (event : EventId) (id : RegistrationId) (capacity : UInt32) :
    s.Confined event id [] (s.setCapacity event capacity) where
  elsewhere other hne := by
    refine ⟨?_, fun _ _ _ => .rfl, fun _ => rfl⟩
    rw [Store.setCapacity, Table.get?_adjust, if_neg hne]
  outbox := (List.append_nil _).symm
  tells := by simp
  known _ := .inl

end Confined

end Store

namespace Decision
variable {α : Type} {event : EventId} {s : Store}

/-- Only rows of the event are written, and only its capacity. -/
def Within (event : EventId) : Decision α → Prop
  | refuse _ | leave _ => True
  | write _ rows _ _ => ∀ t ∈ rows, t.Within event
  | raise event' _ _ => event' = event

private theorem within_moved {rs : List Registration} (h : ∀ r ∈ rs, r.eventId = event) (now : Instant) :
    ∀ t ∈ rs.map fun r => Tracked.movedUpAt r now, t.Within event := by
  intro t ht
  obtain ⟨r, hr, rfl⟩ := List.mem_map.mp ht
  simp [Tracked.Within, Tracked.movedUpAt, RegistrationEvent.subject, Registration.subject, h r hr]

private theorem within_seatedAt {r : Registration} (h : r.eventId = event) (now : Instant) :
    (Tracked.seatedAt r now).Within event := by
  simp [Tracked.Within, Tracked.seatedAt, RegistrationEvent.subject, Registration.subject, h]

private theorem within_cancelledAt {r : Registration} (h : r.eventId = event) (now : Instant) :
    (Tracked.cancelledAt r now).Within event := by
  simp [Tracked.Within, Tracked.cancelledAt, RegistrationEvent.subject, Registration.subject, h]

private theorem within_ahead {t : Tracked} {behind : List Registration} (ht : t.Within event)
    (h : ∀ r ∈ behind, r.eventId = event) (now : Instant) : ∀ x ∈ t.ahead behind now, x.Within event :=
  List.forall_mem_cons.mpr ⟨ht, within_moved h now⟩

theorem within_register (s : Store) (registrant : RegistrantId) (now : Instant) (id : RegistrationId)
    (hk : s.events.KeyedBy ScheduledEvent.id) : (register s event registrant now id).Within event := by
  unfold register
  split
  · trivial
  · next e he =>
    obtain rfl := hk _ _ he
    unfold enter
    repeat' split
    all_goals simp [Within, Tracked.Within, Tracked.confirmed, Tracked.queued, RegistrationEvent.subject,
      Registration.subject]

section
variable (hk : s.Keyed)
include hk

private theorem eventId_of_queue (event : EventId) : ∀ r ∈ s.queue event, r.eventId = event :=
  fun _ hr => ((Store.mem_waiting hk).mp (Store.mem_queue.mp hr)).2.1

private theorem eventId_of_behind {r : Registration} (hr : r.eventId = event) :
    ∀ x ∈ s.behind r, x.eventId = event :=
  fun x hx => (eventId_of_queue hk _ x (List.mem_of_mem_filter hx)).trans hr

private theorem within_seat {r : Registration} (hr : r.eventId = event) (now : Instant) :
    (seat s r now).Within event :=
  within_ahead (within_seatedAt hr now) (eventId_of_behind hk hr) now

theorem within_cancel {id : RegistrationId} {r : Registration} (hr : s.registrations.get? id = some r)
    (hev : r.eventId = event) (now : Instant) : (cancel s id now).Within event := by
  unfold cancel
  rw [hr]
  dsimp only
  split
  · trivial
  split
  · trivial
  · refine List.forall_mem_cons.mpr ⟨within_cancelledAt hev now, ?_⟩
    have hq := eventId_of_queue hk r.eventId
    cases h : s.queue r.eventId with
    | nil => simp [Tracked.advance]
    | cons x behind =>
      rw [h, hev] at hq
      obtain ⟨hx, hbehind⟩ := List.forall_mem_cons.mp hq
      exact within_ahead (within_seatedAt hx now) hbehind now
  · exact within_ahead (within_cancelledAt hev now) (eventId_of_behind hk hev) now

theorem within_confirm {id : RegistrationId} {r : Registration} (hr : s.registrations.get? id = some r)
    (hev : r.eventId = event) (now : Instant) : (confirm s id now).Within event := by
  unfold confirm
  rw [hr]
  dsimp only
  repeat' split
  all_goals first | trivial | exact within_seat hk hev now

theorem within_promote (now : Instant) : (promote s event now).Within event := by
  have hq := eventId_of_queue hk event
  unfold promote
  split
  · trivial
  split
  · trivial
  · next r behind h =>
    rw [h] at hq
    split
    · trivial
    · exact within_seat hk (List.forall_mem_cons.mp hq).1 now

theorem within_promoteStep (now : Instant) : (promoteStep s event now).Within event := by
  have hq := eventId_of_queue hk event
  unfold promoteStep
  split
  · trivial
  split
  · trivial
  · next r behind h =>
    rw [h] at hq
    obtain ⟨hr, hbehind⟩ := List.forall_mem_cons.mp hq
    split
    · trivial
    · exact within_ahead (within_seatedAt hr now) hbehind now

end

theorem within_raiseCapacity (s : Store) (capacity : UInt32) : (raiseCapacity s event capacity).Within event := by
  unfold raiseCapacity
  repeat' split
  all_goals trivial

end Decision

namespace Decision
variable {α : Type} {event : EventId} {id : RegistrationId} {s : Session} {d : Decision α}

/-- The rows that a decision appends to the outbox. -/
def told (s : Session) : Decision α → List OutboxMessage
  | write fresh rows _ _ =>
    if s.store.failOnCommit then [] else announcements (s.ids.skip fresh) (announced rows)
  | _ => []

theorem confined_enact (hk : s.store.Keyed) (hw : d.Within event) (hm : d.Moving s.store id) :
    s.store.Confined event id (d.told s) (d.enact s).2.store := by
  cases d with
  | refuse cause => exact .refl event id s.store
  | leave a => exact .refl event id s.store
  | write fresh rows counted a =>
    obtain ⟨e, -, hmoves⟩ := hm
    by_cases hf : s.store.failOnCommit = true
    · simp only [enact, told, hf, if_true]
      exact .refl event id s.store
    · simp only [enact, told, hf]
      exact .of_moves hk hmoves (fun _ h => h.2) hw _
  | raise event' capacity a =>
    obtain rfl : event' = event := hw
    by_cases hf : s.store.failOnCommit = true
    · simp only [enact, told, hf, if_true]
      exact .refl event' id s.store
    · simp only [enact, told, hf]
      exact .setCapacity s.store event' id capacity

end Decision
end Turnstile
