import Turnstile.Proofs.Allocation.Change
import Turnstile.Proofs.Store.Changes

/-!
Every decision records what it changes: the events of its rows are those that the changed registrations tell,
and they are the events that the command returns.
-/

namespace Turnstile
open scoped List

namespace RegistrationEvent
variable {r : Registration} {now : Instant}

theorem between?_cancelledAt (h : r.status ≠ .cancelled) :
    (Tracked.cancelledAt r now).pending = (between? (some r) (r.cancelledAt now)).toList := by
  cases hs : r.status <;> simp_all [between?, Tracked.cancelledAt, Registration.subject]

theorem between?_seatedAt (h : r.status = .waitlisted) :
    (Tracked.seatedAt r now).pending = (between? (some r) (r.seatedAt now)).toList := by
  simp [between?, h, Tracked.seatedAt, Registration.subject]

theorem between?_movedUpAt (h : r.status = .waitlisted) {place : UInt32} (hp : r.position = some place) :
    (Tracked.movedUpAt r now).pending = (between? (some r) (r.movedUpAt now)).toList := by
  have hne : place ≠ place - 1 := by
    intro h
    have hnat := congrArg UInt32.toNat h
    rw [UInt32.toNat_sub] at hnat
    have hlt := place.toNat_lt
    simp only [UInt32.toNat_one] at hnat
    omega
  simp [between?, h, hp, hne, Tracked.movedUpAt, Registration.subject]

end RegistrationEvent

namespace Store
variable {s : Store} {e : ScheduledEvent} {r : Registration} {pre post : List Registration} {t : Tracked}

theorem records_nil : s.Records [] := ⟨.nil, by simp⟩

/-- Somebody new comes in. -/
theorem records_new (hid : s.registrations.get? t.registration.id = none)
    (h : t.pending = (RegistrationEvent.between? none t.registration).toList) : s.Records [t] where
  nodup := by simp
  pending := by simpa [hid] using h

/-- One leaves the waitlist and those behind move up. -/
theorem records_ahead (hs : s.Sound e) (hk : s.Keyed) (hq : s.queue e.id = pre ++ r :: post)
    (hl : t.registration.Left r) {now : Instant}
    (ht : t.pending = (RegistrationEvent.between? (some r) t.registration).toList) : s.Records (t.ahead post now) := by
  have hstored {x : Registration} (hx : x ∈ r :: post) :
      s.registrations.get? x.id = some x ∧ x.status = .waitlisted ∧ ∃ place, x.position = some place := by
    have hm : x ∈ s.queue e.id := by
      rw [hq]
      exact List.mem_append_right _ hx
    obtain ⟨hget, -, hst⟩ := (mem_waiting hk).mp (mem_queue.mp hm)
    obtain ⟨k, hrank, -⟩ := hs.numberedFrom.rank_bounds hm
    obtain ⟨place, hp, -⟩ := Option.map_eq_some_iff.mp hrank
    exact ⟨hget, hst, place, hp⟩
  constructor
  case nodup =>
    have hids := nodup_departure_ids hk (show _ = pre ++ r :: (post ++ []) by simpa using hq) hl now
    rw [← Tracked.map_registration_ahead, List.map_map] at hids
    exact hids
  case pending =>
    intro x hx
    rcases List.mem_cons.mp hx with rfl | hx
    · rw [hl.id, (hstored List.mem_cons_self).1]
      exact ht
    · obtain ⟨y, hy, rfl⟩ := List.mem_map.mp hx
      obtain ⟨hget, hst, place, hp⟩ := hstored (List.mem_cons_of_mem _ hy)
      rw [Tracked.movedUpAt_registration, Registration.movedUpAt_id, hget]
      exact RegistrationEvent.between?_movedUpAt hst hp

/-- Whoever has a seat leaves it to the first who waits. -/
theorem records_vacate (hs : s.Sound e) (hk : s.Keyed) (hr : r ∈ s.seated e.id) (now : Instant) :
    s.Records (.cancelledAt r now :: Tracked.advance now (s.queue e.id)) := by
  obtain ⟨hget, -, hst⟩ := (mem_seated hk).mp hr
  have hrest : s.Records (Tracked.advance now (s.queue e.id)) ∧
      ∀ t ∈ Tracked.advance now (s.queue e.id), ∃ x ∈ s.queue e.id, x.id = t.registration.id := by
    cases hq : s.queue e.id with
    | nil => exact ⟨records_nil, by simp [Tracked.advance]⟩
    | cons x behind =>
      have hx : x.status = .waitlisted := by
        have hm : x ∈ s.queue e.id := by simp [hq]
        exact ((mem_waiting hk).mp (mem_queue.mp hm)).2.2
      refine ⟨records_ahead hs hk (show _ = [] ++ x :: behind from hq) (Registration.left_seatedAt x now)
        (RegistrationEvent.between?_seatedAt hx), fun t ht => ?_⟩
      rcases List.mem_cons.mp ht with rfl | ht
      · exact ⟨x, List.mem_cons_self, rfl⟩
      · obtain ⟨y, hy, rfl⟩ := List.mem_map.mp ht
        exact ⟨y, List.mem_cons_of_mem _ hy, rfl⟩
  refine ⟨List.nodup_cons.mpr ⟨fun hin => ?_, hrest.1.nodup⟩, fun t ht => ?_⟩
  · obtain ⟨t, ht, hid⟩ := List.mem_map.mp hin
    obtain ⟨x, hx, hxid⟩ := hrest.2 t ht
    obtain ⟨hxget, -, hxst⟩ := (mem_waiting hk).mp (mem_queue.mp hx)
    have hrid : x.id = r.id := hxid.trans hid
    rw [hrid, hget] at hxget
    rw [Option.some.inj hxget, hxst] at hst
    cases hst
  · rcases List.mem_cons.mp ht with rfl | ht
    · rw [Tracked.cancelledAt_registration, Registration.cancelledAt_id, hget]
      exact RegistrationEvent.between?_cancelledAt (by simp [hst])
    · exact hrest.1.pending t ht

end Store

/-- The events of an allocation, in the order in which they are told. -/
def Allocation.events (a : Allocation) : List RegistrationEvent := a.changed.flatMap Tracked.pending

theorem Allocation.events_of_noop {a : Allocation} (h : a.isNoop = true) : a.events = [] := by
  simp only [isNoop, Bool.and_eq_true, List.isEmpty_iff] at h
  obtain ⟨haffected, htarget⟩ := h
  rw [events, changed, haffected, List.append_nil]
  cases ht : a.target with
  | none => rfl
  | some t => simpa [ht, Tracked.hasPending] using htarget

namespace Decision
variable {α : Type} {s : Store}

/-- The rows carry the events that their writing calls for, and `told` of the result is those events. -/
def Recorded (s : Store) (told : α → List RegistrationEvent) : Decision α → Prop
  | refuse _ => True
  | leave a => told a = []
  | write _ rows _ a => s.Records rows ∧ told a = rows.flatMap Tracked.pending
  | raise _ _ a => told a = []

theorem recorded_register {event : EventId} {registrant : RegistrantId} {now : Instant} {id : RegistrationId}
    (hid : 0 < (register s event registrant now id).fresh → s.registrations.get? id = none) :
    (register s event registrant now id).Recorded s Allocation.events := by
  revert hid
  unfold register enter
  repeat' split
  all_goals first
    | exact fun _ => trivial
    | exact fun hid => ⟨Store.records_new (hid Nat.one_pos) rfl, rfl⟩

private theorem recorded_replace {t : Tracked} {moved : List Tracked} (counted : List Counter)
    (h : s.Records (t :: moved)) : (replace t moved counted).Recorded s Allocation.events := ⟨h, rfl⟩

section
variable (hl : s.Lawful)
include hl

private theorem recorded_seat {e : ScheduledEvent} {r : Registration} (he : s.events.get? r.eventId = some e)
    (hr : s.registrations.get? r.id = some r) (hst : r.status = .waitlisted) (now : Instant) :
    (seat s r now).Recorded s Allocation.events := by
  obtain ⟨pre, hq⟩ := queue_split hl he hr hst
  exact recorded_replace _ (Store.records_ahead (hl.sound _ _ he) hl.keyed hq (Registration.left_seatedAt r now)
    (RegistrationEvent.between?_seatedAt hst))

theorem recorded_cancel {id : RegistrationId} {now : Instant} :
    (cancel s id now).Recorded s Allocation.events := by
  unfold cancel
  split
  · trivial
  · next r hr =>
    obtain rfl := hl.keyed _ _ hr
    split
    · trivial
    · next e he =>
      have hide := hl.events_keyed _ _ he
      split
      · rfl
      · next hst =>
        have hm : r ∈ s.seated e.id := (Store.mem_seated hl.keyed).mpr ⟨hr, hide.symm, hst⟩
        have hrec := Store.records_vacate (hl.sound _ _ he) hl.keyed hm now
        rw [hide] at hrec
        exact recorded_replace _ hrec
      · next hst =>
        obtain ⟨pre, hq⟩ := queue_split hl he hr hst
        exact recorded_replace _ (Store.records_ahead (hl.sound _ _ he) hl.keyed hq
          (Registration.left_cancelledAt r now) (RegistrationEvent.between?_cancelledAt (by simp [hst])))

theorem recorded_promote {event : EventId} {now : Instant} :
    (promote s event now).Recorded s Allocation.events := by
  unfold promote
  split
  · trivial
  · next e he =>
    split
    · rfl
    · next r behind hq =>
      split
      · trivial
      · have hm : r ∈ s.queue event := by simp [hq]
        obtain ⟨hr, rfl, hst⟩ := (Store.mem_waiting hl.keyed).mp (Store.mem_queue.mp hm)
        exact recorded_seat hl he hr hst now

theorem recorded_confirm {id : RegistrationId} {now : Instant} :
    (confirm s id now).Recorded s Allocation.events := by
  unfold confirm
  split
  · trivial
  · next r hr =>
    obtain rfl := hl.keyed _ _ hr
    split
    · trivial
    · next e he =>
      split
      · trivial
      split
      · trivial
      · next hst hfree => exact recorded_seat hl he hr (not_not.mp hst) now

theorem recorded_promoteStep {event : EventId} {now : Instant} :
    (promoteStep s event now).Recorded s fun changed? => (changed?.getD []).flatMap Tracked.pending := by
  unfold promoteStep
  split
  · trivial
  · next e he =>
    obtain rfl := hl.events_keyed _ _ he
    split
    · rfl
    · next r behind hq =>
      split
      · rfl
      · have hst : r.status = .waitlisted := by
          have hm : r ∈ s.queue e.id := by simp [hq]
          exact ((Store.mem_waiting hl.keyed).mp (Store.mem_queue.mp hm)).2.2
        exact ⟨Store.records_ahead (hl.sound _ _ he) hl.keyed (show _ = [] ++ r :: behind from hq)
          (Registration.left_seatedAt r now) (RegistrationEvent.between?_seatedAt hst), rfl⟩

end

theorem recorded_raiseCapacity (s : Store) (event : EventId) (capacity : UInt32) :
    (raiseCapacity s event capacity).Recorded s fun _ => [] := by
  unfold raiseCapacity
  repeat' split
  all_goals trivial

/-- What a decision that was carried out has changed is what it tells. -/
theorem Recorded.changes {s : Session} {d : Decision α} {told : α → List RegistrationEvent}
    (h : d.Recorded s.store told) :
    match (d.enact s).1 with
    | .error _ => (d.enact s).2.store = s.store
    | .ok a => RegistrationEvent.changes s.store.registrations (d.enact s).2.store.registrations ~ told a := by
  cases d with
  | refuse cause => rfl
  | leave a => exact List.Perm.of_eq ((RegistrationEvent.changes_self _).trans h.symm)
  | write fresh rows counted a =>
    rw [enact]
    by_cases hf : s.store.failOnCommit = true
    · simp only [hf, if_true]
      rfl
    · simp only [hf]
      exact h.1.changes.trans (List.Perm.of_eq h.2.symm)
  | raise event capacity a =>
    rw [enact]
    by_cases hf : s.store.failOnCommit = true
    · simp only [hf, if_true]
    · simp only [hf]
      exact List.Perm.of_eq ((RegistrationEvent.changes_self _).trans h.symm)

end Decision
end Turnstile
