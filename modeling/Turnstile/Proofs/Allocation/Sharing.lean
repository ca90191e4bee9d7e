import Turnstile.Proofs.Allocation.Transaction

/-!
Two stores that hold the same of one event, whatever else they hold. What is read of the event is the same in
both: its seats, its waitlist and who is registered.
-/

namespace Turnstile
open scoped List

namespace Store

/-- The event with its registrations is the same in both stores, and so is who may register. -/
structure Shares (event : EventId) (s t : Store) : Prop where
  found : s.events.get? event = t.events.get? event
  rows : ∀ id r, r.eventId = event → (s.registrations.get? id = some r ↔ t.registrations.get? id = some r)
  registrants : ∀ id, s.registrants.contains id = t.registrants.contains id

variable {event : EventId} {s s' t t' u : Store} {e : ScheduledEvent} {rs : List Registration}

namespace Shares

theorem refl (event : EventId) (s : Store) : s.Shares event s := ⟨rfl, fun _ _ _ => .rfl, fun _ => rfl⟩

theorem symm (h : s.Shares event t) : t.Shares event s :=
  ⟨h.found.symm, fun id r he => (h.rows id r he).symm, fun id => (h.registrants id).symm⟩

theorem trans (h : s.Shares event t) (h' : t.Shares event u) : s.Shares event u :=
  ⟨h.found.trans h'.found, fun id r he => (h.rows id r he).trans (h'.rows id r he),
    fun id => (h.registrants id).trans (h'.registrants id)⟩

section
variable (h : s.Shares event t) (hs : s.Lawful) (ht : t.Lawful)
include h hs ht

theorem registrationsOf_perm : s.registrationsOf event ~ t.registrationsOf event := by
  refine (List.perm_ext_iff_of_nodup (nodup_registrationsOf hs.keyed event)
    (nodup_registrationsOf ht.keyed event)).mpr fun r => ?_
  rw [mem_registrationsOf hs.keyed, mem_registrationsOf ht.keyed]
  exact and_congr_left (h.rows r.id r)

theorem seated_length : (s.seated event).length = (t.seated event).length :=
  ((h.registrationsOf_perm hs ht).filter _).length_eq

theorem any_active (p : Registration → Bool) : (s.active event).any p = (t.active event).any p := by
  have hp := (h.registrationsOf_perm hs ht).filter Registration.isActive
  rw [Bool.eq_iff_iff, List.any_eq_true, List.any_eq_true]
  exact exists_congr fun r => and_congr_left fun _ => hp.mem_iff

/-- The waitlist of a sound event has one order only, so it is the same list in both. -/
theorem queue_eq (he : t.events.get? event = some e) : s.queue event = t.queue event := by
  obtain rfl := ht.events_keyed _ _ he
  have hw := (h.registrationsOf_perm hs ht).filter Registration.isWaitlisted
  exact Store.queue_eq ((t.queue_perm e.id).trans hw.symm) (ht.sound _ _ he).numberedFrom

theorem behind_eq {r : Registration} (hr : r.eventId = event) (he : t.events.get? event = some e) :
    s.behind r = t.behind r := by
  rw [behind, behind, hr, h.queue_eq hs ht he]

end

theorem puts (h : s.Shares event t) : (s.puts rs).Shares event (t.puts rs) := by
  induction rs generalizing s t with
  | nil => exact h
  | cons r rs ih =>
    refine ih ⟨h.found, fun id x hx => ?_, h.registrants⟩
    rw [put_registrations, put_registrations, Table.get?_insert, Table.get?_insert]
    split
    · rfl
    · exact h.rows id x hx

theorem announce (h : s.Shares event t) (messages messages' : List OutboxMessage) :
    (s.announce messages).Shares event (t.announce messages') := ⟨h.found, h.rows, h.registrants⟩

theorem setCapacity (h : s.Shares event t) (capacity : UInt32) :
    (s.setCapacity event capacity).Shares event (t.setCapacity event capacity) where
  found := by
    rw [Store.setCapacity, Store.setCapacity, Table.get?_adjust, Table.get?_adjust, h.found]
  rows := h.rows
  registrants := h.registrants

end Shares

/-- Stores that share every event have the same events and registrations. -/
theorem ext_of_shares (h : ∀ event, s.Shares event t) :
    (∀ id, s.events.get? id = t.events.get? id) ∧ ∀ id, s.registrations.get? id = t.registrations.get? id := by
  refine ⟨fun id => (h id).found, fun id => Option.ext fun r => ?_⟩
  exact (h r.eventId).rows id r rfl

/-- Rows of one event written over rows of the same event leave all other events alone. -/
theorem Over.shares_of_ne (h : s.Over e rs) (hk : s.Keyed) (hne : event ≠ e.id) : (s.puts rs).Shares event s where
  found := by rw [puts_events]
  rows id r hr := by
    have heq : (s.puts rs).registrationsOf event = s.registrationsOf event :=
      registrationsOf_puts_of_ne hne.symm (fun x hx => (h x hx).1) fun x hx old hold => ((h x hx).2 old hold).1
    constructor
    · intro hget
      obtain rfl := hk.puts _ _ hget
      have hmem := (mem_registrationsOf hk.puts).mpr ⟨hget, hr⟩
      rw [heq] at hmem
      exact ((mem_registrationsOf hk).mp hmem).1
    · intro hget
      obtain rfl := hk _ _ hget
      have hmem := (mem_registrationsOf hk).mpr ⟨hget, hr⟩
      rw [← heq] at hmem
      exact ((mem_registrationsOf hk.puts).mp hmem).1
  registrants id := by rw [puts_registrants]

end Store

namespace Decision
variable {event : EventId} {s t : Store} (h : s.Shares event t) (hs : s.Lawful) (ht : t.Lawful)
include h hs ht

theorem register_shared (registrant : RegistrantId) (now : Instant) (id : RegistrationId) :
    register s event registrant now id = register t event registrant now id := by
  unfold register
  rw [h.found]
  cases he : t.events.get? event with
  | none => rfl
  | some e =>
    obtain rfl := ht.events_keyed _ _ he
    simp only [enter, h.registrants, h.any_active hs ht, h.seated_length hs ht, h.queue_eq hs ht he]

theorem promote_shared (now : Instant) : promote s event now = promote t event now := by
  unfold promote
  rw [h.found]
  cases he : t.events.get? event with
  | none => rfl
  | some e =>
    dsimp only
    rw [h.queue_eq hs ht he, h.seated_length hs ht]
    cases hq : t.queue event with
    | nil => rfl
    | cons r behind =>
      have hm : r ∈ t.queue event := by simp [hq]
      have hr := ((Store.mem_waiting ht.keyed).mp (Store.mem_queue.mp hm)).2.1
      simp only [seat, h.behind_eq hs ht hr he]

theorem promoteStep_shared (now : Instant) : promoteStep s event now = promoteStep t event now := by
  unfold promoteStep
  rw [h.found]
  cases he : t.events.get? event with
  | none => rfl
  | some e =>
    dsimp only
    rw [h.queue_eq hs ht he, h.seated_length hs ht]

section
variable {id : RegistrationId} {r : Registration} (hr : s.registrations.get? id = some r) (hev : r.eventId = event)
include hr hev

theorem cancel_shared (now : Instant) : cancel s id now = cancel t id now := by
  unfold cancel
  rw [hr, (h.rows id r hev).mp hr]
  dsimp only
  rw [hev, h.found]
  cases he : t.events.get? event with
  | none => rfl
  | some e => simp only [cancelSeat, cancelPlace, hev, h.queue_eq hs ht he, h.behind_eq hs ht hev he]

theorem confirm_shared (now : Instant) : confirm s id now = confirm t id now := by
  unfold confirm
  rw [hr, (h.rows id r hev).mp hr]
  dsimp only
  rw [hev, h.found]
  cases he : t.events.get? event with
  | none => rfl
  | some e => simp only [seat, h.seated_length hs ht, h.behind_eq hs ht hev he]

end

omit hs ht in
theorem raiseCapacity_shared (capacity : UInt32) :
    raiseCapacity s event capacity = raiseCapacity t event capacity := by
  rw [raiseCapacity, h.found, raiseCapacity]

end Decision
end Turnstile
