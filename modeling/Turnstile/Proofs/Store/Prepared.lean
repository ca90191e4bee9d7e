import Turnstile.Proofs.Store.Sound

/-! Stores in which nobody has registered yet. -/

namespace Turnstile

/-- A published event with a single seat. -/
def ScheduledEvent.oneSeat : ScheduledEvent where
  id := ⟨⟨0, 1⟩⟩
  title := "Talk"
  capacity := 1
  published := true
  startsAt := default
  endsAt := .last

namespace Store

/-- A store with events and registrants only. -/
def prepared (events : List ScheduledEvent) (registrants : List Registrant) : Store :=
  registrants.foldl insertRegistrant (events.foldl insertEvent {})

section
variable (events : List ScheduledEvent) (registrants : List Registrant)

private theorem foldl_insertEvent (s : Store) :
    (events.foldl insertEvent s).registrations = s.registrations ∧
      (events.foldl insertEvent s).locked = s.locked ∧ (events.foldl insertEvent s).outbox = s.outbox ∧
      (s.events.KeyedBy ScheduledEvent.id → (events.foldl insertEvent s).events.KeyedBy ScheduledEvent.id) := by
  induction events generalizing s with
  | nil => exact ⟨rfl, rfl, rfl, id⟩
  | cons e events ih =>
    obtain ⟨hr, hl, ho, hk⟩ := ih (s.insertEvent e)
    exact ⟨hr, hl, ho, fun h => hk (h.insert e)⟩

private theorem foldl_insertRegistrant (s : Store) :
    (registrants.foldl insertRegistrant s).registrations = s.registrations ∧
      (registrants.foldl insertRegistrant s).locked = s.locked ∧
      (registrants.foldl insertRegistrant s).outbox = s.outbox ∧
      (registrants.foldl insertRegistrant s).events = s.events := by
  induction registrants generalizing s with
  | nil => exact ⟨rfl, rfl, rfl, rfl⟩
  | cons r registrants ih => exact ih (s.insertRegistrant r)

theorem prepared_registrations : (prepared events registrants).registrations = .empty :=
  (foldl_insertRegistrant registrants _).1.trans (foldl_insertEvent events {}).1

theorem prepared_locked : (prepared events registrants).locked = [] :=
  (foldl_insertRegistrant registrants _).2.1.trans (foldl_insertEvent events {}).2.1

theorem prepared_outbox : (prepared events registrants).outbox = [] :=
  (foldl_insertRegistrant registrants _).2.2.1.trans (foldl_insertEvent events {}).2.2.1

theorem prepared_registrationsOf (event : EventId) : (prepared events registrants).registrationsOf event = [] := by
  rw [registrationsOf, prepared_registrations]
  rfl

theorem prepared_lawful : (prepared events registrants).Lawful where
  events_keyed := by
    rw [prepared, (foldl_insertRegistrant registrants _).2.2.2]
    exact (foldl_insertEvent events {}).2.2.2 Table.KeyedBy.empty
  keyed := by
    rw [Keyed, prepared_registrations]
    exact Table.KeyedBy.empty
  sound := by
    intro id e he
    constructor <;> simp [waiting, active, seated, prepared_registrationsOf]

end

end Store
end Turnstile
