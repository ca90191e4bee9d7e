import Turnstile.Proofs.Allocation.Effect
import Mathlib.Data.Finset.Basic
import Mathlib.Data.Finset.Card
import Mathlib.Data.Finset.Dedup
import Mathlib.Logic.Function.Basic

/-!
The rules of registration without rows and places: an event has a capacity, a set of those with a seat and a list of
those who wait. What a command does to it is said with the operations of sets and lists alone.
-/

namespace Turnstile

/-- Who has a seat at an event and who waits for one, first to come first. -/
structure Roll where
  capacity : UInt32
  seated : Finset RegistrationId
  waiting : List RegistrationId
  deriving DecidableEq

namespace Roll
variable (q : Roll) (id : RegistrationId)

def Full : Prop := q.capacity.toNat ≤ q.seated.card

instance : Decidable q.Full := Nat.decLe _ _

/-- A newcomer is seated if fewer are seated than may be, and is the last to wait otherwise. -/
def enter : Roll :=
  if q.Full then { q with waiting := q.waiting ++ [id] } else { q with seated := insert id q.seated }

def seat : Roll := { q with seated := insert id q.seated, waiting := q.waiting.erase id }

def seatFirst : Roll :=
  match q.waiting with
  | [] => q
  | first :: _ => q.seat first

def unseat : Roll := { q with seated := q.seated.erase id }

/-- A seat that is given up goes to the first who waits. -/
def vacate : Roll := (q.unseat id).seatFirst

def withdraw : Roll := { q with waiting := q.waiting.erase id }

def behind : List RegistrationId := q.waiting.drop (q.waiting.idxOf id + 1)

/-- The status of a registration and, while it waits, its place counted from 1. -/
def standing : RegistrationStatus × Option Nat :=
  if id ∈ q.seated then (.confirmed, none)
  else if q.waiting.contains id then (.waitlisted, some (q.waiting.idxOf id + 1))
  else (.cancelled, none)

end Roll

/-- What a command reports: the registration it was about, and those whose standing changed with it. -/
structure Report where
  target : Option RegistrationId := none
  moved : List RegistrationId := []
  deriving DecidableEq

/-- The rolls of all events, for which event and whom each registration was made, who may register and when. -/
structure Hall where
  rolls : EventId → Option Roll
  holders : RegistrationId → Option (EventId × RegistrantId)
  registrants : RegistrantId → Bool
  opens : EventId → Instant → Bool

namespace Hall
variable (h : Hall)

def setRoll (event : EventId) (q : Roll) : Hall := { h with rolls := Function.update h.rolls event (some q) }

@[simp] theorem setRoll_setRoll (event : EventId) (q q' : Roll) :
    (h.setRoll event q).setRoll event q' = h.setRoll event q' := by
  rw [setRoll, setRoll, Function.update_idem]
  rfl

def setHolder (id : RegistrationId) (event : EventId) (registrant : RegistrantId) : Hall :=
  { h with holders := Function.update h.holders id (some (event, registrant)) }

/-- Somebody on the roll is registered for this registrant. -/
def Holds (q : Roll) (registrant : RegistrantId) : Prop :=
  ∃ id ∈ q.seated ∪ q.waiting.toFinset, (h.holders id).map Prod.snd = some registrant

instance (q : Roll) (registrant : RegistrantId) : Decidable (h.Holds q registrant) :=
  inferInstanceAs (Decidable (∃ id ∈ q.seated ∪ q.waiting.toFinset, _))

def roll (event : EventId) : Except AllocationError Roll :=
  match h.rolls event with
  | some q => pure q
  | none => throw (.eventNotFound event)

/-- The event of a registration and its roll. -/
def locate (id : RegistrationId) : Except AllocationError (EventId × Roll) :=
  match h.holders id with
  | some (event, _) => do pure (event, ← h.roll event)
  | none => throw (.registrationNotFound id)

def register (event : EventId) (registrant : RegistrantId) (now : Instant) (id : RegistrationId) :
    Except AllocationError (Hall × Report) := do
  let q ← h.roll event
  if !h.registrants registrant then throw (.registrantNotFound registrant)
  else if h.Holds q registrant then throw (.conflict event registrant)
  else if !h.opens event now then throw (.registrationClosed event)
  else pure ((h.setRoll event (q.enter id)).setHolder id event registrant, { target := some id })

def cancel (id : RegistrationId) : Except AllocationError (Hall × Report) := do
  let (event, q) ← h.locate id
  if id ∈ q.seated then pure (h.setRoll event (q.vacate id), ⟨some id, q.waiting⟩)
  else if q.waiting.contains id then pure (h.setRoll event (q.withdraw id), ⟨some id, q.behind id⟩)
  else pure (h, { target := some id })

def promote (event : EventId) : Except AllocationError (Hall × Report) := do
  let q ← h.roll event
  match q.waiting with
  | [] => pure (h, {})
  | first :: others =>
    if q.Full then throw (.capacityExhausted event q.capacity)
    else pure (h.setRoll event (q.seat first), ⟨some first, others⟩)

def confirm (id : RegistrationId) : Except AllocationError (Hall × Report) := do
  let (event, q) ← h.locate id
  if !q.waiting.contains id then throw (.invalidState (.invalidTransition (q.standing id).1 "promote"))
  else if q.Full then throw (.capacityExhausted event q.capacity)
  else pure (h.setRoll event (q.seat id), ⟨some id, q.behind id⟩)

/-- Carries out a command at a time, with an identifier for a newcomer. -/
def run (now : Instant) (id : RegistrationId) : (c : Command) → c.Single → Except AllocationError (Hall × Report)
  | .register event registrant, _ => h.register event registrant now id
  | .cancel registration, _ => h.cancel registration
  | .promote event, _ => h.promote event
  | .confirm registration, _ => h.confirm registration
  | .increaseCapacity _ _, hc => hc.elim

/-- A registration stands as its row says. -/
structure Shows (r : Registration) : Prop where
  holder : h.holders r.id = some (r.eventId, r.registrantId)
  standing : ∃ q, h.rolls r.eventId = some q ∧ q.standing r.id = (r.status, r.rank)

end Hall

/-- What an allocation tells of whom. -/
def Allocation.report (a : Allocation) : Report where
  target := a.target.map (·.registration.id)
  moved := a.affected.map (·.registration.id)

namespace Store

/-- The roll of an event: who holds a seat, and who waits in the order of their places. -/
def roll (s : Store) (e : ScheduledEvent) : Roll where
  capacity := e.capacity
  seated := ((s.seated e.id).map Registration.id).toFinset
  waiting := (s.queue e.id).map Registration.id

def holders (s : Store) (id : RegistrationId) : Option (EventId × RegistrantId) :=
  (s.registrations.get? id).map fun r => (r.eventId, r.registrantId)

/-- What the rows of a store say. -/
def hall (s : Store) : Hall where
  rolls event := (s.events.get? event).map s.roll
  holders := s.holders
  registrants := s.registrants.contains
  opens event now := (s.events.get? event).any (·.isOpen now)

@[simp] theorem hall_rolls (s : Store) (event : EventId) : s.hall.rolls event = (s.events.get? event).map s.roll := rfl

@[simp] theorem hall_holders (s : Store) (id : RegistrationId) :
    s.hall.holders id = (s.registrations.get? id).map fun r => (r.eventId, r.registrantId) := rfl

@[simp] theorem hall_registrants (s : Store) (registrant : RegistrantId) :
    s.hall.registrants registrant = s.registrants.contains registrant := rfl

@[simp] theorem hall_opens (s : Store) (event : EventId) (now : Instant) :
    s.hall.opens event now = (s.events.get? event).any (·.isOpen now) := rfl

end Store
end Turnstile
