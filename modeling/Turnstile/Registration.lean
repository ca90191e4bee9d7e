import Turnstile.Registration.Event

/-!
A registrant's registration for one scheduled event. Each transition returns the changed registration
together with the event it records; `Tracked` keeps those events until they are taken.
-/

namespace Turnstile

structure Registration where
  id : RegistrationId
  eventId : EventId
  registrantId : RegistrantId
  status : RegistrationStatus
  position : Option UInt32
  createdAt : Instant
  updatedAt : Instant
  deriving DecidableEq, Repr

/-- What a cancellation released. -/
structure Cancellation where
  previousStatus : RegistrationStatus
  previousPosition : Option UInt32
  deriving DecidableEq, Repr

def Cancellation.freedSeat (c : Cancellation) : Bool := c.previousStatus = .confirmed

namespace Registration

def subject (r : Registration) : RegistrationRef := ⟨r.id, r.eventId, r.registrantId⟩

def isActive (r : Registration) : Bool := r.status.isActive

def isWaitlisted (r : Registration) : Bool := r.status = .waitlisted

def isConfirmed (r : Registration) : Bool := r.status = .confirmed

/-- Nothing happens to a registration that was already cancelled. -/
def cancel (r : Registration) (now : Instant) :
    Option (Cancellation × Registration × RegistrationEvent) :=
  if r.status.canCancel then
    some (⟨r.status, r.position⟩,
      { r with status := .cancelled, position := none, updatedAt := now },
      .cancelled r.subject r.status r.position now)
  else none

def waitlistPosition (r : Registration) (action : String) : Except RegistrationError UInt32 :=
  match r.status, r.position with
  | .waitlisted, some position => .ok position
  | status, _ => .error (.invalidTransition status action)

/-- Moves a waitlisted registration into a seat and gives the position it held. -/
def promote (r : Registration) (now : Instant) :
    Except RegistrationError (UInt32 × Registration × RegistrationEvent) := do
  let previous ← r.waitlistPosition "promote"
  pure (previous, { r with status := .confirmed, position := none, updatedAt := now },
    .promoted r.subject previous now)

/-- Moves a waitlisted registration one place to the front and gives its new position. -/
def moveUp (r : Registration) (now : Instant) :
    Except RegistrationError (UInt32 × Registration × RegistrationEvent) := do
  let previous ← r.waitlistPosition "move up"
  if previous ≤ 1 then throw (.invalidPosition (previous - 1))
  pure (previous - 1, { r with position := some (previous - 1), updatedAt := now },
    .positionChanged r.subject previous (previous - 1) now)

def toFields (r : Registration) : List (String × Json) :=
  [("id", r.id.toJson), ("event_id", r.eventId.toJson), ("registrant_id", r.registrantId.toJson),
   ("status", r.status.toJson), ("position_in_queue", .option (fun p => .nat p.toNat) r.position),
   ("created_at", r.createdAt.toJson), ("updated_at", r.updatedAt.toJson)]

def toJson (r : Registration) : Json := .object r.toFields

def ofJson? (j : Json) : Option Registration := do
  let field ← j.record? ["id", "event_id", "registrant_id", "status", "position_in_queue", "created_at",
    "updated_at"]
  some {
    id := ← Id.ofJson? (← field "id")
    eventId := ← Id.ofJson? (← field "event_id")
    registrantId := ← Id.ofJson? (← field "registrant_id")
    status := ← RegistrationStatus.ofJson? Json.isNull (← field "status")
    position := ← Json.optional? Json.uint32? (field "position_in_queue")
    createdAt := ← Instant.ofJson? (← field "created_at")
    updatedAt := ← Instant.ofJson? (← field "updated_at") }

end Registration

/-- A registration with the events it recorded and nobody has taken yet. -/
structure Tracked where
  registration : Registration
  pending : List RegistrationEvent := []
  deriving DecidableEq, Repr

namespace Tracked

/-- A new registration that holds a seat. -/
def confirmed (event : EventId) (registrant : RegistrantId) (now : Instant) (id : RegistrationId) :
    Tracked :=
  let r : Registration := ⟨id, event, registrant, .confirmed, none, now, now⟩
  ⟨r, [.confirmed r.subject now]⟩

/-- A new registration at a place of the waitlist; its identifier is drawn once the place is valid. -/
def waitlisted (event : EventId) (registrant : RegistrantId) (position : UInt32) (now : Instant) :
    Except RegistrationError (RegistrationId → Tracked) :=
  if position = 0 then .error (.invalidPosition position)
  else .ok fun id =>
    let r : Registration := ⟨id, event, registrant, .waitlisted, some position, now, now⟩
    ⟨r, [.waitlisted r.subject position now]⟩

def cancel (t : Tracked) (now : Instant) : Option (Cancellation × Tracked) :=
  (t.registration.cancel now).map fun (c, r, e) => (c, ⟨r, t.pending ++ [e]⟩)

def promote (t : Tracked) (now : Instant) : Except RegistrationError (UInt32 × Tracked) :=
  (t.registration.promote now).map fun (p, r, e) => (p, ⟨r, t.pending ++ [e]⟩)

def moveUp (t : Tracked) (now : Instant) : Except RegistrationError (UInt32 × Tracked) :=
  (t.registration.moveUp now).map fun (p, r, e) => (p, ⟨r, t.pending ++ [e]⟩)

def detached (t : Tracked) : Tracked := ⟨t.registration, []⟩

/-- The registration with the types of its pending events. -/
def toJson (t : Tracked) : Json :=
  .object (t.registration.toFields ++ [("pending", .list (fun e => .string e.typeName) t.pending)])

def hasPending (t : Tracked) : Bool := !t.pending.isEmpty

end Tracked
end Turnstile
