import Turnstile.Id

/-!
The commands that change seats and waitlists.
-/

namespace Turnstile

inductive Command where
  | register (event : EventId) (registrant : RegistrantId)
  | cancel (registration : RegistrationId)
  | promote (event : EventId)
  | confirm (registration : RegistrationId)
  | increaseCapacity (event : EventId) (capacity : UInt32)
  deriving DecidableEq, Repr

namespace Command

def toJson : Command → Json
  | register event registrant =>
    .object [("event_id", event.toJson), ("registrant_id", registrant.toJson)]
  | cancel registration | confirm registration => .object [("registration_id", registration.toJson)]
  | promote event => .object [("event_id", event.toJson)]
  | increaseCapacity event capacity =>
    .object [("event_id", event.toJson), ("new_capacity", .nat capacity.toNat)]

/-- The reader of a command's fields, by the command's name. -/
def reader? : String → Option (Json → Option Command)
  | "Register" => some fun j => do
    let field ← j.record? ["event_id", "registrant_id"]
    some (.register (← Id.ofJson? (← field "event_id")) (← Id.ofJson? (← field "registrant_id")))
  | "Cancel" => some fun j => do
    let field ← j.record? ["registration_id"]
    some (.cancel (← Id.ofJson? (← field "registration_id")))
  | "Promote" => some fun j => do
    let field ← j.record? ["event_id"]
    some (.promote (← Id.ofJson? (← field "event_id")))
  | "Confirm" => some fun j => do
    let field ← j.record? ["registration_id"]
    some (.confirm (← Id.ofJson? (← field "registration_id")))
  | "IncreaseCapacity" => some fun j => do
    let field ← j.record? ["event_id", "new_capacity"]
    some (.increaseCapacity (← Id.ofJson? (← field "event_id")) (← (← field "new_capacity").uint32?))
  | _ => none

end Command
end Turnstile
