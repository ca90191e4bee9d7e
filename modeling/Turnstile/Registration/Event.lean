import Turnstile.EventRecord
import Turnstile.Registration.Status
import Turnstile.Text.Quoted

/-!
What happens to a registration. All but a change of waitlist position are announced to other systems.
-/

namespace Turnstile

/-- The registration an event is about. -/
structure RegistrationRef where
  registrationId : RegistrationId
  eventId : EventId
  registrantId : RegistrantId
  deriving DecidableEq, Repr

inductive RegistrationEvent where
  | confirmed (subject : RegistrationRef) (time : Instant)
  | waitlisted (subject : RegistrationRef) (position : UInt32) (time : Instant)
  | promoted (subject : RegistrationRef) (previous : UInt32) (time : Instant)
  | cancelled (subject : RegistrationRef) (previousStatus : RegistrationStatus)
      (previousPosition : Option UInt32) (time : Instant)
  | positionChanged (subject : RegistrationRef) (previous new : UInt32) (time : Instant)
  deriving DecidableEq, Repr

namespace RegistrationEvent

def subject : RegistrationEvent → RegistrationRef
  | confirmed s _ | waitlisted s _ _ | promoted s _ _ | cancelled s _ _ _ | positionChanged s _ _ _ => s

def occurredAt : RegistrationEvent → Instant
  | confirmed _ t | waitlisted _ _ t | promoted _ _ t | cancelled _ _ _ t | positionChanged _ _ _ t => t

def typeName : RegistrationEvent → String
  | confirmed .. => "RegistrationConfirmed"
  | waitlisted .. => "RegistrationWaitlisted"
  | promoted .. => "RegistrationPromoted"
  | cancelled .. => "RegistrationCancelled"
  | positionChanged .. => "WaitlistPositionChanged"

def isIntegration : RegistrationEvent → Bool
  | positionChanged .. => false
  | _ => true

def aggregateType : String := "Registration"

end RegistrationEvent

namespace RegistrationRef

def toJson (r : RegistrationRef) : Json :=
  .object [("registration_id", r.registrationId.toJson), ("event_id", r.eventId.toJson),
    ("registrant_id", r.registrantId.toJson)]

def ofJson? (j : Json) : Option RegistrationRef := do
  let field ← j.record? ["registration_id", "event_id", "registrant_id"]
  some ⟨← Id.ofJson? (← field "registration_id"), ← Id.ofJson? (← field "event_id"),
    ← Id.ofJson? (← field "registrant_id")⟩

end RegistrationRef

namespace RegistrationEvent

def number (n : UInt32) : Json := .nat n.toNat

def data : RegistrationEvent → Json
  | confirmed s t => .object [("subject", s.toJson), ("occurred_at", t.toJson)]
  | waitlisted s p t =>
    .object [("subject", s.toJson), ("position", number p), ("occurred_at", t.toJson)]
  | promoted s p t =>
    .object [("subject", s.toJson), ("previous_position", number p), ("occurred_at", t.toJson)]
  | cancelled s status p t =>
    .object [("subject", s.toJson), ("previous_status", status.toJson),
      ("previous_position", .option number p), ("occurred_at", t.toJson)]
  | positionChanged s p n t =>
    .object [("subject", s.toJson), ("previous_position", number p), ("new_position", number n),
      ("occurred_at", t.toJson)]

def toJson (e : RegistrationEvent) : Json := .object [("type", .string e.typeName), ("data", e.data)]

/-- Reads the data of the event type called `type`; `unit` says what counts as a unit within it. -/
def ofData? (type : String) (data : Json) (unit : Json → Bool) : Option RegistrationEvent :=
  match type with
  | "RegistrationConfirmed" => do
    let field ← data.record? ["subject", "occurred_at"]
    some (.confirmed (← RegistrationRef.ofJson? (← field "subject"))
      (← Instant.ofJson? (← field "occurred_at")))
  | "RegistrationWaitlisted" => do
    let field ← data.record? ["subject", "position", "occurred_at"]
    some (.waitlisted (← RegistrationRef.ofJson? (← field "subject"))
      (← (← field "position").uint32?) (← Instant.ofJson? (← field "occurred_at")))
  | "RegistrationPromoted" => do
    let field ← data.record? ["subject", "previous_position", "occurred_at"]
    some (.promoted (← RegistrationRef.ofJson? (← field "subject"))
      (← (← field "previous_position").uint32?) (← Instant.ofJson? (← field "occurred_at")))
  | "RegistrationCancelled" => do
    let field ← data.record? ["subject", "previous_status", "previous_position", "occurred_at"]
    some (.cancelled (← RegistrationRef.ofJson? (← field "subject"))
      (← RegistrationStatus.ofJson? unit (← field "previous_status"))
      (← Json.optional? Json.uint32? (field "previous_position"))
      (← Instant.ofJson? (← field "occurred_at")))
  | "WaitlistPositionChanged" => do
    let field ← data.record? ["subject", "previous_position", "new_position", "occurred_at"]
    some (.positionChanged (← RegistrationRef.ofJson? (← field "subject"))
      (← (← field "previous_position").uint32?) (← (← field "new_position").uint32?)
      (← Instant.ofJson? (← field "occurred_at")))
  | _ => none

/-- An event is an object with the fields `type` and `data`, or the array of the two. -/
def ofJson? : Json → Option RegistrationEvent
  | .object fields => do
    let type ← (← fields.lookup "type").constant? Json.isNull
    ofData? type (← fields.lookup "data") Json.isEmpty
  | .array [type, data] => do ofData? (← type.constant? Json.isNull) data Json.isNull
  | _ => none

def typeNames : List String :=
  ["RegistrationConfirmed", "RegistrationWaitlisted", "RegistrationPromoted", "RegistrationCancelled",
    "WaitlistPositionChanged"]

/-- Why a type with a text for its data is no event. Of any other value the reason is left out. -/
def refusal : Json → String
  | .array [.string type, .string data] =>
    if type ∈ typeNames then s!"invalid type: string {Text.quoted data}, expected struct {type}Data"
    else s!"unknown variant `{type}`, expected one of " ++
      ", ".intercalate (typeNames.map fun name => s!"`{name}`")
  | _ => "..."

def record (e : RegistrationEvent) : EventRecord where
  type := e.typeName
  aggregateType := aggregateType
  aggregateId := e.subject.registrationId.uuid
  occurredAt := e.occurredAt
  integration := e.isIntegration
  payload := .ok e.toJson

end RegistrationEvent
end Turnstile
