import Turnstile.Registration.Event

/-!
Events detached from the entity that recorded them, as they wait for a handler.
-/

namespace Turnstile

structure QueuedEvent where
  id : MessageId
  type : String
  aggregateType : String
  aggregateId : Uuid
  occurredAt : Instant
  payload : Json
  deriving Repr

namespace QueuedEvent

def toJson (e : QueuedEvent) : Json :=
  .object [("id", e.id.toJson), ("event_type", .string e.type),
    ("aggregate_type", .string e.aggregateType), ("aggregate_id", .string e.aggregateId.hyphenated),
    ("occurred_at", e.occurredAt.toJson), ("payload", e.payload)]

def ofJson? (j : Json) : Option QueuedEvent := do
  let field ← j.record? ["id", "event_type", "aggregate_type", "aggregate_id", "occurred_at", "payload"]
  some {
    id := ← Id.ofJson? (← field "id")
    type := ← (← field "event_type").string?
    aggregateType := ← (← field "aggregate_type").string?
    aggregateId := ← (← (← field "aggregate_id").string?) |> Uuid.ofString?
    occurredAt := ← Instant.ofJson? (← field "occurred_at")
    payload := ← (← field "payload").any? }

def decode (e : QueuedEvent) : Option RegistrationEvent := RegistrationEvent.ofJson? e.payload

/-- Detaches an event under an identifier that is used up even if the event cannot be written down. -/
def ofRecord (id : MessageId) (e : EventRecord) : Except String QueuedEvent :=
  e.payload.map fun payload =>
    { id, type := e.type, aggregateType := e.aggregateType, aggregateId := e.aggregateId,
      occurredAt := e.occurredAt, payload }

end QueuedEvent
end Turnstile
