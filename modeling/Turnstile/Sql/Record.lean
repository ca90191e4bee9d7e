import Turnstile.Outbox.Message
import Turnstile.Queue.Event
import Turnstile.Registration
import Turnstile.ScheduledEvent
import Turnstile.Sql.Value

/-!
Rows of the tables and the records they stand for. Columns are read in a fixed order, so that the first
bad one decides the error.
-/

namespace Turnstile.Sql

def outOfRange (what : String) (n : Int) : StoreError := .corrupt s!"{what} {n} out of range"

/-- A number as the database takes it; it has no numbers without sign. -/
def toInt4 (n : UInt32) (what : String) : Stored Int :=
  if n.toNat < 2_147_483_648 then .ok n.toNat else .error (outOfRange what n.toNat)

def ofInt4 (n : Int) (what : String) : Stored UInt32 :=
  if 0 ≤ n then .ok (.ofNat n.toNat) else .error (outOfRange what n)

def eventColumns : String := "id, title, capacity, published, starts_at, ends_at"

def registrationColumns : String :=
  "id, event_id, registrant_id, status, position_in_queue, created_at, updated_at"

def outboxColumns : String :=
  "id, message_type, payload, status, claimed_by, claimed_at, attempts, last_error, next_attempt_at, " ++
    "created_at, processed_at"

def eventOfRow (row : Row) : Stored ScheduledEvent := do
  return {
    id := ← row.id "id"
    title := ← row.text "title"
    capacity := ← ofInt4 (← row.int4 "capacity") "capacity"
    published := ← row.bool "published"
    startsAt := ← row.time "starts_at"
    endsAt := ← row.time "ends_at" }

def eventParams (e : ScheduledEvent) : Stored (List Cell) := do
  return [.id e.id, .text e.title, .int4 (← toInt4 e.capacity "capacity"), .bool e.published,
    .time e.startsAt, .time e.endsAt]

def registrationOfRow (row : Row) : Stored Registration := do
  let status ← (RegistrationStatus.parse (← row.text "status")).mapError fun e => .corrupt e.message
  let position ← row.optional "position_in_queue" .int4 Row.asInt?
  let position ← position.mapM fun p => ofInt4 p "position_in_queue"
  return {
    id := ← row.id "id"
    eventId := ← row.id "event_id"
    registrantId := ← row.id "registrant_id"
    status
    position
    createdAt := ← row.time "created_at"
    updatedAt := ← row.time "updated_at" }

def positionParam (r : Registration) : Stored Cell := do
  return ⟨.int4, (← r.position.mapM fun p => toInt4 p "position_in_queue").map .int⟩

def insertParams (r : Registration) : Stored (List Cell) := do
  return [.id r.id, .id r.eventId, .id r.registrantId, .text r.status.name, ← positionParam r,
    .time r.createdAt, .time r.updatedAt]

def updateParams (r : Registration) : Stored (List Cell) := do
  return [.id r.id, .text r.status.name, ← positionParam r, .time r.updatedAt]

def messageOfRow (row : Row) : Stored OutboxMessage := do
  let status ← row.text "status"
  return {
    id := ← row.id "id"
    messageType := ← row.text "message_type"
    payload := ← row.json "payload"
    status := ← OutboxStatus.parse status
    claimedBy := ← row.optional "claimed_by" .text Row.asText?
    claimedAt := ← row.optional "claimed_at" .timestamptz Row.asTime?
    attempts := ← ofInt4 (← row.int4 "attempts") "attempts"
    lastError := ← row.optional "last_error" .text Row.asText?
    nextAttemptAt := ← row.time "next_attempt_at"
    createdAt := ← row.time "created_at"
    processedAt := ← row.optional "processed_at" .timestamptz Row.asTime? }

/-- A new row of the outbox; its claim and its last error are left to the defaults of the table. -/
def messageParams (m : OutboxMessage) : Stored (List Cell) := do
  return [.id m.id, .text m.messageType, .json m.payload, .text m.status.name,
    .int4 (← toInt4 m.attempts "attempts"), .time m.nextAttemptAt, .time m.createdAt]

def queuedOfRow (row : Row) : Stored QueuedEvent := do
  return {
    id := ← row.id "id"
    type := ← row.text "event_type"
    aggregateType := ← row.text "aggregate_type"
    aggregateId := ← row.required "aggregate_id" .uuid Row.asUuid?
    occurredAt := ← row.time "occurred_at"
    payload := ← row.json "payload" }

def queuedParams (e : QueuedEvent) : List Cell :=
  [.id e.id, .text e.type, .text e.aggregateType, .uuid e.aggregateId, .time e.occurredAt,
    .json e.payload]

end Turnstile.Sql
