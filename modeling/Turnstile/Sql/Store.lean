import Turnstile.Allocation
import Turnstile.Outbox.Batch
import Turnstile.Sql.Call

/-!
The store kept in a database. The lock of an event is an advisory lock that the database holds until the
transaction ends; a transaction that is given up is rolled back.
-/

namespace Turnstile.Sql

namespace Store

def insertEvent (e : ScheduledEvent) : Work Unit := do
  discard <| Work.execute
    s!"INSERT INTO events ({eventColumns}) VALUES ($1, $2, $3, $4, $5, $6)" (← Work.lift (eventParams e))

def insertRegistrant (r : Registrant) : Work Unit := do
  discard <| Work.execute "INSERT INTO registrants (id, identity) VALUES ($1, $2)"
    [.id r.id, .text r.identity]

def getEvent (id : EventId) : Work (Option ScheduledEvent) :=
  Work.row? s!"SELECT {eventColumns} FROM events WHERE id = $1" [.id id] eventOfRow

def getRegistration (id : RegistrationId) : Work (Option Registration) :=
  Work.row? s!"SELECT {registrationColumns} FROM registrations WHERE id = $1" [.id id] registrationOfRow

def listRegistrations (event : EventId) : Work (List Registration) :=
  Work.rows
    s!"SELECT {registrationColumns} FROM registrations WHERE event_id = $1 ORDER BY created_at ASC, id ASC"
    [.id event] registrationOfRow

def lockEvent (event : EventId) : Work (Option ScheduledEvent) := do
  discard <| Work.execute "SELECT pg_advisory_xact_lock($1)" [.int8 event.lockKey.toInt]
  getEvent event

def registrantExists (registrant : RegistrantId) : Work Bool :=
  Work.row "SELECT EXISTS (SELECT 1 FROM registrants WHERE id = $1)" [.id registrant] Row.soleBool

def findActive (event : EventId) (registrant : RegistrantId) : Work (Option Registration) :=
  Work.row?
    (s!"SELECT {registrationColumns} FROM registrations " ++
      "WHERE event_id = $1 AND registrant_id = $2 AND status <> 'Cancelled'")
    [.id event, .id registrant] registrationOfRow

def countConfirmed (event : EventId) : Work UInt32 := do
  let n ← Work.row "SELECT COUNT(*) FROM registrations WHERE event_id = $1 AND status = 'Confirmed'"
    [.id event] Row.soleInt8
  if 0 ≤ n ∧ n < UInt32.size then pure (.ofNat n.toNat)
  else throw (.corrupt s!"confirmed count {n}")

def waitlist (event : EventId) : Work (List Registration) :=
  Work.rows
    (s!"SELECT {registrationColumns} FROM registrations " ++
      "WHERE event_id = $1 AND status = 'Waitlisted' ORDER BY position_in_queue ASC")
    [.id event] registrationOfRow

/-- The constraint that allows one active registration of a registrant for an event. -/
def activeConstraint : String := "uq_active_registration"

def insertRegistration (r : Registration) : Work Unit := do
  let params ← Work.lift (insertParams r)
  discard <| Work.sendOr
    (fun refusal =>
      if refusal.constraint = some activeConstraint then .duplicateActive r.eventId r.registrantId
      else .database)
    (.query s!"INSERT INTO registrations ({registrationColumns}) VALUES ($1, $2, $3, $4, $5, $6, $7)" params)

def updateRegistration (r : Registration) : Work Unit := do
  let response ← Work.execute
    "UPDATE registrations SET status = $2, position_in_queue = $3, updated_at = $4 WHERE id = $1"
    (← Work.lift (updateParams r))
  if response.affected = 0 then throw (.corrupt s!"registration {r.id} missing on update")

def updateCapacity (event : EventId) (capacity : UInt32) : Work Unit := do
  discard <| Work.execute "UPDATE events SET capacity = $2 WHERE id = $1"
    [.id event, .int4 (← Work.lift (toInt4 capacity "capacity"))]

def insertMessage (m : OutboxMessage) : Work Unit := do
  discard <| Work.execute
    ("INSERT INTO outbox_messages (id, message_type, payload, status, attempts, next_attempt_at, " ++
      "created_at) VALUES ($1, $2, $3, $4, $5, $6, $7)")
    (← Work.lift (messageParams m))

/-- Ends the transaction by a statement; if that fails, the transaction is given up. -/
def finish (s : Statement) : Work Unit := ExceptT.mk do
  match ← (Work.send s).run with
  | .ok _ => pure (.ok ())
  | .error e =>
    discard (Work.ask (.send .rollback))
    pure (.error e)

def tx : (c : TxCall) → Program Call.Reply c.Reply
  | .lockEvent event => (lockEvent event).run
  | .registrantExists registrant => (registrantExists registrant).run
  | .findActive event registrant => (findActive event registrant).run
  | .getRegistration id => (getRegistration id).run
  | .countConfirmed event => (countConfirmed event).run
  | .waitlist event => (waitlist event).run
  | .insertRegistration r => (insertRegistration r).run
  | .updateRegistration r => (updateRegistration r).run
  | .updateCapacity event capacity => (updateCapacity event capacity).run
  | .insertMessage m => (insertMessage m).run
  | .commit => (finish .commit).run
  | .rollback => (finish .rollback).run
  | .drop => do discard (Work.ask (.send .rollback))

def begin : Work Unit := do discard (Work.send .begin)

def allocator : (c : AllocatorCall) → Program Call.Reply c.Reply
  | .now => Work.ask .now
  | .freshId => Work.ask .freshId
  | .count counter => Work.ask (.count counter 1)
  | .getEvent event => (getEvent event).run
  | .getRegistration id => (getRegistration id).run
  | .listRegistrations event => (listRegistrations event).run
  | .begin => begin.run
  | .tx call => tx call

/-- An allocation command on this store. -/
def allocate (p : Allocate α) : Program Call.Reply (Except AllocationError α) := p.run.relay allocator

/-- The largest number of rows that can be asked for. -/
def maxLimit : Nat := 9_223_372_036_854_775_807

def claimable (limit : Nat) (now cutoff : Instant) : Work (List OutboxMessage) :=
  Work.rows
    (s!"SELECT {outboxColumns} FROM outbox_messages WHERE (status = 'Pending' AND next_attempt_at <= $1) " ++
      "OR (status = 'Processing' AND claimed_at < $2) ORDER BY created_at ASC LIMIT $3")
    [.time now, .time cutoff, .int8 (min limit maxLimit : Nat)] messageOfRow

def tryClaim (id : MessageId) (worker : String) (now cutoff : Instant) : Work Bool :=
  Work.changesOne
    ("UPDATE outbox_messages SET status = 'Processing', claimed_by = $2, claimed_at = $3 WHERE id = $1 " ++
      "AND ((status = 'Pending' AND next_attempt_at <= $3) OR (status = 'Processing' AND claimed_at < $4))")
    [.id id, .text worker, .time now, .time cutoff]

def markProcessed (id : MessageId) (worker : String) (now : Instant) : Work Bool :=
  Work.changesOne
    ("UPDATE outbox_messages SET status = 'Processed', processed_at = $3 " ++
      "WHERE id = $1 AND status = 'Processing' AND claimed_by = $2")
    [.id id, .text worker, .time now]

def markRetry (id : MessageId) (worker : String) (attempts : UInt32) (error : String) (next : Instant) :
    Work Bool := do
  Work.changesOne
    ("UPDATE outbox_messages SET status = 'Pending', attempts = $3, last_error = $4, " ++
      "next_attempt_at = $5, claimed_by = NULL, claimed_at = NULL " ++
      "WHERE id = $1 AND status = 'Processing' AND claimed_by = $2")
    [.id id, .text worker, .int4 (← Work.lift (toInt4 attempts "attempts")), .text error, .time next]

def markFailed (id : MessageId) (worker : String) (attempts : UInt32) (error : String) : Work Bool := do
  Work.changesOne
    ("UPDATE outbox_messages SET status = 'Failed', attempts = $3, last_error = $4, " ++
      "claimed_by = NULL, claimed_at = NULL " ++
      "WHERE id = $1 AND status = 'Processing' AND claimed_by = $2")
    [.id id, .text worker, .int4 (← Work.lift (toInt4 attempts "attempts")), .text error]

def getMessage (id : MessageId) : Work (Option OutboxMessage) :=
  Work.row? s!"SELECT {outboxColumns} FROM outbox_messages WHERE id = $1" [.id id] messageOfRow

/-- A negative number of rows counts as none. -/
def countByStatus : Work OutboxCounts := do
  let counts ← Work.rows "SELECT status, COUNT(*) AS count FROM outbox_messages GROUP BY status" [] fun r => do
    let status ← r.text "status"
    let n ← r.int8 "count"
    return (← OutboxStatus.parse status, n.toNat)
  return counts.foldl (fun c (status, n) => c.add status n) {}

def outbox : (c : OutboxCall) → Program Call.Reply c.Reply
  | .now => Work.ask .now
  | .count counter n => Work.ask (.count counter n)
  | .claimable limit now cutoff => (claimable limit now cutoff).run
  | .tryClaim id worker now cutoff => (tryClaim id worker now cutoff).run
  | .publish topic m => Work.ask (.publish topic m)
  | .markProcessed id worker now => (markProcessed id worker now).run
  | .markRetry id worker attempts error next => (markRetry id worker attempts error next).run
  | .markFailed id worker attempts error => (markFailed id worker attempts error).run

/-- A batch of an outbox worker on this store. -/
def batch (s : OutboxSettings) : Work BatchReport := ExceptT.mk ((Deliver.batch s).run.relay outbox)

end Store

namespace Queue

def enqueue (e : QueuedEvent) : Work Unit := do
  discard <| Work.execute
    ("INSERT INTO message_queue (id, event_type, aggregate_type, aggregate_id, occurred_at, payload) " ++
      "VALUES ($1, $2, $3, $4, $5, $6)")
    (queuedParams e)

/-- Takes the oldest event that no other consumer is taking. -/
def takeNext : Work (Option QueuedEvent) :=
  Work.row?
    ("DELETE FROM message_queue WHERE id = ( SELECT id FROM message_queue ORDER BY seq ASC " ++
      "FOR UPDATE SKIP LOCKED LIMIT 1 ) " ++
      "RETURNING id, event_type, aggregate_type, aggregate_id, occurred_at, payload")
    [] queuedOfRow

/-- Looks for an event, and once more after a wait unless shutdown comes first. -/
def dequeue (stopped stoppedMeanwhile : Bool) : Work (Option QueuedEvent) := do
  if stopped then pure none
  else match ← takeNext with
    | some e => pure (some e)
    | none => if stoppedMeanwhile then pure none else takeNext

end Queue
end Turnstile.Sql
