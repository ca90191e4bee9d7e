import Turnstile.EventRecord
import Turnstile.Store.Error

/-!
Rows of the outbox: messages on their way to the external bus, and the claims that workers hold on them.
-/

namespace Turnstile

inductive OutboxStatus where
  | pending | processing | processed | failed
  deriving DecidableEq, Repr, Inhabited

namespace OutboxStatus

def name : OutboxStatus → String
  | .pending => "Pending"
  | .processing => "Processing"
  | .processed => "Processed"
  | .failed => "Failed"

def ofName? : String → Option OutboxStatus
  | "Pending" => some .pending
  | "Processing" => some .processing
  | "Processed" => some .processed
  | "Failed" => some .failed
  | _ => none

def parse (text : String) : Except StoreError OutboxStatus :=
  match ofName? text with
  | some s => .ok s
  | none => .error (.corrupt s!"unknown outbox status {text}")

def toJson (s : OutboxStatus) : Json := .string s.name

def ofJson? (j : Json) : Option OutboxStatus := (j.constant? Json.isNull).bind ofName?

end OutboxStatus

/-- `attempts` counts the publishes that failed so far. A pending row may be claimed from
`nextAttemptAt` on. -/
structure OutboxMessage where
  id : MessageId
  messageType : String
  payload : Json
  status : OutboxStatus
  claimedBy : Option String
  claimedAt : Option Instant
  attempts : UInt32
  lastError : Option String
  nextAttemptAt : Instant
  createdAt : Instant
  processedAt : Option Instant
  deriving Repr

namespace OutboxMessage

/-- A row that may be claimed at once. -/
def pending (id : MessageId) (messageType : String) (payload : Json) (now : Instant) : OutboxMessage where
  id := id
  messageType := messageType
  payload := payload
  status := .pending
  claimedBy := none
  claimedAt := none
  attempts := 0
  lastError := none
  nextAttemptAt := now
  createdAt := now
  processedAt := none

/-- The row that announces an event; its identifier is drawn once the event is written down. -/
def announcing (e : EventRecord) : Except StoreError (MessageId → OutboxMessage) :=
  match e.payload with
  | .ok payload => .ok fun id => pending id e.type payload e.occurredAt
  | .error reason => .error (.serialization reason)

/-- Rows in processing may be claimed once their claim is older than `cutoff`. -/
def isClaimable (m : OutboxMessage) (now cutoff : Instant) : Bool :=
  match m.status with
  | .pending => m.nextAttemptAt ≤ now
  | .processing => m.claimedAt.any fun t => t < cutoff
  | .processed | .failed => false

def isClaimedBy (m : OutboxMessage) (worker : String) : Bool :=
  m.status = .processing ∧ m.claimedBy = some worker

def claim (m : OutboxMessage) (worker : String) (now : Instant) : OutboxMessage :=
  { m with status := .processing, claimedBy := some worker, claimedAt := some now }

def settle (m : OutboxMessage) (now : Instant) : OutboxMessage :=
  { m with status := .processed, processedAt := some now }

def postpone (m : OutboxMessage) (attempts : UInt32) (error : String) (next : Instant) : OutboxMessage :=
  { m with
    status := .pending, attempts := attempts, lastError := some error, nextAttemptAt := next
    claimedBy := none, claimedAt := none }

def abandon (m : OutboxMessage) (attempts : UInt32) (error : String) : OutboxMessage :=
  { m with
    status := .failed, attempts := attempts, lastError := some error
    claimedBy := none, claimedAt := none }

def toJson (m : OutboxMessage) : Json :=
  .object [("id", m.id.toJson), ("message_type", .string m.messageType), ("payload", m.payload),
    ("status", m.status.toJson), ("claimed_by", .option .string m.claimedBy),
    ("claimed_at", .option Instant.toJson m.claimedAt), ("attempts", .nat m.attempts.toNat),
    ("last_error", .option .string m.lastError), ("next_attempt_at", m.nextAttemptAt.toJson),
    ("created_at", m.createdAt.toJson), ("processed_at", .option Instant.toJson m.processedAt)]

def ofJson? (j : Json) : Option OutboxMessage := do
  let field ← j.record? ["id", "message_type", "payload", "status", "claimed_by", "claimed_at",
    "attempts", "last_error", "next_attempt_at", "created_at", "processed_at"]
  some {
    id := ← Id.ofJson? (← field "id")
    messageType := ← (← field "message_type").string?
    payload := ← (← field "payload").any?
    status := ← OutboxStatus.ofJson? (← field "status")
    claimedBy := ← Json.optional? Json.string? (field "claimed_by")
    claimedAt := ← Json.optional? Instant.ofJson? (field "claimed_at")
    attempts := ← (← field "attempts").uint32?
    lastError := ← Json.optional? Json.string? (field "last_error")
    nextAttemptAt := ← Instant.ofJson? (← field "next_attempt_at")
    createdAt := ← Instant.ofJson? (← field "created_at")
    processedAt := ← Json.optional? Instant.ofJson? (field "processed_at") }

end OutboxMessage

/-- How many rows are in each state. -/
structure OutboxCounts where
  pending : Nat := 0
  processing : Nat := 0
  processed : Nat := 0
  failed : Nat := 0
  deriving DecidableEq, Repr, Inhabited

namespace OutboxCounts

def add (c : OutboxCounts) (status : OutboxStatus) (n : Nat) : OutboxCounts :=
  match status with
  | .pending => { c with pending := c.pending + n }
  | .processing => { c with processing := c.processing + n }
  | .processed => { c with processed := c.processed + n }
  | .failed => { c with failed := c.failed + n }

def toJson (c : OutboxCounts) : Json :=
  .object [("pending", .nat c.pending), ("processing", .nat c.processing),
    ("processed", .nat c.processed), ("failed", .nat c.failed)]

end OutboxCounts
end Turnstile
