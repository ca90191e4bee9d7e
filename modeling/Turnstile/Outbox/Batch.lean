import Turnstile.Outbox.Call
import Turnstile.Outbox.Settings

/-!
One batch of an outbox worker. It lists the rows that are due, claims them one by one, publishes the
claimed ones topic by topic, and settles each row by what the bus said. A row claimed by another worker
meanwhile is left alone.
-/

namespace Turnstile

structure BatchReport where
  claimed : Nat := 0
  conflicts : Nat := 0
  published : Nat := 0
  retried : Nat := 0
  failed : Nat := 0
  lostClaims : Nat := 0
  deriving DecidableEq, Repr, Inhabited

/-- How a claimed row ended within the batch. -/
inductive Settlement where
  | published | retried | failed | lost
  deriving DecidableEq, Repr

namespace BatchReport

def add (r : BatchReport) : Settlement → BatchReport
  | .published => { r with published := r.published + 1 }
  | .retried => { r with retried := r.retried + 1 }
  | .failed => { r with failed := r.failed + 1 }
  | .lost => { r with lostClaims := r.lostClaims + 1 }

def toJson (r : BatchReport) : Json :=
  .object [("claimed", .nat r.claimed), ("conflicts", .nat r.conflicts), ("published", .nat r.published),
    ("retried", .nat r.retried), ("failed", .nat r.failed), ("lost_claims", .nat r.lostClaims)]

end BatchReport

abbrev Deliver (α : Type) := ExceptT StoreError (Program OutboxCall.Reply) α

namespace Deliver

def ask (c : OutboxCall) : Program OutboxCall.Reply c.Reply := .call c

def lift (p : Program OutboxCall.Reply α) : Deliver α := ExceptT.mk (Except.ok <$> p)

def now : Deliver Instant := lift (ask .now)

def count (c : Counter) (n : Nat) : Deliver Unit := lift (ask (.count c n))

def claimable (limit : Nat) (now cutoff : Instant) : Deliver (List OutboxMessage) :=
  ExceptT.mk (ask (.claimable limit now cutoff))

def tryClaim (m : MessageId) (worker : String) (now cutoff : Instant) : Deliver Bool :=
  ExceptT.mk (ask (.tryClaim m worker now cutoff))

def publish (topic : String) (m : OutboxMessage) : Deliver (Except BusError Unit) :=
  lift (ask (.publish topic m))

def markProcessed (m : MessageId) (worker : String) (now : Instant) : Deliver Bool :=
  ExceptT.mk (ask (.markProcessed m worker now))

def markRetry (m : MessageId) (worker : String) (attempts : UInt32) (error : String) (next : Instant) :
    Deliver Bool :=
  ExceptT.mk (ask (.markRetry m worker attempts error next))

def markFailed (m : MessageId) (worker : String) (attempts : UInt32) (error : String) : Deliver Bool :=
  ExceptT.mk (ask (.markFailed m worker attempts error))

/-- Claims the rows it can, in the order listed, and counts those that went to another worker. -/
def claim (worker : String) (now cutoff : Instant) :
    List OutboxMessage → Deliver (List OutboxMessage × Nat)
  | [] => pure ([], 0)
  | m :: rest => do
    if ← tryClaim m.id worker now cutoff then
      let (claimed, conflicts) ← claim worker now cutoff rest
      pure (m.claim worker now :: claimed, conflicts)
    else
      count .claimConflicts 1
      let (claimed, conflicts) ← claim worker now cutoff rest
      pure (claimed, conflicts + 1)

/-- Writes down what the bus said about a row, unless the row has gone to another worker. -/
def settle (s : OutboxSettings) (m : OutboxMessage) (outcome : Except BusError Unit) :
    Deliver Settlement := do
  let now ← now
  match outcome with
  | .ok () =>
    if ← markProcessed m.id s.workerId now then
      count .published 1
      pure .published
    else pure .lost
  | .error e =>
    let attempts := m.attempts + 1
    if s.maxAttempts ≤ attempts then
      if ← markFailed m.id s.workerId attempts e.message then
        count .publishFailed 1
        pure .failed
      else pure .lost
    else if ← markRetry m.id s.workerId attempts e.message (s.nextAttemptAt attempts now) then
      pure .retried
    else pure .lost

/-- Publishes and settles the rows of one topic in order. -/
def publishAll (s : OutboxSettings) (topic : String) : List OutboxMessage → Deliver (List Settlement)
  | [] => pure []
  | m :: rest => do
    let settlement ← settle s m (← publish topic m)
    return settlement :: (← publishAll s topic rest)

/-- Rows by topic, topics in ascending order and the rows of a topic in the order given. -/
def groups (rows : List OutboxMessage) : List (String × List OutboxMessage) :=
  ((rows.map OutboxMessage.messageType).eraseDups.mergeSort fun a b => a ≤ b).map fun topic =>
    (topic, rows.filter fun m => m.messageType = topic)

/-- Lists the rows that are due and claims them; gives those it got and how many went to others. -/
def claimDue (s : OutboxSettings) : Deliver (List OutboxMessage × Nat) := do
  let now ← now
  let cutoff := s.leaseCutoff now
  let (claimed, conflicts) ← claim s.workerId now cutoff (← claimable s.batchSize now cutoff)
  count .claimed claimed.length
  pure (claimed, conflicts)

/-- What is left to do after the claims, topic by topic. No topic waits for the end of another. -/
def publishing (s : OutboxSettings) (claimed : List OutboxMessage) :
    List (Program OutboxCall.Reply (Stored (List Settlement))) :=
  (groups claimed).map fun (topic, rows) => (publishAll s topic rows).run

/-- The report once every topic has come to its end; the first that failed decides the outcome. -/
def report (claimed : List OutboxMessage) (conflicts : Nat) (topics : List (Stored (List Settlement))) :
    Stored BatchReport := do
  let settlements ← topics.mapM id
  pure (settlements.flatten.foldl BatchReport.add { claimed := claimed.length, conflicts })

/-- A batch in which each topic comes to its end before the next. -/
def batch (s : OutboxSettings) : Deliver BatchReport := do
  let (claimed, conflicts) ← claimDue s
  ExceptT.mk do
    let topics ← (publishing s claimed).mapM id
    pure (report claimed conflicts topics)

end Deliver
end Turnstile
