import Turnstile.Outbox.Message

/-!
The external bus that outbox rows are published to, and the one kept in memory, which can be made to
refuse.
-/

namespace Turnstile

inductive BusError where
  | unavailable (reason : String)
  | publish (topic reason : String)
  deriving DecidableEq, Repr

def BusError.message : BusError → String
  | .unavailable reason => s!"Bus unavailable: {reason}"
  | .publish topic reason => s!"Publish to {topic} failed: {reason}"

structure Bus where
  /-- What was accepted, oldest first, each message under its topic. -/
  published : List (String × OutboxMessage) := []
  disabled : Bool := false
  /-- How many publishes will still be made to fail. -/
  failures : Nat := 0
  deriving Inhabited

namespace Bus

/-- Whether the bus takes the next message. A disabled bus refuses without using up a failure. -/
def accept (b : Bus) (topic : String) : Except BusError Unit × Bus :=
  if b.disabled then (.error (.unavailable "in-memory bus disabled"), b)
  else if b.failures ≠ 0 then
    (.error (.publish topic "injected failure"), { b with failures := b.failures - 1 })
  else (.ok (), b)

def record (b : Bus) (topic : String) (m : OutboxMessage) : Bus :=
  { b with published := b.published ++ [(topic, m)] }

def publish (b : Bus) (topic : String) (m : OutboxMessage) : Except BusError Unit × Bus :=
  match b.accept topic with
  | (.ok (), b) => (.ok (), b.record topic m)
  | refused => refused

end Bus
end Turnstile
