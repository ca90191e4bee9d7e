import Turnstile.Bus
import Turnstile.Metrics
import Turnstile.Program

/-!
The questions an outbox worker asks: the time, the rows it may claim, the bus, and whether a row is
still its own when it settles it.
-/

namespace Turnstile

inductive OutboxCall where
  | now
  | count (counter : Counter) (n : Nat)
  | claimable (limit : Nat) (now cutoff : Instant)
  | tryClaim (message : MessageId) (worker : String) (now cutoff : Instant)
  | publish (topic : String) (message : OutboxMessage)
  | markProcessed (message : MessageId) (worker : String) (now : Instant)
  | markRetry (message : MessageId) (worker : String) (attempts : UInt32) (error : String) (next : Instant)
  | markFailed (message : MessageId) (worker : String) (attempts : UInt32) (error : String)

@[reducible] def OutboxCall.Reply : OutboxCall → Type
  | now => Instant
  | count _ _ => Unit
  | claimable _ _ _ => Stored (List OutboxMessage)
  | publish _ _ => Except BusError Unit
  | tryClaim _ _ _ _ | markProcessed _ _ _ | markRetry _ _ _ _ _ | markFailed _ _ _ _ => Stored Bool

end Turnstile
