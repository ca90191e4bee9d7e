import Turnstile.Handler
import Turnstile.Metrics
import Turnstile.Program
import Turnstile.Retry

/-!
Handling of one queued event. A retryable failure is repeated after the delay of the retry policy until
the attempts are used up.
-/

namespace Turnstile

inductive HandlingCall (η : Type) where
  | handle (handler : η) (event : QueuedEvent)
  | sleep (delay : Duration)
  | count (counter : Counter)

@[reducible] def HandlingCall.Reply {η : Type} : HandlingCall η → Type
  | handle _ _ => Except HandlerError Unit
  | sleep _ => Unit
  | count _ => Unit

abbrev Handling (η α : Type) := @Program (HandlingCall η) HandlingCall.Reply α

/-- How the handling of an event ended, and after how many attempts. -/
inductive Outcome where
  | handled (attempts : UInt32)
  | dropped
  | failed (attempts : UInt32) (error : HandlerError)
  deriving DecidableEq, Repr

def Outcome.label : Outcome → OutcomeLabel
  | .handled _ => .handled
  | .dropped => .dropped
  | .failed .. => .failed

namespace Handling
variable {η : Type}

def ask (c : HandlingCall η) : Handling η c.Reply := .call c

/-- Makes the given attempt, counted from one, and more as long as they fail and the policy allows it. -/
def attempts (policy : RetryPolicy) (handler : η) (e : QueuedEvent) (attempt : UInt32) : Handling η Outcome := do
  match ← ask (.handle handler e) with
  | .ok () => return .handled attempt
  | .error cause =>
    if hmore : cause.isRetryable ∧ policy.shouldRetry attempt then
      ask (.count .handlerRetries)
      ask (.sleep (policy.delayAfter attempt))
      attempts policy handler e (attempt + 1)
    else return .failed attempt cause
termination_by policy.attempts - attempt.toNat
decreasing_by
  have hlt := (RetryPolicy.shouldRetry_iff attempt).mp hmore.2
  have hnext := RetryPolicy.toNat_succ_of_shouldRetry hmore.2
  omega

/-- Handles an event by the handler of its type; without one it is dropped. -/
def handle (handlers : Registry η) (policy : RetryPolicy) (e : QueuedEvent) : Handling η Outcome := do
  match handlers.get? e.type with
  | none =>
    ask (.count (.processed .dropped))
    return .dropped
  | some handler =>
    let outcome ← attempts policy handler e 1
    ask (.count .handlerDurations)
    ask (.count (.processed outcome.label))
    return outcome

end Handling
end Turnstile
