import Turnstile.Queue.Event
import Turnstile.Table
import Turnstile.Text.Quoted

/-!
Handlers of events, the registry that finds one by event type, and how handling and dispatching fail.
-/

namespace Turnstile

/-- Only a retryable failure is worth another attempt. -/
inductive HandlerError where
  | retryable (reason : String)
  | permanent (reason : String)
  deriving DecidableEq, Repr

namespace HandlerError

def isRetryable : HandlerError → Bool
  | .retryable _ => true
  | .permanent _ => false

def message : HandlerError → String
  | .retryable reason => s!"Retryable handler failure: {reason}"
  | .permanent reason => s!"Permanent handler failure: {reason}"

end HandlerError

inductive DispatchError where
  | transient (reason : String)
  | handler (cause : HandlerError)
  | serialization (reason : String)
  | database
  deriving DecidableEq, Repr

def DispatchError.message : DispatchError → String
  | .transient reason => s!"Transient infrastructure error: {reason}"
  | .handler cause => s!"Handler error: {cause.message}"
  | .serialization reason => s!"Serialization error: {reason}"
  | .database => "Database error"

/-- Handlers by the type of event they take; a later handler for a type replaces the earlier one. -/
abbrev Registry (η : Type) := Table String η

namespace Registry
variable {η : Type}

/-- The event types in ascending order. -/
def types (r : Registry η) : List String := r.keys.mergeSort fun a b => a ≤ b

def describe (r : Registry η) : String :=
  "HandlerRegistry \x7b event_types: [" ++ ", ".intercalate (r.types.map Text.quoted) ++ "] \x7d"

end Registry
end Turnstile
