import Turnstile.Duration.Json
import Turnstile.ErrorReport
import Turnstile.Outbox.Settings

/-!
Reading the fields of an input record. A field that is missing or of the wrong type makes the input
unusable; a value with a format of its own that is not in that format is undecodable.
-/

namespace Turnstile.Input

abbrev Reading (α : Type) := Except ErrorReport α

def unusable : Reading α := .error ⟨"BadInput", none⟩

def undecodable : Reading α := .error ⟨"Decode", none⟩

/-- A result whose error is reported. -/
def reported (report : ε → ErrorReport) : Except ε α → Reading α := Except.mapError report

def present : Option α → Reading α
  | some a => pure a
  | none => unusable

/-- An optional field; null counts as absent. -/
def optional (j : Json) (name : String) (decode : Json → Option α) : Reading (Option α) :=
  present (Json.optional? decode (j.field? name))

def required (j : Json) (name : String) (decode : Json → Option α) : Reading α := do
  present (← optional j name decode)

/-- A field whose value has a format of its own. -/
def decoded (j : Json) (name : String) (decode : Json → Option α) : Reading α := do
  match decode (← present (j.field? name)) with
  | some a => pure a
  | none => undecodable

def uint64? : Json → Option Nat := Json.below? UInt64.size

def int64? : Json → Option Int
  | .int n => if Int64.minValue.toInt ≤ n ∧ n ≤ Int64.maxValue.toInt then some n else none
  | _ => none

def uuid? (j : Json) : Option Uuid := j.string?.bind Uuid.ofString?

def list? (decode : Json → Option α) (j : Json) : Option (List α) := do (← j.array?).mapM decode

def pair? (decode : Json → Option α) : Json → Option (α × α)
  | .array [a, b] => do some (← decode a, ← decode b)
  | _ => none

def record (j : Json) (name : String) : Reading Json := required j name some

def text (j : Json) (name : String) : Reading String := required j name Json.string?

def text? (j : Json) (name : String) : Reading (Option String) := optional j name Json.string?

/-- A truth value that is false unless it is given. -/
def flag (j : Json) (name : String) : Reading Bool := do return (← optional j name Json.bool?).getD false

def truth (j : Json) (name : String) : Reading Bool := required j name Json.bool?

def nat (j : Json) (name : String) : Reading Nat := required j name uint64?

def word (j : Json) (name : String) : Reading UInt32 := required j name Json.uint32?

def instant (j : Json) (name : String) : Reading Instant := required j name Instant.ofJson?

def ident {kind : IdKind} (j : Json) (name : String) : Reading (Id kind) := required j name Id.ofJson?

def list (j : Json) (name : String) (decode : Json → Option α) : Reading (List α) :=
  required j name (list? decode)

def listOrEmpty (j : Json) (name : String) (decode : Json → Option α) : Reading (List α) := do
  return (← optional j name (list? decode)).getD []

def idSupply (j : Json) : Reading IdSupply := do
  return .counting ((← optional j "id_start" uint64?).getD 1 : Nat) ((← optional j "id_step" int64?).getD 1)

def outboxSettings (j : Json) : Reading OutboxSettings := do
  let d : OutboxSettings := {}
  return {
    workerId := (← text? j "worker_id").getD d.workerId
    batchSize := (← optional j "batch_size" uint64?).getD d.batchSize
    leaseTimeout := (← optional j "lease_timeout" Duration.ofJson?).getD d.leaseTimeout
    pollInterval := (← optional j "poll_interval" Duration.ofJson?).getD d.pollInterval
    maxAttempts := (← optional j "max_attempts" Json.uint32?).getD d.maxAttempts
    retryBaseDelay := (← optional j "retry_base_delay" Duration.ofJson?).getD d.retryBaseDelay }

end Turnstile.Input
