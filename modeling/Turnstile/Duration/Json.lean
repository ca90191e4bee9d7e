import Turnstile.Duration
import Turnstile.Json

/-!
Durations in records. They are read from whole milliseconds, or from seconds and nanoseconds, and
written in nanoseconds.
-/

namespace Turnstile.Duration

def ofJson? (j : Json) : Option Duration :=
  match j with
  | .int _ => (j.below? UInt64.size).map ofMillis
  | .object _ => do
    let seconds ← (← j.field? "secs").below? UInt64.size
    let nanos ← (← j.field? "nanos").below? 1_000_000_000
    some (saturating (seconds * 1_000_000_000 + nanos))
  | _ => none

def toJson (d : Duration) : Json := .string (toString d.nanos)

end Turnstile.Duration
