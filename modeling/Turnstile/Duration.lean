/-!
Lengths of time in whole nanoseconds, bounded by 2^64 seconds.
-/

namespace Turnstile

structure Duration where
  nanos : Nat
  lt_limit : nanos < UInt64.size * 1_000_000_000 := by decide
  deriving DecidableEq, Repr

namespace Duration

instance : Inhabited Duration := ⟨⟨0, by decide⟩⟩

def limit : Nat := UInt64.size * 1_000_000_000

/-- The longest duration stands for every longer one. -/
def saturating (nanos : Nat) : Duration :=
  ⟨min nanos (limit - 1), Nat.lt_of_le_of_lt (Nat.min_le_right ..) (by decide)⟩

def max : Duration := saturating limit

def ofSeconds (s : Nat) : Duration := saturating (s * 1_000_000_000)

def ofMillis (ms : Nat) : Duration := saturating (ms * 1_000_000)

def seconds (d : Duration) : Nat := d.nanos / 1_000_000_000

def millis (d : Duration) : Nat := d.nanos / 1_000_000

def scale (d : Duration) (factor : Nat) : Duration := saturating (d.nanos * factor)

def isZero (d : Duration) : Bool := d.nanos = 0

/-- Clocks count seconds in 63 bits, and a timer starts from what its clock has counted by then. -/
def maxWait : Nat := 9_223_372_036_854_000_000

/-- Thirty years, which stand for a wait that is longer than any clock can count. -/
def farFuture : Nat := 946_080_000_000

/-- Timers have a resolution of one millisecond and never fire early. -/
def ticks (d : Duration) : Nat :=
  if d.seconds < maxWait then (d.nanos + (1_000_000 - 1)) / 1_000_000 else farFuture

instance : LE Duration := ⟨fun a b => a.nanos ≤ b.nanos⟩
instance (a b : Duration) : Decidable (a ≤ b) := inferInstanceAs (Decidable (a.nanos ≤ b.nanos))

instance : Min Duration := ⟨fun a b => if a ≤ b then a else b⟩

end Duration
end Turnstile
