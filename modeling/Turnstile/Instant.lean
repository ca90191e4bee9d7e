import Turnstile.Calendar
import Turnstile.Duration

/-!
Points in time: the Unix second and the nanoseconds within it. Nanoseconds from 10^9 on lie in a leap
second that follows their second, so the order is lexicographic. The years run from −262143 to 262142.
-/

namespace Turnstile

structure Instant where
  second : Int
  nano : Nat
  first_le : -8334601228800 ≤ second := by decide
  le_last : second ≤ 8210266876799 := by decide
  nano_lt : nano < 2_000_000_000 := by decide
  deriving DecidableEq, Repr

namespace Instant

instance : Inhabited Instant := ⟨{ second := 0, nano := 0 }⟩

def firstYear : Int := -262143

def lastYear : Int := 262142

def first : Instant := { second := -8334601228800, nano := 0 }

def last : Instant := { second := 8210266876799, nano := 999999999 }

/-- The first instant of the year 2024. -/
def newYear2024 : Instant := { second := 1704067200, nano := 0 }

def of? (second : Int) (nano : Nat) : Option Instant :=
  if h : (-8334601228800 ≤ second ∧ second ≤ 8210266876799) ∧ nano < 2_000_000_000 then
    some ⟨second, nano, h.1.1, h.1.2, h.2⟩
  else none

def IsLeap (t : Instant) : Prop := 1_000_000_000 ≤ t.nano

instance (t : Instant) : Decidable t.IsLeap := inferInstanceAs (Decidable (_ ≤ _))

instance : LT Instant := ⟨fun a b => a.second < b.second ∨ a.second = b.second ∧ a.nano < b.nano⟩

instance : LE Instant := ⟨fun a b => a.second < b.second ∨ a.second = b.second ∧ a.nano ≤ b.nano⟩

instance (a b : Instant) : Decidable (a < b) := inferInstanceAs (Decidable (_ ∨ _))

instance (a b : Instant) : Decidable (a ≤ b) := inferInstanceAs (Decidable (_ ∨ _))

/-- Nanoseconds since 1970, on a time line without leap seconds. -/
def nanos (t : Instant) : Int := t.second * 1_000_000_000 + t.nano

def ofNanos? (n : Int) : Option Instant := of? (n / 1_000_000_000) (n % 1_000_000_000).toNat

/-- The instant on a time line without leap seconds. -/
def withoutLeap (t : Instant) : Instant := (ofNanos? t.nanos).getD last

/-- The instant `delta` nanoseconds later. A leap second is kept while the sum stays within its
second or the one before, and is otherwise counted as the ordinary second next to it. -/
def add? (t : Instant) (delta : Int) : Option Instant :=
  let whole := delta.tdiv (1_000_000_000)
  let rest := delta.tmod (1_000_000_000)
  if ¬ t.IsLeap then ofNanos? (t.nanos + delta)
  else if 0 < whole ∨ 0 < rest ∧ 2_000_000_000 ≤ t.nano + rest then ofNanos? (t.nanos - 1_000_000_000 + delta)
  else if whole < 0 then ofNanos? (t.nanos + delta)
  else of? t.second (t.nano + rest).toNat

/-- Differences of instants are counted in milliseconds below 2^63. -/
def maxShift : Nat := 9_223_372_036_854_775_807 * 1_000_000

/-- The instant `d` later, or the last one there is. -/
def after (t : Instant) (d : Duration) : Instant :=
  (if d.nanos ≤ maxShift then t.add? d.nanos else none).getD last

/-- The instant `d` earlier, or the first one there is. -/
def before (t : Instant) (d : Duration) : Instant :=
  (if d.nanos ≤ maxShift then t.add? (-d.nanos) else none).getD first

end Instant
end Turnstile
