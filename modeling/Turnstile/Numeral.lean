/-!
Numerals of a fixed width, most significant digit first, in a base up to sixteen.
-/

namespace Turnstile.Numeral

def padded (base : Nat) : Nat → Nat → List Char
  | 0, _ => []
  | width + 1, n => padded base width (n / base) ++ [Nat.digitChar (n % base)]

/-- The value of a digit below `base`, a letter in either case. -/
def digit? (base : Nat) (c : Char) : Option Nat :=
  let value :=
    if '0' ≤ c ∧ c ≤ '9' then c.toNat - '0'.toNat
    else if 'a' ≤ c ∧ c ≤ 'f' then c.toNat - 'a'.toNat + 10
    else if 'A' ≤ c ∧ c ≤ 'F' then c.toNat - 'A'.toNat + 10
    else base
  if value < base then some value else none

/-- The value of a text of digits alone; the empty text counts as zero. -/
def value? (base : Nat) (digits : List Char) : Option Nat :=
  digits.foldlM (fun n c => (digit? base c).map (n * base + ·)) 0

/-- A decimal number with at most one plus sign before it. -/
def natural? : List Char → Option Nat
  | [] | ['+'] => none
  | '+' :: digits => value? 10 digits
  | digits => value? 10 digits

/-- A decimal number with at most one sign before it. -/
def integer? : List Char → Option Int
  | ['-'] => none
  | '-' :: digits => (value? 10 digits).map fun n => -n
  | text => (natural? text).map Int.ofNat

theorem length_padded (base width n : Nat) : (padded base width n).length = width := by
  induction width generalizing n with
  | zero => rfl
  | succ width ih => simp [padded, ih]

end Turnstile.Numeral
