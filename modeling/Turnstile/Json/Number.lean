import Turnstile.Json

/-!
Numbers in JSON texts. Integers of 64 bits, signed or not, are kept; other numbers are kept as they are
written, provided that the nearest number of double precision is finite.
-/

namespace Turnstile.Json

/-- A number without its sign: the digits before and behind the point, and the power of ten after them. -/
structure Decimal where
  whole : List Nat
  fraction : List Nat := []
  exponent : Int := 0
  deriving Repr

namespace Decimal

def valueOf (digits : List Nat) : Nat := digits.foldl (fun n d => n * 10 + d) 0

/-- Takes digits into a significand of 64 bits until one does not fit; also gives how many were left. -/
def absorb (significand : Nat) : List Nat → Nat × Nat
  | [] => (significand, 0)
  | d :: rest =>
    if significand * 10 + d < UInt64.size then absorb (significand * 10 + d) rest
    else (significand, rest.length + 1)

/-- A significand of 64 bits and the power of ten that belongs to it. Digits beyond them only count by
their place. -/
def scientific (n : Decimal) : Nat × Int :=
  let (s, beyond) := absorb 0 n.whole
  let (s, left) := absorb s n.fraction
  (s, n.exponent + beyond + left - n.fraction.length)

/-- The nearest number with 53 significant bits; a tie goes to the even one. -/
def nearestDouble (n : Nat) : Nat :=
  let unit := Nat.pow 2 (n.log2 - 52)
  let q := n / unit
  let r := n % unit
  let up := unit < 2 * r || (2 * r = unit && q % 2 = 1)
  (if up then q + 1 else q) * unit

/-- The least number that is too large for double precision: half a unit beyond its greatest. -/
def overflow : Nat := Nat.pow 2 1024 - Nat.pow 2 970

def maxExponent : Int := 308

/-- A significand and a power of ten are rounded each, and so is their product. -/
def isFinite (n : Decimal) : Bool :=
  let (s, e) := n.scientific
  s = 0 || (e ≤ maxExponent && nearestDouble s * nearestDouble (Nat.pow 10 e.toNat) < overflow)

end Decimal

def isInteger64 (n : Int) : Bool := Int64.minValue.toInt ≤ n && n < UInt64.size

end Turnstile.Json
