/-!
The proleptic Gregorian calendar: dates and their distance in days from 1970-01-01.
-/

namespace Turnstile

structure Date where
  year : Int
  month : Nat
  day : Nat
  deriving DecidableEq, Repr

namespace Date

def isLeap (year : Int) : Bool := year % 4 = 0 ∧ (year % 100 ≠ 0 ∨ year % 400 = 0)

def monthLengths (leap : Bool) : List Nat :=
  [31, if leap then 29 else 28, 31, 30, 31, 30, 31, 31, 30, 31, 30, 31]

/-- Days from 0001-01-01 to the first day of `year`. -/
def daysBeforeYear (year : Int) : Int :=
  365 * (year - 1) + (year - 1) / 4 - (year - 1) / 100 + (year - 1) / 400

def daysBeforeMonth (leap : Bool) (month : Nat) : Nat := ((monthLengths leap).take (month - 1)).foldr (· + ·) 0

/-- Days from 0001-01-01 to 1970-01-01. -/
def epoch : Int := 719162

def Valid (d : Date) : Prop :=
  1 ≤ d.month ∧ 1 ≤ d.day ∧ ∃ length, (monthLengths (isLeap d.year))[d.month - 1]? = some length ∧ d.day ≤ length

instance (d : Date) : Decidable d.Valid :=
  decidable_of_iff
    (1 ≤ d.month ∧ 1 ≤ d.day ∧ ((monthLengths (isLeap d.year))[d.month - 1]?.any fun n => d.day ≤ n) = true)
    (by simp [Valid, Option.any_eq_true])

def toDays (d : Date) : Int :=
  daysBeforeYear d.year + daysBeforeMonth (isLeap d.year) d.month + (d.day - 1 : Nat) - epoch

/-- The year that holds the day `n` days after 0001-01-01. The mean length of a year gives it up to
one. -/
def yearOf (n : Int) : Int :=
  let estimate := n * 400 / 146097 + 1
  if n < daysBeforeYear estimate then estimate - 1
  else if daysBeforeYear (estimate + 1) ≤ n then estimate + 1
  else estimate

/-- The month and day with `n` days of the listed months before it. -/
def monthAndDay : List Nat → Nat → Nat → Nat × Nat
  | [], month, n => (month, n + 1)
  | length :: rest, month, n =>
    if n < length then (month, n + 1) else monthAndDay rest (month + 1) (n - length)

def ofDays (n : Int) : Date :=
  let year := yearOf (n + epoch)
  let (month, day) := monthAndDay (monthLengths (isLeap year)) 1 (n + epoch - daysBeforeYear year).toNat
  ⟨year, month, day⟩

end Date
end Turnstile
