import Turnstile.Instant
import Mathlib.Algebra.GroupWithZero.Nat
import Mathlib.Data.Int.Basic

/-! The date of a day exists and lies as many days after 1970-01-01 as the day does. -/

namespace Turnstile.Date

theorem sum_monthLengths (year : Int) :
    ((monthLengths (isLeap year)).sum : Int) = daysBeforeYear (year + 1) - daysBeforeYear year := by
  have hleap : isLeap year = true ↔ year % 4 = 0 ∧ (year % 100 ≠ 0 ∨ year % 400 = 0) := by simp [isLeap]
  rw [daysBeforeYear, daysBeforeYear]
  by_cases h : isLeap year = true
  · have hdiv := hleap.mp h
    simp only [monthLengths, h, List.sum_cons, List.sum_nil, if_true]
    omega
  · have hdiv := mt hleap.mpr h
    simp only [monthLengths, h, List.sum_cons, List.sum_nil]
    simp only [Bool.false_eq_true, if_false]
    omega

/-- The estimate of a year is at most one off. -/
theorem yearOf_bounds (n : Int) : daysBeforeYear (yearOf n) ≤ n ∧ n < daysBeforeYear (yearOf n + 1) := by
  have hlow : daysBeforeYear (n * 400 / 146097 + 1 - 1) ≤ n := by
    rw [daysBeforeYear]
    omega
  have hhigh : n < daysBeforeYear (n * 400 / 146097 + 1 + 1 + 1) := by
    rw [daysBeforeYear]
    omega
  unfold yearOf
  dsimp only
  split
  · next h => exact ⟨hlow, by simpa using h⟩
  split
  · next h => exact ⟨h, hhigh⟩
  · next h h' => exact ⟨Int.not_lt.mp h, Int.not_le.mp h'⟩

/-- The month of a day, and the day within it. -/
theorem monthAndDay_eq {lengths : List Nat} {n : Nat} (h : n < lengths.sum) (month : Nat) :
    ∃ pre length post, lengths = pre ++ length :: post ∧ pre.sum ≤ n ∧ n < pre.sum + length ∧
      monthAndDay lengths month n = (month + pre.length, n - pre.sum + 1) := by
  induction lengths generalizing n month with
  | nil => simp at h
  | cons length rest ih =>
    rw [List.sum_cons] at h
    rw [monthAndDay]
    split
    · next hlt => exact ⟨[], length, rest, rfl, Nat.zero_le _, by simpa using hlt, by simp⟩
    · next hge =>
      obtain ⟨pre, length', post, rfl, hle, hlt, heq⟩ := ih (n := n - length) (by omega) (month + 1)
      refine ⟨length :: pre, length', post, rfl, ?_, ?_, ?_⟩
      · rw [List.sum_cons]
        omega
      · rw [List.sum_cons]
        omega
      · rw [heq, List.sum_cons, List.length_cons]
        congr 1
        · omega
        · omega

private theorem foldr_add (xs : List Nat) : xs.foldr (· + ·) 0 = xs.sum := rfl

/-- The date of a day. -/
theorem ofDays_spec (n : Int) :
    (ofDays n).Valid ∧ (ofDays n).toDays = n ∧ (ofDays n).year = yearOf (n + epoch) ∧ (ofDays n).month ≤ 12 ∧
      (ofDays n).day ≤ 31 := by
  obtain ⟨hlow, hhigh⟩ := yearOf_bounds (n + epoch)
  have hsum := sum_monthLengths (yearOf (n + epoch))
  obtain ⟨pre, length, post, hsplit, hle, hlt, heq⟩ :=
    @monthAndDay_eq (monthLengths (isLeap (yearOf (n + epoch)))) (n + epoch - daysBeforeYear (yearOf (n + epoch))).toNat
      (by omega) 1
  have hdate : ofDays n = ⟨yearOf (n + epoch), 1 + pre.length,
      (n + epoch - daysBeforeYear (yearOf (n + epoch))).toNat - pre.sum + 1⟩ := by
    rw [ofDays, heq]
  have hmonth : pre.length < 12 := by
    have hlen : (monthLengths (isLeap (yearOf (n + epoch)))).length = 12 := rfl
    rw [hsplit, List.length_append, List.length_cons] at hlen
    omega
  have hlength : length ≤ 31 := by
    have hall : ∀ leap, ∀ m ∈ monthLengths leap, m ≤ 31 := by decide
    refine hall (isLeap (yearOf (n + epoch))) length ?_
    rw [hsplit]
    simp
  rw [hdate]
  refine ⟨⟨by simp, by simp, length, ?_, by simp only; omega⟩, ?_, rfl, by simp only; omega, by simp only; omega⟩
  · simp [hsplit]
  · have hbefore : daysBeforeMonth (isLeap (yearOf (n + epoch))) (1 + pre.length) = pre.sum := by
      rw [daysBeforeMonth, hsplit, foldr_add]
      simp
    simp only [toDays, hbefore]
    omega

theorem daysBeforeYear_mono {year year' : Int} (h : year ≤ year') : daysBeforeYear year ≤ daysBeforeYear year' := by
  rw [daysBeforeYear, daysBeforeYear]
  omega

theorem year_bounds {n : Int} (hlow : -96465292 ≤ n) (hhigh : n ≤ 95026236) :
    Instant.firstYear ≤ (ofDays n).year ∧ (ofDays n).year ≤ Instant.lastYear := by
  obtain ⟨hle, hlt⟩ := yearOf_bounds (n + epoch)
  rw [(ofDays_spec n).2.2.1]
  have hfirst : daysBeforeYear Instant.firstYear = -96465292 + epoch := by decide
  have hlast : daysBeforeYear (Instant.lastYear + 1) = 95026236 + 1 + epoch := by decide
  constructor
  · by_contra hlow'
    have hmono := daysBeforeYear_mono (show yearOf (n + epoch) + 1 ≤ Instant.firstYear by omega)
    omega
  · by_contra hhigh'
    have hmono := daysBeforeYear_mono (show Instant.lastYear + 1 ≤ yearOf (n + epoch) by omega)
    omega

end Turnstile.Date
