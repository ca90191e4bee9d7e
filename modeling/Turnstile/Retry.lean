import Turnstile.Duration

/-!
How often a failing action is repeated and how long to wait before each repetition.
-/

namespace Turnstile

/-- Two to the number of earlier failures, as far as 32 bits hold it. -/
def backoffFactor (failedAttempt : UInt32) : Nat :=
  if failedAttempt.toNat - 1 < 32 then Nat.pow 2 (failedAttempt.toNat - 1) else UInt32.size - 1

structure RetryPolicy where
  maxAttempts : UInt32 := 3
  baseDelay : Duration := .ofMillis 200
  exponential : Bool := true
  maxDelay : Duration := .ofSeconds 30
  deriving Repr

namespace RetryPolicy

/-- How many attempts are made at most; there is always one. -/
def attempts (p : RetryPolicy) : Nat := (max p.maxAttempts 1).toNat

/-- The wait after the given attempt, counted from one, has failed. Only a growing wait is capped. -/
def delayAfter (p : RetryPolicy) (failedAttempt : UInt32) : Duration :=
  if p.exponential then min (p.baseDelay.scale (backoffFactor failedAttempt)) p.maxDelay
  else p.baseDelay

def shouldRetry (p : RetryPolicy) (failedAttempt : UInt32) : Bool :=
  failedAttempt < max p.maxAttempts 1

theorem shouldRetry_iff {p : RetryPolicy} (attempt : UInt32) : p.shouldRetry attempt ↔ attempt.toNat < p.attempts := by
  rw [shouldRetry, decide_eq_true_eq, UInt32.lt_iff_toNat_lt, attempts]

/-- The number of an attempt that may be made does not overflow. -/
theorem toNat_succ_of_shouldRetry {p : RetryPolicy} {attempt : UInt32} (h : p.shouldRetry attempt) :
    (attempt + 1).toNat = attempt.toNat + 1 := by
  have hlt := (shouldRetry_iff attempt).mp h
  have hbound : p.attempts < UInt32.size := UInt32.toNat_lt_size _
  rw [UInt32.toNat_add, UInt32.toNat_one]
  exact Nat.mod_eq_of_lt (by rw [UInt32.size] at hbound; omega)

end RetryPolicy
end Turnstile
