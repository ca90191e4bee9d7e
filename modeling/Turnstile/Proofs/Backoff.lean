import Turnstile.Settings
import Turnstile.Proofs.Instant.Order

/-!
The wait after a failure. Handlers and the outbox double it with every failure, each in its own way and
through several roundings; here both are compared with the same wait in unbounded arithmetic.
-/

namespace Turnstile

theorem backoffFactor_eq (n : UInt32) :
    backoffFactor n = min (Nat.pow 2 (n.toNat - 1)) (UInt32.size - 1) := by
  unfold backoffFactor
  split
  · next h =>
    have hpow : Nat.pow 2 (n.toNat - 1) ≤ Nat.pow 2 31 := Nat.pow_le_pow_right (by decide) (by omega)
    have hsize : Nat.pow 2 31 ≤ UInt32.size - 1 := by decide
    exact (Nat.min_eq_left (Nat.le_trans hpow hsize)).symm
  · next h =>
    have hpow : Nat.pow 2 32 ≤ Nat.pow 2 (n.toNat - 1) := Nat.pow_le_pow_right (by decide) (by omega)
    have hsize : UInt32.size - 1 ≤ Nat.pow 2 32 := by decide
    exact (Nat.min_eq_right (Nat.le_trans hsize hpow)).symm

theorem backoffFactor_lt (n : UInt32) : backoffFactor n < UInt32.size := by
  rw [backoffFactor_eq]
  exact Nat.lt_of_le_of_lt (Nat.min_le_right ..) (by decide)

theorem backoffFactor_mono {n m : UInt32} (h : n ≤ m) : backoffFactor n ≤ backoffFactor m := by
  have hpow : Nat.pow 2 (n.toNat - 1) ≤ Nat.pow 2 (m.toNat - 1) := by
    apply Nat.pow_le_pow_right (by decide)
    exact Nat.sub_le_sub_right (UInt32.le_iff_toNat_le.mp h) 1
  rw [backoffFactor_eq, backoffFactor_eq]
  omega

namespace Duration

theorem nanos_lt (d : Duration) : d.nanos < limit := d.lt_limit

theorem le_def {d e : Duration} : d ≤ e ↔ d.nanos ≤ e.nanos := .rfl

theorem eq_of_nanos {d e : Duration} (h : d.nanos = e.nanos) : d = e := by
  cases d
  cases e
  cases h
  rfl

theorem nanos_scale (d : Duration) (factor : Nat) : (d.scale factor).nanos = min (d.nanos * factor) (limit - 1) := rfl

theorem nanos_min (d e : Duration) : (min d e).nanos = min d.nanos e.nanos := by
  have hmin : min d e = if d.nanos ≤ e.nanos then d else e := rfl
  rw [hmin]
  split <;> omega

theorem nanos_ofMillis {ms : Nat} (h : ms < UInt64.size) : (ofMillis ms).nanos = ms * 1_000_000 := by
  have hlimit : UInt64.size * 1_000_000 ≤ limit - 1 := by decide
  have hnanos : (ofMillis ms).nanos = min (ms * 1_000_000) (limit - 1) := rfl
  omega

end Duration

namespace RetryPolicy
variable {p : RetryPolicy} {n m : UInt32}

/-- The wait after a failure counted from one, were numbers not bounded: the base, doubled by each failure
before it, as far as the cap. -/
def doubled (p : RetryPolicy) (n : UInt32) : Nat :=
  min p.maxDelay.nanos (p.baseDelay.nanos * Nat.pow 2 (n.toNat - 1))

/-- The product is rounded down to the longest duration only where the cap cuts it off anyway. -/
theorem nanos_delayAfter (hp : p.exponential = true) (n : UInt32) :
    (p.delayAfter n).nanos = min p.maxDelay.nanos (p.baseDelay.nanos * backoffFactor n) := by
  have hcap : p.maxDelay.nanos < Duration.limit := p.maxDelay.nanos_lt
  rw [delayAfter, if_pos hp, Duration.nanos_min, Duration.nanos_scale]
  omega

/-- A factor of 32 bits is the power of two through the 32nd failure. -/
theorem doubled_of_early (hp : p.exponential = true) (hn : n ≤ 32) : (p.delayAfter n).nanos = p.doubled n := by
  have hn' : n.toNat ≤ 32 := UInt32.le_iff_toNat_le.mp hn
  rw [nanos_delayAfter hp, doubled, backoffFactor, if_pos (by omega)]

/-- Once the largest factor reaches the cap, so does every power of two beyond it. -/
theorem doubled_of_reached (hp : p.exponential = true)
    (hcap : p.maxDelay.nanos ≤ p.baseDelay.nanos * (UInt32.size - 1)) (n : UInt32) :
    (p.delayAfter n).nanos = p.doubled n := by
  rw [nanos_delayAfter hp, doubled, backoffFactor_eq]
  obtain hpow | hpow := Nat.le_total (Nat.pow 2 (n.toNat - 1)) (UInt32.size - 1)
  · rw [Nat.min_eq_left hpow]
  · have hbeyond := Nat.mul_le_mul_left p.baseDelay.nanos hpow
    rw [Nat.min_eq_right hpow, Nat.min_eq_left hcap, Nat.min_eq_left (Nat.le_trans hcap hbeyond)]

/-- How a growing wait depends on the number of failures. -/
structure Growing (p : RetryPolicy) : Prop where
  rises : ∀ {n m : UInt32}, n ≤ m → p.delayAfter n ≤ p.delayAfter m
  capped : ∀ n, p.delayAfter n ≤ p.maxDelay
  early : ∀ n ≤ 32, (p.delayAfter n).nanos = p.doubled n
  reached : p.maxDelay.nanos ≤ p.baseDelay.nanos * (UInt32.size - 1) → ∀ n, (p.delayAfter n).nanos = p.doubled n

theorem growing (hp : p.exponential = true) : p.Growing where
  rises := by
    intro n m h
    have hfactor := Nat.mul_le_mul_left p.baseDelay.nanos (backoffFactor_mono h)
    rw [Duration.le_def, nanos_delayAfter hp, nanos_delayAfter hp]
    omega
  capped := by
    intro n
    rw [Duration.le_def, nanos_delayAfter hp]
    exact Nat.min_le_left ..
  early := fun _ hn => doubled_of_early hp hn
  reached := doubled_of_reached hp

end RetryPolicy

namespace Settings

/-- The cap of thirty seconds is below the largest multiple of any base of whole milliseconds but zero,
whose multiples are all zero. -/
theorem background_doubled {s : Settings} (hs : s.backgroundRetryExponential = true)
    (hbase : 1_000_000 ∣ s.backgroundRetryBaseDelay.nanos) (n : UInt32) :
    (s.background.retry.delayAfter n).nanos = s.background.retry.doubled n := by
  obtain ⟨ms, hms⟩ := hbase
  obtain rfl | hpos := Nat.eq_zero_or_pos ms
  · have hzero : s.background.retry.baseDelay.nanos = 0 := hms
    rw [RetryPolicy.nanos_delayAfter hs, RetryPolicy.doubled, hzero, Nat.zero_mul, Nat.zero_mul]
  · apply RetryPolicy.doubled_of_reached hs
    have hcap : (RetryPolicy.maxDelay {}).nanos ≤ 1_000_000 * 1 * (UInt32.size - 1) := by decide
    calc s.background.retry.maxDelay.nanos
      _ ≤ 1_000_000 * 1 * (UInt32.size - 1) := hcap
      _ ≤ 1_000_000 * ms * (UInt32.size - 1) :=
        Nat.mul_le_mul_right _ (Nat.mul_le_mul_left _ hpos)
      _ = s.background.retry.baseDelay.nanos * (UInt32.size - 1) := by rw [← hms]; rfl

theorem number?_lt {bound k : Nat} {text : String} (h : Environment.number? bound text = some k) : k < bound := by
  unfold Environment.number? at h
  obtain ⟨-, hk⟩ := Option.filter_eq_some_iff.mp h
  exact of_decide_eq_true hk

/-- A base delay that is read from the environment is one of whole milliseconds. -/
theorem ofEnvironment_wholeMillis (env : Environment) (id : Uuid) :
    1_000_000 ∣ (ofEnvironment env id).backgroundRetryBaseDelay.nanos := by
  have hlt : env.number "BACKGROUND_RETRY_BASE_DELAY_MS" UInt64.size (Duration.ofMillis 200).millis < UInt64.size := by
    unfold Environment.number
    cases htext : (env.text? "BACKGROUND_RETRY_BASE_DELAY_MS").bind (Environment.number? UInt64.size) with
    | none => decide
    | some k =>
      obtain ⟨text, -, hk⟩ := Option.bind_eq_some_iff.mp htext
      exact number?_lt hk
  have hbase : (ofEnvironment env id).backgroundRetryBaseDelay
      = .ofMillis (env.number "BACKGROUND_RETRY_BASE_DELAY_MS" UInt64.size (Duration.ofMillis 200).millis) := rfl
  rw [hbase, Duration.nanos_ofMillis hlt]
  exact Nat.dvd_mul_left ..

end Settings

namespace OutboxSettings
variable {s : OutboxSettings} {now : Instant}

/-- The policy with the same base and no cap but the longest duration. -/
def uncapped (s : OutboxSettings) : RetryPolicy :=
  { maxAttempts := s.maxAttempts, baseDelay := s.retryBaseDelay, exponential := true, maxDelay := .max }

theorem scale_eq_delayAfter (s : OutboxSettings) (n : UInt32) :
    s.retryBaseDelay.scale (backoffFactor n) = s.uncapped.delayAfter n := by
  apply Duration.eq_of_nanos
  rw [RetryPolicy.nanos_delayAfter rfl, Duration.nanos_scale, Nat.min_comm]
  rfl

theorem nextAttemptAt_eq (s : OutboxSettings) (n : UInt32) (now : Instant) :
    s.nextAttemptAt n now = now.after (s.uncapped.delayAfter n) := by
  rw [← scale_eq_delayAfter]
  rfl

/-- When a row that has failed is tried again. The last instant stands for every time that no instant is. -/
structure Postponing (s : OutboxSettings) (now : Instant) : Prop where
  never_before : ∀ n, now ≤ s.nextAttemptAt n now
  rises : ∀ {n m : UInt32}, n ≤ m → s.nextAttemptAt n now ≤ s.nextAttemptAt m now
  exact : ∀ (n : UInt32) (t : Instant), ¬ t.IsLeap → t.nanos = now.nanos + (s.uncapped.delayAfter n).nanos →
    s.nextAttemptAt n now = t
  beyond : ∀ n : UInt32, (∀ t : Instant, ¬ t.IsLeap → t.nanos ≠ now.nanos + (s.uncapped.delayAfter n).nanos) →
    s.nextAttemptAt n now = .last

theorem postponing (s : OutboxSettings) (hnow : ¬ now.IsLeap) : s.Postponing now where
  never_before := by
    intro n
    exact Instant.le_after hnow _
  rises := by
    intro n m h
    rw [nextAttemptAt_eq, nextAttemptAt_eq]
    apply Instant.after_mono hnow
    exact (RetryPolicy.growing rfl).rises h
  exact := by
    intro n t ht hnanos
    have hlast := (Instant.le_iff_nanos ht (by decide)).mp (Instant.le_last_of_steady ht)
    obtain ⟨hsteady, hafter⟩ := Instant.after_of_le (d := s.uncapped.delayAfter n) hnow (by omega)
    rw [nextAttemptAt_eq]
    exact Instant.eq_of_nanos hsteady ht (hafter.trans hnanos.symm)
  beyond := by
    intro n hnone
    rw [nextAttemptAt_eq]
    apply Instant.after_eq_last hnow
    by_contra hle
    obtain ⟨hsteady, hafter⟩ := Instant.after_of_le (d := s.uncapped.delayAfter n) hnow (by omega)
    exact hnone _ hsteady hafter

end OutboxSettings

/-- The waits of handlers and of the outbox double with every failure as far as their caps, and no rounding
on the way shows: the factor fits in 32 bits, and each later step saturates only where the cap or the end of
the time line is met. -/
theorem backoff_doubles :
    (∀ n, backoffFactor n < UInt32.size ∧ backoffFactor n = min (Nat.pow 2 (n.toNat - 1)) (UInt32.size - 1)) ∧
    (∀ p : RetryPolicy, p.exponential = true → p.Growing) ∧
    (∀ s : Settings, s.backgroundRetryExponential = true → 1_000_000 ∣ s.backgroundRetryBaseDelay.nanos →
      ∀ n, (s.background.retry.delayAfter n).nanos = s.background.retry.doubled n) ∧
    (∀ env id, 1_000_000 ∣ (Settings.ofEnvironment env id).backgroundRetryBaseDelay.nanos) ∧
    ∀ (s : OutboxSettings) (now : Instant), ¬ now.IsLeap → s.Postponing now :=
  ⟨fun n => ⟨backoffFactor_lt n, backoffFactor_eq n⟩, fun _ => RetryPolicy.growing,
    fun _ => Settings.background_doubled, Settings.ofEnvironment_wholeMillis, fun s _ => s.postponing⟩

example : (List.map ({ retryBaseDelay := .ofMillis 100 } : OutboxSettings).nextAttemptAt [1, 2, 4]).map
      (fun next => (next .newYear2024).nanos - Instant.newYear2024.nanos)
    = [100_000_000, 200_000_000, 800_000_000] := by decide

end Turnstile
