import Turnstile.Instant
import Mathlib.Order.Basic

/-!
The order of instants, and how it goes with moving by a duration on a clock that shows no leap seconds.
-/

namespace Turnstile.Instant
variable {t u : Instant} {d : Duration}

theorem le_def : t ≤ u ↔ t.second < u.second ∨ t.second = u.second ∧ t.nano ≤ u.nano := .rfl

theorem lt_def : t < u ↔ t.second < u.second ∨ t.second = u.second ∧ t.nano < u.nano := .rfl

instance : LinearOrder Instant where
  le_refl t := .inr ⟨rfl, Nat.le_refl _⟩
  le_trans t u v htu huv := by
    rw [le_def] at *
    omega
  lt_iff_le_not_ge t u := by
    rw [lt_def, le_def, le_def]
    omega
  le_antisymm t u htu hut := by
    rw [le_def] at htu hut
    obtain ⟨second, nano, _, _, _⟩ := t
    obtain ⟨second', nano', _, _, _⟩ := u
    dsimp only at htu hut
    obtain rfl : second = second' := by omega
    obtain rfl : nano = nano' := by omega
    rfl
  le_total t u := by
    rw [le_def, le_def]
    omega
  toDecidableLE := inferInstance
  toDecidableLT := inferInstance

theorem first_le_self (t : Instant) : first ≤ t := by
  have hfirst := t.first_le
  rw [le_def]
  simp only [first]
  omega

/-! Without leap seconds the order is that of the nanoseconds. -/

theorem lt_iff_nanos (ht : ¬ t.IsLeap) (hu : ¬ u.IsLeap) : t < u ↔ t.nanos < u.nanos := by
  rw [lt_def, nanos, nanos]
  simp only [IsLeap] at ht hu
  omega

theorem le_iff_nanos (ht : ¬ t.IsLeap) (hu : ¬ u.IsLeap) : t ≤ u ↔ t.nanos ≤ u.nanos := by
  rw [le_def, nanos, nanos]
  simp only [IsLeap] at ht hu
  omega

theorem le_last_of_steady (ht : ¬ t.IsLeap) : t ≤ last := by
  have hlast := t.le_last
  rw [le_def]
  simp only [IsLeap] at ht
  simp only [last]
  omega

/-- Every count of nanoseconds between the first and the last instant is that of an instant without leap
second, and no other is. -/
theorem ofNanos?_eq_some {n : Int} (h : ofNanos? n = some t) : ¬ t.IsLeap ∧ t.nanos = n := by
  unfold ofNanos? of? at h
  split at h
  · obtain rfl := Option.some_inj.mp h
    constructor
    · simp only [IsLeap]
      omega
    · simp only [nanos]
      omega
  · exact absurd h (by simp)

theorem ofNanos?_nanos {n : Int} (hlow : first.nanos ≤ n) (hhigh : n ≤ last.nanos) :
    ∃ t, ofNanos? n = some t := by
  simp only [nanos, first, last] at hlow hhigh
  unfold ofNanos? of?
  rw [dif_pos (by omega)]
  exact ⟨_, rfl⟩

theorem add?_of_steady (ht : ¬ t.IsLeap) (delta : Int) : t.add? delta = ofNanos? (t.nanos + delta) :=
  if_pos ht

/-- On such a time line an instant is its count of nanoseconds. -/
theorem eq_of_nanos (ht : ¬ t.IsLeap) (hu : ¬ u.IsLeap) (h : t.nanos = u.nanos) : t = u := by
  apply le_antisymm
  · exact (le_iff_nanos ht hu).mpr (Int.le_of_eq h)
  · exact (le_iff_nanos hu ht).mpr (Int.le_of_eq h.symm)

/-- No two instants are further apart than a difference of instants may be. -/
theorem span_le : last.nanos - first.nanos ≤ (maxShift : Int) := by decide

/-- The sum is exact as far as the time line goes. -/
theorem after_of_le (ht : ¬ t.IsLeap) (h : t.nanos + d.nanos ≤ last.nanos) :
    ¬ (t.after d).IsLeap ∧ (t.after d).nanos = t.nanos + d.nanos := by
  have hfirst : first.nanos ≤ t.nanos := (le_iff_nanos (by decide) ht).mp (first_le_self t)
  have hshift : d.nanos ≤ maxShift := by
    have hspan := span_le
    omega
  obtain ⟨u, hu⟩ := ofNanos?_nanos (n := t.nanos + d.nanos) (by omega) h
  rw [after, if_pos hshift, add?_of_steady ht, hu]
  exact ofNanos?_eq_some hu

theorem after_eq_last (ht : ¬ t.IsLeap) (h : last.nanos < t.nanos + d.nanos) : t.after d = last := by
  unfold after
  split
  · rw [add?_of_steady ht]
    cases hu : ofNanos? (t.nanos + d.nanos) with
    | none => rfl
    | some u =>
      obtain ⟨hsteady, hnanos⟩ := ofNanos?_eq_some hu
      have hlast := (le_iff_nanos hsteady (by decide)).mp (le_last_of_steady hsteady)
      omega
  · rfl

/-- The last instant stands for every later one. -/
theorem nanos_after (ht : ¬ t.IsLeap) (d : Duration) :
    ¬ (t.after d).IsLeap ∧ (t.after d).nanos = min (t.nanos + d.nanos) last.nanos := by
  by_cases h : t.nanos + d.nanos ≤ last.nanos
  · obtain ⟨hsteady, hnanos⟩ := after_of_le ht h
    exact ⟨hsteady, by omega⟩
  · rw [after_eq_last ht (by omega)]
    exact ⟨by decide, by omega⟩

theorem le_after (ht : ¬ t.IsLeap) (d : Duration) : t ≤ t.after d := by
  obtain ⟨hsteady, hnanos⟩ := nanos_after ht d
  have hlast := (le_iff_nanos ht (by decide)).mp (le_last_of_steady ht)
  rw [le_iff_nanos ht hsteady]
  omega

theorem after_mono (ht : ¬ t.IsLeap) {d e : Duration} (h : d ≤ e) : t.after d ≤ t.after e := by
  obtain ⟨hd, hdnanos⟩ := nanos_after ht d
  obtain ⟨he, henanos⟩ := nanos_after ht e
  have hle : d.nanos ≤ e.nanos := h
  rw [le_iff_nanos hd he]
  omega

/-- The difference is exact as far back as the time line goes. -/
theorem before_of_le (ht : ¬ t.IsLeap) (h : first.nanos ≤ t.nanos - d.nanos) :
    ¬ (t.before d).IsLeap ∧ (t.before d).nanos = t.nanos - d.nanos := by
  have hlast : t.nanos ≤ last.nanos := (le_iff_nanos ht (by decide)).mp (le_last_of_steady ht)
  have hshift : d.nanos ≤ maxShift := by
    have hspan := span_le
    omega
  obtain ⟨u, hu⟩ := ofNanos?_nanos (n := t.nanos + -d.nanos) (by omega) (by omega)
  rw [before, if_pos hshift, add?_of_steady ht, hu]
  exact ofNanos?_eq_some hu

theorem before_eq_first (ht : ¬ t.IsLeap) (h : t.nanos - d.nanos < first.nanos) : t.before d = first := by
  unfold before
  split
  · rw [add?_of_steady ht]
    cases hu : ofNanos? (t.nanos + -d.nanos) with
    | none => rfl
    | some u =>
      obtain ⟨hsteady, hnanos⟩ := ofNanos?_eq_some hu
      have hfirst := (le_iff_nanos (by decide) hsteady).mp (first_le_self u)
      omega
  · rfl

/-- The first instant stands for every earlier one. -/
theorem nanos_before (ht : ¬ t.IsLeap) (d : Duration) :
    ¬ (t.before d).IsLeap ∧ (t.before d).nanos = max (t.nanos - d.nanos) first.nanos := by
  by_cases h : first.nanos ≤ t.nanos - d.nanos
  · obtain ⟨hsteady, hnanos⟩ := before_of_le ht h
    exact ⟨hsteady, by omega⟩
  · rw [before_eq_first ht (by omega)]
    exact ⟨by decide, by omega⟩

/-- Nothing is later than the instant before which it should lie. -/
theorem before_le (ht : ¬ t.IsLeap) (d : Duration) : t.before d ≤ t := by
  obtain ⟨hsteady, hnanos⟩ := nanos_before ht d
  have hfirst := (le_iff_nanos (by decide) ht).mp (first_le_self t)
  rw [le_iff_nanos hsteady ht]
  omega

/-- No instant comes before the first, so the bound of the time line never shows. -/
theorem lt_before_iff (ht : ¬ t.IsLeap) (hu : ¬ u.IsLeap) (d : Duration) :
    t < u.before d ↔ t.nanos + d.nanos < u.nanos := by
  obtain ⟨hsteady, hnanos⟩ := nanos_before hu d
  have hfirst := (le_iff_nanos (by decide) ht).mp (first_le_self t)
  rw [lt_iff_nanos ht hsteady]
  omega

/-- What happened more than a duration ago has had the duration pass before now. -/
theorem after_lt_of_lt_before (ht : ¬ t.IsLeap) (hu : ¬ u.IsLeap) (h : t < u.before d) : t.after d < u := by
  have hago := (lt_before_iff ht hu d).mp h
  have hlast := (le_iff_nanos hu (by decide)).mp (le_last_of_steady hu)
  obtain ⟨hsteady, hnanos⟩ := after_of_le (d := d) ht (by omega)
  rw [lt_iff_nanos hsteady hu]
  omega

end Turnstile.Instant
