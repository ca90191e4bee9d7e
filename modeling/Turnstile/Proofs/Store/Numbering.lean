import Turnstile.Proofs.Registration.Transition
import Turnstile.Proofs.Store.Rows

/-! Places in a waitlist: lists numbered without a gap, and the waitlist as the one list in order. -/

namespace Turnstile
open scoped List

/-- The places of a list are `n`, `n + 1`, and so on. -/
def NumberedFrom : Nat → List Registration → Prop
  | _, [] => True
  | n, r :: rest => r.rank = some n ∧ NumberedFrom (n + 1) rest

namespace NumberedFrom
variable {n : Nat} {q pre post : List Registration} {r : Registration}

@[simp] theorem nil : NumberedFrom n [] := trivial

theorem append_iff : NumberedFrom n (pre ++ post) ↔ NumberedFrom n pre ∧ NumberedFrom (n + pre.length) post := by
  induction pre generalizing n with
  | nil => simp [NumberedFrom]
  | cons r pre ih =>
    simp only [List.cons_append, NumberedFrom, ih, List.length_cons, and_assoc]
    rw [show n + 1 + pre.length = n + (pre.length + 1) by omega]

theorem iff_map_rank : NumberedFrom n q ↔ q.map Registration.rank = (List.range' n q.length).map some := by
  induction q generalizing n with
  | nil => simp
  | cons r q ih => simp [NumberedFrom, ih, List.range'_succ]

theorem rank_bounds (h : NumberedFrom n q) (hr : r ∈ q) : ∃ k, r.rank = some k ∧ n ≤ k ∧ k < n + q.length := by
  induction q generalizing n with
  | nil => simp at hr
  | cons x q ih =>
    rcases List.mem_cons.mp hr with rfl | hr
    · exact ⟨n, h.1, Nat.le_refl n, by simp⟩
    · obtain ⟨k, hk, hl, hu⟩ := ih h.2 hr
      exact ⟨k, hk, by omega, by simp only [List.length_cons]; omega⟩

theorem rank_at (h : NumberedFrom n (pre ++ r :: post)) : r.rank = some (n + pre.length) :=
  (append_iff.mp h).2.1

/-- Places are 32-bit numbers, so a numbered list is short. -/
theorem length_lt (h : NumberedFrom n q) (hn : n < UInt32.size) : n + q.length ≤ UInt32.size := by
  rcases List.eq_nil_or_concat q with rfl | ⟨pre, r, rfl⟩
  · simp only [List.length_nil]
    omega
  · have hr : r.rank = some (n + pre.length) := @rank_at n pre [] r (by simpa using h)
    obtain ⟨p, hp, he⟩ := Option.map_eq_some_iff.mp hr
    have hlt := p.toNat_lt_size
    simp only [List.concat_eq_append, List.length_append, List.length_singleton]
    omega

end NumberedFrom

theorem Tx.place_eq {r : Registration} {k : Nat} (h : r.rank = some k) : Tx.place r = k + 1 := by
  obtain ⟨p, hp, rfl⟩ := Option.map_eq_some_iff.mp h
  simp [Tx.place, hp]

/-- The places of a numbered list rise. -/
theorem NumberedFrom.pairwise {n : Nat} {q : List Registration} (h : NumberedFrom n q) :
    q.Pairwise fun a b => Tx.place a < Tx.place b := by
  induction q generalizing n with
  | nil => exact .nil
  | cons r q ih =>
    refine List.pairwise_cons.mpr ⟨fun x hx => ?_, ih h.2⟩
    obtain ⟨k, hk, hl, -⟩ := h.2.rank_bounds hx
    rw [Tx.place_eq h.1, Tx.place_eq hk]
    omega

private theorem mergeSort_place_sorted (l : List Registration) :
    (l.mergeSort fun a b => Tx.place a ≤ Tx.place b).Pairwise fun a b => Tx.place a ≤ Tx.place b := by
  have h : (l.mergeSort fun a b => Tx.place a ≤ Tx.place b).Pairwise
      fun a b => decide (Tx.place a ≤ Tx.place b) = true :=
    List.pairwise_mergeSort (fun a b c hab hbc => by simp only [decide_eq_true_eq] at *; omega)
      (fun a b => by simp only [Bool.or_eq_true, decide_eq_true_eq]; omega) l
  exact h.imp fun hab => by simpa using hab

/-- Sorting by place gives the one order in which the places rise. -/
theorem mergeSort_place_eq {l q : List Registration} (hp : q ~ l)
    (hq : q.Pairwise fun a b => Tx.place a < Tx.place b) :
    (l.mergeSort fun a b => Tx.place a ≤ Tx.place b) = q := by
  have hperm : (l.mergeSort fun a b => Tx.place a ≤ Tx.place b) ~ q := (List.mergeSort_perm l _).trans hp.symm
  have hinj : (q.map Tx.place).Nodup := List.pairwise_map.mpr (hq.imp fun h => Nat.ne_of_lt h)
  refine List.Perm.eq_of_pairwise (fun a b ha hb hab hba => ?_) (mergeSort_place_sorted l)
    (hq.imp fun h => Nat.le_of_lt h) hperm
  exact List.inj_on_of_nodup_map hinj (hperm.mem_iff.mp ha) hb (Nat.le_antisymm hab hba)

namespace Store
variable {s : Store} {event : EventId} {q : List Registration}

theorem queue_perm (s : Store) (event : EventId) : s.queue event ~ s.waiting event := List.mergeSort_perm _ _

@[simp] theorem mem_queue {r : Registration} : r ∈ s.queue event ↔ r ∈ s.waiting event :=
  (s.queue_perm event).mem_iff

theorem queue_sorted (s : Store) (event : EventId) :
    ((s.queue event).map Tx.place).Pairwise (· ≤ ·) :=
  List.pairwise_map.mpr (mergeSort_place_sorted _)

theorem queue_eq (hp : q ~ s.waiting event) {n : Nat} (hq : NumberedFrom n q) : s.queue event = q :=
  mergeSort_place_eq hp hq.pairwise

end Store
end Turnstile
