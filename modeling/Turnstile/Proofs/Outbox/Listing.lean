import Turnstile.Proofs.Instant.Order
import Turnstile.Proofs.Outbox.Rows

/-! The rows that a worker lists: those that may be claimed and were created first, as many as fit into a batch. -/

namespace Turnstile
open scoped List

namespace Store
variable {s : Store} {limit : Nat} {now cutoff : Instant}

/-- Rows that may be claimed, oldest first. Others may be claimed only if the batch is full, and are not older. -/
structure Oldest (s : Store) (limit : Nat) (now cutoff : Instant) (rows : List OutboxMessage) : Prop where
  claimable : ∀ m ∈ rows, m ∈ s.outbox ∧ m.isClaimable now cutoff = true
  ids : (rows.map OutboxMessage.id).Nodup
  ordered : rows.Pairwise fun a b => a.createdAt ≤ b.createdAt
  length : rows.length ≤ limit
  others : ∀ m ∈ s.outbox, m.isClaimable now cutoff = true → m ∉ rows →
    rows.length = limit ∧ ∀ row ∈ rows, row.createdAt ≤ m.createdAt

theorem oldest_claimable (h : s.Numbered) : s.Oldest limit now cutoff (s.claimable limit now cutoff) := by
  let due := s.outbox.filter fun m => m.isClaimable now cutoff
  let sorted := due.mergeSort fun a b => a.createdAt ≤ b.createdAt
  have hperm : sorted ~ due := List.mergeSort_perm _ _
  have hmem {m : OutboxMessage} : m ∈ sorted ↔ m ∈ s.outbox ∧ m.isClaimable now cutoff = true :=
    hperm.mem_iff.trans List.mem_filter
  have hsorted : sorted.Pairwise fun a b => a.createdAt ≤ b.createdAt := by
    have hpairs : sorted.Pairwise fun a b => decide (a.createdAt ≤ b.createdAt) = true := by
      refine List.pairwise_mergeSort (fun a b c hab hbc => ?_) (fun a b => ?_) due
      · exact decide_eq_true (le_trans (of_decide_eq_true hab) (of_decide_eq_true hbc))
      · simpa using le_total a.createdAt b.createdAt
    exact hpairs.imp fun hab => of_decide_eq_true hab
  have hsplit : s.claimable limit now cutoff ++ sorted.drop limit = sorted := List.take_append_drop limit sorted
  have hids : (sorted.map OutboxMessage.id).Nodup :=
    ((hperm.map OutboxMessage.id).nodup_iff).mpr (h.sublist (List.filter_sublist.map _))
  constructor
  case claimable => exact fun m hm => hmem.mp (List.mem_of_mem_take hm)
  case ids => exact hids.sublist ((List.take_sublist limit sorted).map _)
  case ordered => exact hsorted.sublist (List.take_sublist limit sorted)
  case length => exact List.length_take_le limit sorted
  case others =>
    intro m hm hdue hout
    have hrest : m ∈ sorted.drop limit := by
      have hin : m ∈ s.claimable limit now cutoff ++ sorted.drop limit := by
        rw [hsplit]
        exact hmem.mpr ⟨hm, hdue⟩
      exact (List.mem_append.mp hin).resolve_left hout
    refine ⟨?_, fun row hrow => ?_⟩
    · have hlong : limit ≤ sorted.length := by
        by_contra hshort
        rw [List.drop_of_length_le (Nat.le_of_not_le hshort)] at hrest
        exact List.not_mem_nil hrest
      exact List.length_take_of_le hlong
    · rw [← hsplit] at hsorted
      exact (List.pairwise_append.mp hsorted).2.2 row hrow m hrest

/-- A listing with room for all rows that may be claimed has all of them. -/
theorem mem_claimable_iff (hroom : s.outbox.countP (·.isClaimable now cutoff) ≤ limit) {m : OutboxMessage} :
    m ∈ s.claimable limit now cutoff ↔ m ∈ s.outbox ∧ m.isClaimable now cutoff = true := by
  have hlength : ((s.outbox.filter fun m => m.isClaimable now cutoff).mergeSort fun a b =>
      a.createdAt ≤ b.createdAt).length ≤ limit := by
    rw [List.length_mergeSort, ← List.countP_eq_length_filter]
    exact hroom
  rw [claimable, List.take_of_length_le hlength, (List.mergeSort_perm _ _).mem_iff, List.mem_filter]

end Store
end Turnstile
