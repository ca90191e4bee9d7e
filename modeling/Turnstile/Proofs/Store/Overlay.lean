import Turnstile.Proofs.Store.Numbering

/-!
A transaction reads through its own writes: what it sees is the store as its commit would leave it.
-/

namespace Turnstile
open scoped List

/-- A row that is written over belongs to the same event as the row written. -/
def Tx.KeepsEvents (tx : Tx) (s : Store) : Prop :=
  ∀ id r old, tx.registrations.get? id = some r → s.registrations.get? id = some old → old.eventId = r.eventId

def Tx.writes (tx : Tx) (rs : List Registration) : Tx := rs.foldl write tx

namespace Store
variable {s : Store} {tx : Tx} {r : Registration} {rs : List Registration} {event : EventId}

@[simp] theorem apply_empty : s.apply {} = s := by
  rw [apply, List.append_nil]
  rfl

theorem apply_write : s.apply (tx.write r) = (s.apply tx).put r := by
  simp [apply, Tx.write, put, Table.union_insert]

theorem apply_writes : s.apply (tx.writes rs) = (s.apply tx).puts rs := by
  induction rs generalizing tx with
  | nil => rfl
  | cons r rs ih =>
    rw [puts_cons, ← apply_write, ← ih]
    rfl

theorem get?_apply (id : RegistrationId) :
    (s.apply tx).registrations.get? id = (tx.registrations.get? id).or (s.registrations.get? id) :=
  Table.get?_union _ _ _

theorem registration?_eq (id : RegistrationId) :
    tx.registration? s id = (s.apply tx).registrations.get? id := by
  rw [get?_apply, Tx.registration?]
  cases tx.registrations.get? id <;> rfl

theorem Keyed.apply (hk : s.Keyed) (ht : tx.registrations.KeyedBy Registration.id) : (s.apply tx).Keyed := by
  intro id r h
  rw [get?_apply, Option.or_eq_some_iff] at h
  rcases h with h | ⟨-, h⟩
  · exact ht id r h
  · exact hk id r h

section
variable (hk : s.Keyed) (ht : tx.registrations.KeyedBy Registration.id) (he : tx.KeepsEvents s)
include hk ht

private theorem mem_overlay :
    r ∈ tx.registrationsOf s event ↔
      r.eventId = event ∧ (tx.registrations.get? r.id = some r ∨
        s.registrations.get? r.id = some r ∧
          ∀ staged, tx.registrations.get? r.id = some staged → staged.eventId ≠ event) := by
  simp only [Tx.registrationsOf, List.mem_append, List.mem_filter, ht.mem_values, mem_registrationsOf hk,
    decide_eq_true_eq, Bool.not_eq_true', Option.any_eq_false, decide_eq_false_iff_not, ne_eq]
  tauto

include he

theorem registrationsOf_overlay (event : EventId) :
    tx.registrationsOf s event ~ (s.apply tx).registrationsOf event := by
  refine (List.perm_ext_iff_of_nodup ?_ (nodup_registrationsOf (hk.apply ht) event)).mpr fun r => ?_
  · refine List.nodup_append'.mpr ⟨(ht.nodup_map_values.of_map).filter _,
      (nodup_registrationsOf hk event).filter _, fun r hr hr' => ?_⟩
    simp only [List.mem_filter, ht.mem_values, decide_eq_true_eq] at hr hr'
    simp [hr.1, hr.2] at hr'
  · rw [mem_overlay hk ht, mem_registrationsOf (hk.apply ht), get?_apply, Option.or_eq_some_iff]
    cases hs : tx.registrations.get? r.id with
    | none => simp [and_comm]
    | some staged =>
      have hold := he r.id staged r hs
      constructor
      · rintro ⟨hev, hr | ⟨hr, hne⟩⟩
        · exact ⟨.inl hr, hev⟩
        · exact absurd ((hold hr).symm.trans hev) (hne staged rfl)
      · rintro ⟨hr | ⟨hn, -⟩, hev⟩
        · exact ⟨hev, .inl hr⟩
        · simp at hn

theorem confirmed_overlay (event : EventId) : tx.confirmed s event ~ (s.apply tx).seated event :=
  (registrationsOf_overlay hk ht he event).filter _

theorem waitlist_overlay {q : List Registration} (hp : q ~ (s.apply tx).waiting event)
    (hq : q.Pairwise fun a b => Tx.place a < Tx.place b) : tx.waitlist s event = q :=
  mergeSort_place_eq (hp.trans ((registrationsOf_overlay hk ht he event).filter _).symm) hq

theorem countConfirmed_overlay (event : EventId) (h : ((s.apply tx).seated event).length < UInt32.size) :
    tx.countConfirmed s event = .ok (.ofNat ((s.apply tx).seated event).length) := by
  have hl := (confirmed_overlay hk ht he event).length_eq
  simp [Tx.countConfirmed, hl, h]

end

end Store
end Turnstile
