import Turnstile.Store
import Turnstile.Proofs.Table

/-! The registrations of one event: those that hold a seat, those that wait, and what a write does to them. -/

namespace Turnstile.Store
open scoped List

def seated (s : Store) (event : EventId) : List Registration :=
  (s.registrationsOf event).filter Registration.isConfirmed

/-- Who waits, in no particular order. -/
def waiting (s : Store) (event : EventId) : List Registration :=
  (s.registrationsOf event).filter Registration.isWaitlisted

def active (s : Store) (event : EventId) : List Registration :=
  (s.registrationsOf event).filter Registration.isActive

/-- Who waits, lowest place first. -/
def queue (s : Store) (event : EventId) : List Registration :=
  (s.waiting event).mergeSort fun a b => Tx.place a ≤ Tx.place b

def put (s : Store) (r : Registration) : Store :=
  { s with registrations := s.registrations.insert r.id r }

def puts (s : Store) (rs : List Registration) : Store := rs.foldl put s

/-- Registrations are stored under their own identifiers. -/
def Keyed (s : Store) : Prop := s.registrations.KeyedBy Registration.id

variable {s : Store} {event : EventId} {r : Registration} {rs : List Registration}

@[simp] theorem puts_nil : s.puts [] = s := rfl

@[simp] theorem puts_cons : s.puts (r :: rs) = (s.put r).puts rs := rfl

theorem puts_append (rs' : List Registration) : s.puts (rs ++ rs') = (s.puts rs).puts rs' := by
  simp [puts]

@[simp] theorem put_registrations : (s.put r).registrations = s.registrations.insert r.id r := rfl

@[simp] theorem put_events : (s.put r).events = s.events := rfl

@[simp] theorem puts_events : (s.puts rs).events = s.events := by
  induction rs generalizing s with
  | nil => rfl
  | cons r rs ih => rw [puts_cons, ih, put_events]

@[simp] theorem puts_locked : (s.puts rs).locked = s.locked := by
  induction rs generalizing s with
  | nil => rfl
  | cons r rs ih => exact ih

@[simp] theorem puts_failOnCommit : (s.puts rs).failOnCommit = s.failOnCommit := by
  induction rs generalizing s with
  | nil => rfl
  | cons r rs ih => exact ih

theorem puts_registrations :
    (s.puts rs).registrations = rs.foldl (fun t r => t.insert r.id r) s.registrations := by
  induction rs generalizing s with
  | nil => rfl
  | cons r rs ih => exact ih

theorem Keyed.put (h : s.Keyed) : (s.put r).Keyed := h.insert r

theorem Keyed.puts (h : s.Keyed) : (s.puts rs).Keyed := by
  induction rs generalizing s with
  | nil => exact h
  | cons r rs ih => exact ih h.put

theorem mem_registrationsOf (h : s.Keyed) :
    r ∈ s.registrationsOf event ↔ s.registrations.get? r.id = some r ∧ r.eventId = event := by
  simp [registrationsOf, h.mem_values]

theorem nodup_ids (h : s.Keyed) (event : EventId) :
    ((s.registrationsOf event).map Registration.id).Nodup :=
  h.nodup_map_values.sublist (List.filter_sublist.map _)

theorem nodup_registrationsOf (h : s.Keyed) (event : EventId) : (s.registrationsOf event).Nodup :=
  (s.nodup_ids h event).of_map

theorem get?_puts_of_notMem {id : RegistrationId} (h : id ∉ rs.map Registration.id) :
    (s.puts rs).registrations.get? id = s.registrations.get? id := by
  induction rs generalizing s with
  | nil => rfl
  | cons r rs ih =>
    simp only [List.map_cons, List.mem_cons, not_or] at h
    rw [puts_cons, ih h.2, put_registrations, Table.get?_insert_of_ne _ _ h.1]

theorem get?_puts_of_mem (hn : (rs.map Registration.id).Nodup) (hr : r ∈ rs) :
    (s.puts rs).registrations.get? r.id = some r := by
  induction rs generalizing s with
  | nil => simp at hr
  | cons x rs ih =>
    simp only [List.map_cons, List.nodup_cons] at hn
    rcases List.mem_cons.mp hr with rfl | hr
    · rw [puts_cons, get?_puts_of_notMem hn.1]
      simp
    · exact ih hn.2 hr

/-- No write takes a registration away. -/
theorem get?_puts_isSome {id : RegistrationId} (h : (s.registrations.get? id).isSome) :
    ((s.puts rs).registrations.get? id).isSome := by
  induction rs generalizing s with
  | nil => exact h
  | cons r rs ih =>
    refine ih ?_
    rw [put_registrations, Table.get?_insert]
    split
    · rfl
    · exact h

theorem mem_registrationsOf_puts (h : s.Keyed) (hn : (rs.map Registration.id).Nodup) :
    r ∈ (s.puts rs).registrationsOf event ↔
      r ∈ rs ∧ r.eventId = event ∨ r ∈ s.registrationsOf event ∧ r.id ∉ rs.map Registration.id := by
  rw [mem_registrationsOf h.puts, mem_registrationsOf h]
  by_cases hr : r.id ∈ rs.map Registration.id
  · obtain ⟨x, hx, he⟩ := List.mem_map.mp hr
    have hx' := get?_puts_of_mem (s := s) hn hx
    rw [he] at hx'
    constructor
    · rintro ⟨hg, hev⟩
      rw [hx'] at hg
      exact .inl ⟨Option.some.inj hg ▸ hx, hev⟩
    · rintro (⟨hm, hev⟩ | ⟨_, hm⟩)
      · exact ⟨get?_puts_of_mem hn hm, hev⟩
      · exact absurd hr hm
  · have hm : r ∉ rs := fun hm => hr (List.mem_map_of_mem hm)
    rw [get?_puts_of_notMem hr]
    simp [hm, hr]

/-- After some writes an event has the registrations written for it and those not written over. -/
theorem registrationsOf_puts_perm (h : s.Keyed) (hn : (rs.map Registration.id).Nodup) (event : EventId) :
    (s.puts rs).registrationsOf event ~
      (rs.filter fun r => r.eventId = event) ++
        (s.registrationsOf event).filter fun r => r.id ∉ rs.map Registration.id := by
  refine (List.perm_ext_iff_of_nodup (nodup_registrationsOf h.puts event) ?_).mpr fun r => ?_
  · refine List.nodup_append'.mpr ⟨hn.of_map.filter _, (nodup_registrationsOf h event).filter _, ?_⟩
    intro r hr hr'
    simp only [List.mem_filter, decide_eq_true_eq] at hr hr'
    exact hr'.2 (List.mem_map_of_mem hr.1)
  · rw [mem_registrationsOf_puts h hn]
    simp

theorem registrationsOf_put_of_ne {other : EventId} (hr : r.eventId ≠ other)
    (h : ∀ old, s.registrations.get? r.id = some old → old.eventId ≠ other) :
    (s.put r).registrationsOf other = s.registrationsOf other :=
  Table.filter_values_insert _ _ (by simpa using hr) (by simpa using h)

/-- Writes for one event over registrations of that event leave all other events alone. -/
theorem registrationsOf_puts_of_ne {other : EventId} (hne : event ≠ other)
    (hr : ∀ r ∈ rs, r.eventId = event)
    (h : ∀ r ∈ rs, ∀ old, s.registrations.get? r.id = some old → old.eventId = event) :
    (s.puts rs).registrationsOf other = s.registrationsOf other := by
  induction rs generalizing s with
  | nil => rfl
  | cons x rs ih =>
    simp only [List.forall_mem_cons] at hr h
    rw [puts_cons, ih hr.2, registrationsOf_put_of_ne (by simpa [hr.1] using hne)]
    · intro old hold
      simpa [h.1 old hold] using hne
    · intro r hm old hold
      rw [put_registrations, Table.get?_insert] at hold
      split at hold
      · cases hold
        exact hr.1
      · exact h.2 r hm old hold

end Turnstile.Store
