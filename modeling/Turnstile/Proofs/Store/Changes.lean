import Turnstile.Proofs.Store.Rows

/-!
The events that a change of the registrations calls for, read off what was stored before and what is stored now.
-/

namespace Turnstile
open scoped List

namespace RegistrationEvent

/-- What happened to a registration that was stored as `old?` and is stored as `r` now. -/
def between? (old? : Option Registration) (r : Registration) : Option RegistrationEvent :=
  match old?, r.status, r.position with
  | none, .confirmed, none => some (.confirmed r.subject r.createdAt)
  | none, .waitlisted, some place => some (.waitlisted r.subject place r.createdAt)
  | none, _, _ => none
  | some old, status, place =>
    match old.status, status with
    | .waitlisted, .confirmed => some (.promoted r.subject (old.position.getD 0) r.updatedAt)
    | .waitlisted, .waitlisted =>
      if old.position = place then none
      else some (.positionChanged r.subject (old.position.getD 0) (place.getD 0) r.updatedAt)
    | .confirmed, .cancelled | .waitlisted, .cancelled =>
      some (.cancelled r.subject old.status old.position r.updatedAt)
    | _, _ => none

/-- The events that tell of all registrations that are not as they were. -/
def changes (old new : Table RegistrationId Registration) : List RegistrationEvent :=
  new.entries.filterMap fun entry => between? (old.get? entry.1) entry.2

theorem between?_self (r : Registration) : between? (some r) r = none := by
  cases h : r.status <;> simp [between?, h]

theorem changes_self (t : Table RegistrationId Registration) : changes t t = [] := by
  refine List.filterMap_eq_nil_iff.mpr fun entry hentry => ?_
  rw [Table.get?_eq_some_iff.mpr hentry]
  exact between?_self entry.2

end RegistrationEvent

namespace Store
variable {s : Store}

/-- Rows that carry the events which their writing calls for. -/
structure Records (s : Store) (rows : List Tracked) : Prop where
  nodup : (rows.map fun t => t.registration.id).Nodup
  pending : ∀ t ∈ rows,
    t.pending = (RegistrationEvent.between? (s.registrations.get? t.registration.id) t.registration).toList

private theorem entries_puts_perm {rs : List Registration} (hn : (rs.map Registration.id).Nodup) :
    (s.puts rs).registrations.entries ~
      rs.map (fun r => (r.id, r)) ++ s.registrations.entries.filter fun entry => entry.1 ∉ rs.map Registration.id := by
  refine (List.perm_ext_iff_of_nodup (List.Nodup.of_map _ (s.puts rs).registrations.keys_nodup) ?_).mpr ?_
  · refine List.nodup_append'.mpr ⟨(hn.of_map).map fun _ _ h => (Prod.mk.inj h).2,
      (List.Nodup.of_map _ s.registrations.keys_nodup).filter _, fun entry hin hrest => ?_⟩
    obtain ⟨r, hr, rfl⟩ := List.mem_map.mp hin
    simp only [List.mem_filter, decide_eq_true_eq] at hrest
    exact hrest.2 (List.mem_map_of_mem hr)
  · rintro ⟨id, r⟩
    simp only [List.mem_append, List.mem_map, List.mem_filter, decide_eq_true_eq, Prod.mk.injEq]
    rw [← Table.get?_eq_some_iff, ← Table.get?_eq_some_iff]
    by_cases hid : id ∈ rs.map Registration.id
    · obtain ⟨x, hx, rfl⟩ := List.mem_map.mp hid
      rw [get?_puts_of_mem hn hx]
      constructor
      · intro hr
        exact .inl ⟨x, hx, rfl, Option.some.inj hr⟩
      · rintro (⟨y, hy, hyx, rfl⟩ | ⟨-, hout⟩)
        · rw [List.inj_on_of_nodup_map hn hy hx hyx]
        · exact absurd (List.mem_map.mp hid) hout
    · rw [get?_puts_of_notMem hid]
      constructor
      · exact fun h => .inr ⟨h, mt List.mem_map.mpr hid⟩
      · rintro (⟨x, hx, rfl, -⟩ | ⟨h, -⟩)
        · exact absurd (List.mem_map_of_mem hx) hid
        · exact h

/-- What was recorded is what the changed registrations tell. -/
theorem Records.changes {rows : List Tracked} (h : s.Records rows) :
    RegistrationEvent.changes s.registrations (s.puts (rows.map Tracked.registration)).registrations ~
      rows.flatMap Tracked.pending := by
  have hn : ((rows.map Tracked.registration).map Registration.id).Nodup := by
    rw [List.map_map]
    exact h.nodup
  have hrest : (s.registrations.entries.filter fun entry =>
      entry.1 ∉ (rows.map Tracked.registration).map Registration.id).filterMap
        (fun entry => RegistrationEvent.between? (s.registrations.get? entry.1) entry.2) = [] := by
    refine List.filterMap_eq_nil_iff.mpr fun entry hentry => ?_
    rw [Table.get?_eq_some_iff.mpr (List.mem_filter.mp hentry).1]
    exact RegistrationEvent.between?_self entry.2
  refine ((entries_puts_perm hn).filterMap _).trans (List.Perm.of_eq ?_)
  rw [List.filterMap_append, hrest, List.append_nil, List.map_map, List.filterMap_map]
  refine (List.filterMap_eq_flatMap_toList _ _).trans (List.flatMap_congr fun t ht => ?_)
  exact (h.pending t ht).symm

end Store
end Turnstile
