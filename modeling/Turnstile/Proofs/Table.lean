import Turnstile.Table
import Mathlib.Data.List.Nodup

/-! Laws of tables: what is found after a write, and writing one table over another. -/

namespace Turnstile.Table

variable {κ α : Type}

theorem ext_entries {t u : Table κ α} (h : t.entries = u.entries) : t = u := by
  cases t
  cases u
  simpa using h

theorem mem_values_iff_exists {t : Table κ α} {a : α} : a ∈ t.values ↔ ∃ k, (k, a) ∈ t.entries := by
  simp [values]

theorem size_eq_length_keys (t : Table κ α) : t.size = t.keys.length := (List.length_map _).symm

@[simp] theorem values_empty : (empty : Table κ α).values = [] := rfl

variable [DecidableEq κ]

@[simp] theorem get?_empty (k : κ) : (empty : Table κ α).get? k = none := rfl

@[simp] theorem entries_insert (t : Table κ α) (k : κ) (a : α) :
    (t.insert k a).entries = write k a t.entries := rfl

theorem lookup_cons_of_ne {j k : κ} (b : α) (rest : List (κ × α)) (h : k ≠ j) :
    ((j, b) :: rest).lookup k = rest.lookup k := by
  simp [List.lookup_cons, beq_false_of_ne h]

private theorem lookup_write (k k' : κ) (a : α) (entries : List (κ × α)) :
    (write k a entries).lookup k' = if k' = k then some a else entries.lookup k' := by
  induction entries with
  | nil =>
    by_cases h : k' = k
    · simp [write, h]
    · simp [write, h, lookup_cons_of_ne]
  | cons e rest ih =>
    obtain ⟨j, b⟩ := e
    by_cases hj : j = k
    · subst hj
      by_cases h : k' = j
      · simp [write, h]
      · simp [write, h, lookup_cons_of_ne]
    · by_cases h : k' = j
      · subst h
        simp [write, hj]
      · simp [write, hj, lookup_cons_of_ne _ _ h, ih]

theorem get?_insert (t : Table κ α) (k k' : κ) (a : α) :
    (t.insert k a).get? k' = if k' = k then some a else t.get? k' :=
  lookup_write k k' a t.entries

@[simp] theorem get?_insert_self (t : Table κ α) (k : κ) (a : α) : (t.insert k a).get? k = some a := by
  simp [get?_insert]

theorem get?_insert_of_ne (t : Table κ α) {k k' : κ} (a : α) (h : k' ≠ k) :
    (t.insert k a).get? k' = t.get? k' := by simp [get?_insert, h]

private theorem lookup_eq_some_iff {entries : List (κ × α)} (h : (entries.map Prod.fst).Nodup) {k : κ}
    {a : α} : entries.lookup k = some a ↔ (k, a) ∈ entries := by
  induction entries with
  | nil => simp
  | cons e rest ih =>
    obtain ⟨j, b⟩ := e
    simp only [List.map_cons, List.nodup_cons] at h
    by_cases hk : k = j
    · subst hk
      have hn : (k, a) ∉ rest := fun hm => h.1 (List.mem_map_of_mem (f := Prod.fst) hm)
      simp [hn, eq_comm]
    · simp [lookup_cons_of_ne _ _ hk, hk, ih h.2]

theorem get?_eq_some_iff {t : Table κ α} {k : κ} {a : α} : t.get? k = some a ↔ (k, a) ∈ t.entries :=
  lookup_eq_some_iff t.keys_nodup

theorem mem_values {t : Table κ α} {a : α} : a ∈ t.values ↔ ∃ k, t.get? k = some a := by
  simp only [mem_values_iff_exists, get?_eq_some_iff]

/-! Two writes. -/

private theorem write_write_same (k : κ) (a b : α) (entries : List (κ × α)) :
    write k b (write k a entries) = write k b entries := by
  induction entries with
  | nil => simp [write]
  | cons e rest ih =>
    obtain ⟨j, c⟩ := e
    by_cases hj : j = k <;> simp [write, hj, ih]

private theorem write_write_comm {j k : κ} (hjk : j ≠ k) (a b : α) {entries : List (κ × α)}
    (hk : k ∈ entries.map Prod.fst) :
    write k a (write j b entries) = write j b (write k a entries) := by
  induction entries with
  | nil => simp at hk
  | cons e rest ih =>
    obtain ⟨i, c⟩ := e
    by_cases hij : i = j
    · subst hij
      simp [write, hjk]
    · by_cases hik : i = k
      · subst hik
        simp [write, hij]
      · have hr : k ∈ rest.map Prod.fst := by simpa [Ne.symm hik] using hk
        simp [write, hij, hik, ih hr]

/-- The last of two writes under one key stands. -/
theorem insert_insert_same (t : Table κ α) (k : κ) (a b : α) :
    (t.insert k a).insert k b = t.insert k b :=
  ext_entries (write_write_same k a b t.entries)

/-- A write over an entry may change places with a write under another key. -/
theorem insert_comm_of_contains {t : Table κ α} {j k : κ} (hjk : j ≠ k) (a b : α) (hk : k ∈ t.keys) :
    (t.insert j b).insert k a = (t.insert k a).insert j b :=
  ext_entries (write_write_comm hjk a b hk)

theorem mem_keys_insert {t : Table κ α} {k x : κ} {a : α} :
    x ∈ (t.insert k a).keys ↔ x = k ∨ x ∈ t.keys := mem_keys_write k a x t.entries

private theorem write_eq_self {k : κ} {a : α} {entries : List (κ × α)} (h : entries.lookup k = some a) :
    write k a entries = entries := by
  induction entries with
  | nil => simp at h
  | cons e rest ih =>
    obtain ⟨j, b⟩ := e
    by_cases hj : j = k
    · subst hj
      simp_all [write]
    · rw [lookup_cons_of_ne _ _ (Ne.symm hj)] at h
      rw [write, if_neg hj, ih h]

theorem insert_eq_self {t : Table κ α} {k : κ} {a : α} (h : t.get? k = some a) : t.insert k a = t :=
  ext_entries (write_eq_self h)

/-! Writing a whole table over another. -/

private theorem write_of_notMem {k : κ} (a : α) {entries : List (κ × α)} (h : k ∉ entries.map Prod.fst) :
    write k a entries = entries ++ [(k, a)] := by
  induction entries with
  | nil => rfl
  | cons e rest ih =>
    simp only [List.map_cons, List.mem_cons, not_or] at h
    rw [write, if_neg (Ne.symm h.1), ih h.2, List.cons_append]

private theorem write_of_mem {k : κ} (a : α) {entries : List (κ × α)} (hn : (entries.map Prod.fst).Nodup)
    (h : k ∈ entries.map Prod.fst) :
    write k a entries = entries.map fun e => if e.1 = k then (k, a) else e := by
  induction entries with
  | nil => simp at h
  | cons e rest ih =>
    simp only [List.map_cons, List.nodup_cons] at hn
    by_cases hk : e.1 = k
    · subst hk
      have hrest : rest.map (fun x => if x.1 = e.1 then (e.1, a) else x) = rest := by
        refine (List.map_congr_left fun x hx => if_neg fun hx' => hn.1 ?_).trans (List.map_id rest)
        exact hx' ▸ List.mem_map_of_mem hx
      rw [write, if_pos rfl, List.map_cons, if_pos rfl, hrest]
    · rw [write, if_neg hk, List.map_cons, if_neg hk, ih hn.2]
      simpa [Ne.symm hk] using h

theorem mem_keys_iff {t : Table κ α} {k : κ} : k ∈ t.keys ↔ (t.get? k).isSome := by
  rw [Option.isSome_iff_exists]
  simp only [get?_eq_some_iff, keys, List.mem_map]
  constructor
  · rintro ⟨⟨_, a⟩, h, rfl⟩
    exact ⟨a, h⟩
  · rintro ⟨a, h⟩
    exact ⟨_, h, rfl⟩

theorem entries_insert_new {t : Table κ α} {k : κ} (h : t.get? k = none) (a : α) :
    (t.insert k a).entries = t.entries ++ [(k, a)] :=
  write_of_notMem a fun hk => by simpa [h] using mem_keys_iff.mp hk

theorem entries_insert_stored {t : Table κ α} {k : κ} (h : (t.get? k).isSome) (a : α) :
    (t.insert k a).entries = t.entries.map fun e => if e.1 = k then (k, a) else e :=
  write_of_mem a t.keys_nodup (mem_keys_iff.mpr h)

theorem keys_insert_new {t : Table κ α} {k : κ} (h : t.get? k = none) (a : α) : (t.insert k a).keys = t.keys ++ [k] := by
  rw [keys, entries_insert_new h, List.map_append]
  rfl

theorem keys_insert_stored {t : Table κ α} {k : κ} (h : (t.get? k).isSome) (a : α) :
    (t.insert k a).keys = t.keys := by
  rw [keys, entries_insert_stored h, List.map_map]
  refine List.map_congr_left fun entry _ => ?_
  rw [Function.comp_apply]
  split
  · next hk => exact hk.symm
  · rfl

/-- Keys stay in the order in which they were first written. -/
theorem keys_prefix_insert (t : Table κ α) (k : κ) (a : α) : t.keys <+: (t.insert k a).keys := by
  cases h : t.get? k with
  | none =>
    rw [keys_insert_new h]
    exact List.prefix_append _ _
  | some b =>
    have he : (t.insert k a).keys = t.keys := keys_insert_stored (by rw [h]; rfl) a
    exact he ▸ List.prefix_rfl

private theorem foldl_insert_comm {k : κ} (a : α) (rest : List (κ × α)) (hk : k ∉ rest.map Prod.fst)
    (t : Table κ α) (ht : k ∈ t.keys) :
    (rest.foldl (fun t e => t.insert e.1 e.2) t).insert k a =
      rest.foldl (fun t e => t.insert e.1 e.2) (t.insert k a) := by
  induction rest generalizing t with
  | nil => rfl
  | cons e rest ih =>
    obtain ⟨j, b⟩ := e
    simp only [List.map_cons, List.mem_cons, not_or] at hk
    simp only [List.foldl_cons]
    rw [ih hk.2 (t.insert j b) (mem_keys_insert.mpr (.inr ht)),
      insert_comm_of_contains (Ne.symm hk.1) a b ht]

private theorem foldl_insert_write (k : κ) (a : α) (entries : List (κ × α))
    (h : (entries.map Prod.fst).Nodup) (t : Table κ α) :
    (write k a entries).foldl (fun t e => t.insert e.1 e.2) t =
      (entries.foldl (fun t e => t.insert e.1 e.2) t).insert k a := by
  induction entries generalizing t with
  | nil => rfl
  | cons e rest ih =>
    obtain ⟨j, b⟩ := e
    simp only [List.map_cons, List.nodup_cons] at h
    by_cases hj : j = k
    · subst hj
      simp only [write, if_true, List.foldl_cons]
      rw [foldl_insert_comm a rest h.1 _ (mem_keys_insert.mpr (.inl rfl)), insert_insert_same]
    · simp only [write, hj, if_false, List.foldl_cons]
      exact ih h.2 _

@[simp] theorem union_empty (t : Table κ α) : t.union empty = t := rfl

/-- Writing under a key first and everything over the old table afterwards is the same as writing
everything else first. -/
theorem union_insert (t u : Table κ α) (k : κ) (a : α) : t.union (u.insert k a) = (t.union u).insert k a :=
  foldl_insert_write k a u.entries u.keys_nodup t

private theorem get?_foldl_insert (entries : List (κ × α)) (h : (entries.map Prod.fst).Nodup)
    (t : Table κ α) (k : κ) :
    (entries.foldl (fun t e => t.insert e.1 e.2) t).get? k = (entries.lookup k).or (t.get? k) := by
  induction entries generalizing t with
  | nil => simp
  | cons e rest ih =>
    obtain ⟨j, b⟩ := e
    simp only [List.map_cons, List.nodup_cons] at h
    rw [List.foldl_cons, ih h.2, get?_insert]
    by_cases hk : k = j
    · subst hk
      have hn : rest.lookup k = none := by
        rw [List.lookup_eq_none_iff]
        intro p hp
        have hkp : k ≠ p.1 := fun he => h.1 (by rw [he]; exact List.mem_map_of_mem hp)
        simpa using hkp
      simp [hn]
    · simp [hk, lookup_cons_of_ne _ _ hk]

theorem get?_union (t u : Table κ α) (k : κ) : (t.union u).get? k = (u.get? k).or (t.get? k) :=
  get?_foldl_insert u.entries u.keys_nodup t k

theorem get?_adjust (t : Table κ α) (k k' : κ) (f : α → α) :
    (t.adjust k f).get? k' = if k' = k then (t.get? k).map f else t.get? k' := by
  unfold adjust
  cases h : t.get? k with
  | none => by_cases hk : k' = k <;> simp [hk, h]
  | some a => simp [get?_insert]

theorem adjust_of_none {t : Table κ α} {k : κ} (h : t.get? k = none) (f : α → α) : t.adjust k f = t := by
  rw [adjust, h]

theorem adjust_of_some {t : Table κ α} {k : κ} {a : α} (h : t.get? k = some a) (f : α → α) :
    t.adjust k f = t.insert k (f a) := by
  rw [adjust, h]

/-- The last of two changes under one key stands if it asks for nothing that the first one did. -/
theorem adjust_adjust_same (t : Table κ α) (k : κ) {f g : α → α} (h : ∀ a, g (f a) = g a) :
    (t.adjust k f).adjust k g = t.adjust k g := by
  cases ha : t.get? k with
  | none => rw [adjust_of_none ha]
  | some a =>
    rw [adjust_of_some ha, adjust_of_some ha, adjust_of_some (get?_insert_self t k (f a)), insert_insert_same, h]

theorem adjust_comm (t : Table κ α) {j k : κ} (hjk : j ≠ k) (f g : α → α) :
    (t.adjust j f).adjust k g = (t.adjust k g).adjust j f := by
  have hk' : (t.adjust j f).get? k = t.get? k := by rw [get?_adjust, if_neg hjk.symm]
  have hj' : (t.adjust k g).get? j = t.get? j := by rw [get?_adjust, if_neg hjk]
  cases hj : t.get? j with
  | none => rw [adjust_of_none hj, adjust_of_none (hj'.trans hj)]
  | some a =>
    cases hk : t.get? k with
    | none => rw [adjust_of_none hk, adjust_of_none (hk'.trans hk)]
    | some b =>
      rw [adjust_of_some (hk'.trans hk), adjust_of_some (hj'.trans hj), adjust_of_some hj, adjust_of_some hk]
      exact insert_comm_of_contains hjk (g b) (f a) (mem_keys_iff.mpr (by rw [hk]; rfl))

theorem keys_erase (t : Table κ α) (k : κ) : (t.erase k).keys = t.keys.erase k := by
  have hn : t.keys.Nodup := t.keys_nodup
  rw [hn.erase_eq_filter, keys, keys, erase, List.filter_map]
  congr 1
  refine List.filter_congr fun entry _ => ?_
  by_cases h : entry.1 = k <;> simp [h]

theorem get?_erase_of_ne (t : Table κ α) {j k : κ} (h : j ≠ k) : (t.erase k).get? j = t.get? j := by
  refine Option.ext fun a => ?_
  rw [get?_eq_some_iff, get?_eq_some_iff, erase, List.mem_filter]
  simp [h]

theorem notMem_keys {t : Table κ α} {k : κ} : k ∉ t.keys ↔ t.get? k = none := by
  rw [mem_keys_iff, Bool.not_eq_true, Option.isSome_eq_false_iff, Option.isNone_iff_eq_none]

/-! Tables whose values carry their own keys. -/

/-- Every value is stored under the key that it carries. -/
def KeyedBy (key : α → κ) (t : Table κ α) : Prop := ∀ k a, t.get? k = some a → key a = k

namespace KeyedBy
variable {key : α → κ} {t u : Table κ α}

theorem empty : (empty : Table κ α).KeyedBy key := by
  intro k a h
  simp at h

theorem insert (h : t.KeyedBy key) (a : α) : (t.insert (key a) a).KeyedBy key := by
  intro k b hb
  rw [get?_insert] at hb
  split at hb
  · simp_all
  · exact h k b hb

theorem adjust (h : t.KeyedBy key) (k : κ) {f : α → α} (hf : ∀ a, key (f a) = key a) :
    (t.adjust k f).KeyedBy key := by
  intro k' b hb
  rw [get?_adjust] at hb
  split at hb
  · obtain ⟨a, ha, rfl⟩ := Option.map_eq_some_iff.mp hb
    rw [hf, h k a ha]
    simp_all
  · exact h k' b hb

theorem mem_values (h : t.KeyedBy key) {a : α} : a ∈ t.values ↔ t.get? (key a) = some a := by
  rw [Table.mem_values]
  constructor
  · rintro ⟨k, hk⟩
    rwa [h k a hk]
  · exact fun ha => ⟨_, ha⟩

theorem nodup_map_values (h : t.KeyedBy key) : (t.values.map key).Nodup := by
  have he : t.values.map key = t.keys := by
    simp only [values, keys, List.map_map]
    refine List.map_congr_left fun e he => ?_
    exact h e.1 e.2 (get?_eq_some_iff.mpr he)
  rw [he]
  exact t.keys_nodup

end KeyedBy

private theorem filter_write (p : α → Bool) {k : κ} {a : α} (ha : p a = false) {entries : List (κ × α)}
    (h : ∀ b, entries.lookup k = some b → p b = false) :
    ((write k a entries).map Prod.snd).filter p = (entries.map Prod.snd).filter p := by
  induction entries with
  | nil => simp [write, ha]
  | cons e rest ih =>
    obtain ⟨j, b⟩ := e
    by_cases hj : j = k
    · subst hj
      have hb : p b = false := h b (by simp)
      simp [write, ha, hb]
    · have hr := ih fun c hc => h c (by rwa [lookup_cons_of_ne _ _ (Ne.symm hj)])
      simp only [write, hj, if_false, List.map_cons, List.filter_cons]
      rw [hr]

/-- A write leaves the values of a kind alone when neither the new nor the old one is of that kind. -/
theorem filter_values_insert (t : Table κ α) (p : α → Bool) {k : κ} {a : α} (ha : p a = false)
    (h : ∀ b, t.get? k = some b → p b = false) :
    (t.insert k a).values.filter p = t.values.filter p :=
  filter_write p ha h

private theorem countP_write (p : α → Bool) {k : κ} (a : α) {entries : List (κ × α)}
    (h : ∀ b, entries.lookup k = some b → p b = false) :
    ((write k a entries).map Prod.snd).countP p = (entries.map Prod.snd).countP p + if p a then 1 else 0 := by
  induction entries with
  | nil => simp [write, List.countP_cons]
  | cons e rest ih =>
    obtain ⟨j, b⟩ := e
    by_cases hj : j = k
    · subst hj
      have hb : p b = false := h b (by simp)
      simp [write, List.countP_cons, hb]
    · have hr := ih fun c hc => h c (by rwa [lookup_cons_of_ne _ _ (Ne.symm hj)])
      simp only [write, hj, if_false, List.map_cons, List.countP_cons]
      rw [hr, Nat.add_right_comm]

/-- A write over nothing of a kind adds the new value to its kind. -/
theorem countP_values_insert (t : Table κ α) (p : α → Bool) {k : κ} (a : α)
    (h : ∀ b, t.get? k = some b → p b = false) :
    (t.insert k a).values.countP p = t.values.countP p + if p a then 1 else 0 :=
  countP_write p a h

end Turnstile.Table
