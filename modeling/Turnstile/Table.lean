/-!
Finite tables with one entry per key, in the order in which the keys were first written.
-/

namespace Turnstile

structure Table (κ α : Type) where
  entries : List (κ × α)
  keys_nodup : (entries.map Prod.fst).Nodup

namespace Table
variable {κ α : Type}

def empty : Table κ α := ⟨[], .nil⟩

instance : Inhabited (Table κ α) := ⟨empty⟩

def keys (t : Table κ α) : List κ := t.entries.map Prod.fst

def values (t : Table κ α) : List α := t.entries.map Prod.snd

def size (t : Table κ α) : Nat := t.entries.length

variable [DecidableEq κ]

def get? (t : Table κ α) (k : κ) : Option α := t.entries.lookup k

def contains (t : Table κ α) (k : κ) : Bool := (t.get? k).isSome

def write (k : κ) (a : α) : List (κ × α) → List (κ × α)
  | [] => [(k, a)]
  | (k', a') :: rest => if k' = k then (k, a) :: rest else (k', a') :: write k a rest

theorem mem_keys_write (k : κ) (a : α) (x : κ) (entries : List (κ × α)) :
    x ∈ (write k a entries).map Prod.fst ↔ x = k ∨ x ∈ entries.map Prod.fst := by
  induction entries with
  | nil => simp [write]
  | cons e rest ih =>
    obtain ⟨k', a'⟩ := e
    by_cases h : k' = k
    · simp [write, h]
    · simp only [write, h, if_false, List.map_cons, List.mem_cons, ih]
      constructor <;> rintro (h | h | h) <;> simp_all

theorem nodup_write (k : κ) (a : α) (entries : List (κ × α)) (h : (entries.map Prod.fst).Nodup) :
    ((write k a entries).map Prod.fst).Nodup := by
  induction entries with
  | nil => simp [write]
  | cons e rest ih =>
    obtain ⟨k', a'⟩ := e
    simp only [List.map_cons, List.nodup_cons] at h
    by_cases hk : k' = k
    · subst hk; simpa [write] using h
    · rw [write, if_neg hk, List.map_cons, List.nodup_cons, mem_keys_write, not_or]
      exact ⟨⟨hk, h.1⟩, ih h.2⟩

/-- Writes an entry over the one with its key, or after all others. -/
def insert (t : Table κ α) (k : κ) (a : α) : Table κ α :=
  ⟨write k a t.entries, nodup_write k a t.entries t.keys_nodup⟩

/-- Writes every entry of `other` over this table. -/
def union (t other : Table κ α) : Table κ α := other.entries.foldl (fun t e => t.insert e.1 e.2) t

/-- Changes the value under a key, if there is one. -/
def adjust (t : Table κ α) (k : κ) (f : α → α) : Table κ α :=
  match t.get? k with
  | some a => t.insert k (f a)
  | none => t

def erase (t : Table κ α) (k : κ) : Table κ α :=
  ⟨t.entries.filter fun e => e.1 ≠ k, (t.keys_nodup.sublist (List.filter_sublist.map _))⟩

def ofList (entries : List (κ × α)) : Table κ α := entries.foldl (fun t e => t.insert e.1 e.2) empty

end Table
end Turnstile
