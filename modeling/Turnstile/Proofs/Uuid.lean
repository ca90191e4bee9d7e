import Turnstile.Id
import Mathlib.Tactic.Ring

/-! Identifiers are read back from what is printed of them. -/

namespace Turnstile
namespace Numeral

theorem digit?_digitChar : ∀ base ≤ 16, ∀ d < base, digit? base (Nat.digitChar d) = some d := by
  decide +kernel

private theorem foldlM_padded {base : Nat} (hpos : 0 < base) (hle : base ≤ 16) (width m n : Nat) :
    (padded base width n).foldlM (fun n c => (digit? base c).map (n * base + ·)) m =
      some (m * base ^ width + n % base ^ width) := by
  induction width generalizing n with
  | zero => simp [padded, Nat.mod_one]
  | succ width ih =>
    have hsplit : n % base ^ (width + 1) = n % base + base * (n / base % base ^ width) := by
      rw [Nat.pow_succ', Nat.mod_mul]
    rw [padded, List.foldlM_append, ih, hsplit]
    simp only [Option.bind_eq_bind, Option.bind_some, List.foldlM_cons, List.foldlM_nil,
      digit?_digitChar base hle _ (Nat.mod_lt n hpos), Option.map_some, Option.pure_def]
    congr 1
    ring

/-- A numeral that is wide enough is read back. -/
theorem value?_padded {base width n : Nat} (hle : base ≤ 16) (hn : n < base ^ width) :
    value? base (padded base width n) = some n := by
  rcases Nat.eq_zero_or_pos base with rfl | hpos
  · cases width with
    | zero =>
      obtain rfl : n = 0 := by simpa using hn
      rfl
    | succ width => simp at hn
  · rw [value?, foldlM_padded hpos hle, Nat.mod_eq_of_lt hn, Nat.zero_mul, Nat.zero_add]

end Numeral

namespace Uuid

theorem length_digits (u : Uuid) : u.digits.length = 32 := by
  simp [digits, Numeral.length_padded]

theorem ofDigits?_digits (u : Uuid) : ofDigits? u.digits = some u := by
  have hhigh := @Numeral.value?_padded 16 16 _ (by decide) u.high.toNat_lt
  have hlow := @Numeral.value?_padded 16 16 _ (by decide) u.low.toNat_lt
  have htake : u.digits.take 16 = Numeral.padded 16 16 u.high.toNat := by
    rw [digits, List.take_left' (Numeral.length_padded 16 16 _)]
  have hdrop : u.digits.drop 16 = Numeral.padded 16 16 u.low.toNat := by
    rw [digits, List.drop_left' (Numeral.length_padded 16 16 _)]
  simp [ofDigits?, htake, hdrop, hhigh, hlow, length_digits]

/-- The hyphens are taken out where they were put in. -/
theorem unhyphenate?_hyphenate {widths : List Nat} {digits : List Char} (h : widths.sum ≤ digits.length) :
    unhyphenate? widths (hyphenate widths digits) = some digits := by
  induction widths generalizing digits with
  | nil => rfl
  | cons width rest ih =>
    cases rest with
    | nil => rfl
    | cons width' rest =>
      rw [List.sum_cons] at h
      have hlen : (digits.take width).length = width := List.length_take_of_le (by omega)
      have hrest : (width' :: rest).sum ≤ (digits.drop width).length := by
        rw [List.length_drop]
        omega
      simp only [hyphenate, unhyphenate?]
      rw [List.drop_left' hlen, List.take_left' hlen]
      simp only [ih hrest, Option.map_some, List.take_append_drop]

theorem ofString?_hyphenated (u : Uuid) : ofString? u.hyphenated = some u := by
  have hlen : (hyphenate groups u.digits).length = 36 := by
    simp [hyphenate, groups, length_digits]
  have hsum : groups.sum ≤ u.digits.length := by
    rw [length_digits]
    decide
  rw [ofString?, hyphenated, String.toList_ofList, ofChars?, hlen, if_neg (by decide), if_pos rfl, ofHyphenated?,
    unhyphenate?_hyphenate hsum, Option.bind_some, ofDigits?_digits]

end Uuid

theorem Id.ofJson?_toJson {kind : IdKind} (i : Id kind) : Id.ofJson? i.toJson = some i := by
  simp [Id.ofJson?, Id.toJson, Json.string?, Uuid.ofString?_hyphenated]

end Turnstile
