import Turnstile.Instant.Text
import Turnstile.Proofs.Calendar
import Turnstile.Proofs.Uuid

/-!
Every instant is read back from what is written of it, but for a leap second within a minute, which is written as
the second after it.
-/

namespace Turnstile

namespace Numeral

theorem isDigit_padded {width n : Nat} : ∀ c ∈ padded 10 width n, c.isDigit = true := by
  have hdigit : ∀ d < 10, (Nat.digitChar d).isDigit = true := by decide
  induction width generalizing n with
  | zero => simp [padded]
  | succ width ih =>
    intro c hc
    rw [padded, List.mem_append, List.mem_singleton] at hc
    rcases hc with hc | rfl
    · exact ih c hc
    · exact hdigit _ (Nat.mod_lt n (by decide))

theorem exists_padded {width : Nat} (hpos : 0 < width) (n : Nat) :
    ∃ c text, padded 10 width n = c :: text ∧ c.isDigit = true := by
  have hlen := length_padded 10 width n
  cases h : padded 10 width n with
  | nil =>
    rw [h, List.length_nil] at hlen
    omega
  | cons c text => exact ⟨c, text, rfl, isDigit_padded c (h ▸ List.mem_cons_self)⟩

end Numeral

namespace Instant
namespace Reader
variable {rest : List Char}

theorem isBlank_of_isDigit {c : Char} (h : c.isDigit = true) : Text.isBlank c = false := by
  simp only [Char.isDigit, Bool.and_eq_true, decide_eq_true_eq, ge_iff_le] at h
  have hlow : 48 ≤ c.toNat := h.1
  have hhigh : c.toNat ≤ 57 := h.2
  simp only [Text.isBlank, Text.blankRanges, List.any_cons, List.any_nil, Bool.or_eq_false_iff, Bool.and_eq_false_iff,
    decide_eq_false_iff_not, and_true]
  omega

theorem run_blanks {c : Char} (h : Text.isBlank c = false) : blanks.run (c :: rest) = some ((), c :: rest) := by
  have hdrop : (c :: rest).dropWhile Text.isBlank = c :: rest := by simp [h]
  change some ((), (c :: rest).dropWhile Text.isBlank) = _
  rw [hdrop]

theorem run_char {p : Char → Bool} {c : Char} (h : p c = true) : (char p).run (c :: rest) = some (c, rest) := by
  simp [char, h]

theorem run_discard {p : Char → Bool} {c : Char} (h : p c = true) :
    (discard (char p)).run (c :: rest) = some ((), rest) :=
  congrArg (fun r => r.bind fun p => some ((), p.2)) (run_char h)

theorem run_separator {c : Char} (h : Text.isBlank c = false) : (separator c).run (c :: rest) = some ((), rest) := by
  rw [separator, StateT.run_bind, run_blanks h]
  exact run_discard (by simp)

private theorem run_number_get (limit : Nat) (text : List Char) : (number limit).run text = (do
    guard ((text.take limit).takeWhile Char.isDigit ≠ [])
    set (text.drop ((text.take limit).takeWhile Char.isDigit).length)
    (Numeral.value? 10 ((text.take limit).takeWhile Char.isDigit) : Reader Nat)).run text := rfl

theorem run_digits {limit : Nat} {text digits : List Char}
    (h : (text.take limit).takeWhile Char.isDigit = digits) (hne : digits ≠ []) :
    (number limit).run text = (Numeral.value? 10 digits).map fun n => (n, text.drop digits.length) := by
  subst h
  have hguard : guard ((text.take limit).takeWhile Char.isDigit ≠ []) = (pure () : Reader Unit) := if_pos hne
  rw [run_number_get, hguard]
  cases Numeral.value? 10 ((text.take limit).takeWhile Char.isDigit) <;> rfl

theorem run_no_digits {limit : Nat} {text : List Char} (h : (text.take limit).takeWhile Char.isDigit = []) :
    (number limit).run text = none := by
  have hguard : guard ((text.take limit).takeWhile Char.isDigit ≠ []) = (failure : Reader Unit) :=
    if_neg (not_not_intro h)
  rw [run_number_get, hguard]
  rfl

/-- Digits are read up to the limit, or up to what is no digit. -/
theorem run_number {limit width n : Nat} (hpos : 0 < width) (hle : width ≤ limit) (hn : n < 10 ^ width)
    (hrest : width = limit ∨ ∀ c ∈ rest.head?, c.isDigit = false) :
    (number limit).run (Numeral.padded 10 width n ++ rest) = some (n, rest) := by
  have hlen := Numeral.length_padded 10 width n
  have hdigits : ((Numeral.padded 10 width n ++ rest).take limit).takeWhile Char.isDigit =
      Numeral.padded 10 width n := by
    rw [List.take_append, List.take_of_length_le (Nat.le_trans (Nat.le_of_eq hlen) hle), hlen,
      List.takeWhile_append_of_pos Numeral.isDigit_padded]
    refine (congrArg _ ?_).trans (List.append_nil _)
    rcases hrest with rfl | hrest
    · simp
    · cases rest with
      | nil => simp
      | cons c rest =>
        cases limit - width with
        | zero => rfl
        | succ k => simp [hrest c rfl]
  have hne : Numeral.padded 10 width n ≠ [] := by
    rw [← List.length_pos_iff, hlen]
    exact hpos
  rw [run_digits hdigits hne, Numeral.value?_padded (by decide) hn, List.drop_left]
  rfl

theorem run_part {low high n : Nat} (hlow : low ≤ n) (hhigh : n ≤ high) (hn : n < 100) (rest : List Char) :
    (part 2 low high).run (Numeral.padded 10 2 n ++ rest) = some (n, rest) := by
  have hblanks : blanks.run (Numeral.padded 10 2 n ++ rest) = some ((), Numeral.padded 10 2 n ++ rest) := by
    obtain ⟨c, text, heq, hc⟩ := Numeral.exists_padded (show 0 < 2 by decide) n
    rw [heq]
    exact run_blanks (isBlank_of_isDigit hc)
  have hnumber : (number 2).run (Numeral.padded 10 2 n ++ rest) = some (n, rest) :=
    run_number (by decide) (Nat.le_refl 2) hn (.inl rfl)
  rw [part, StateT.run_bind, hblanks]
  simp [hnumber, hlow, hhigh]

/-- A year is read up to the hyphen behind it. -/
theorem run_year {y : Int} (hy : y.natAbs < 1_000_000) (rest : List Char) :
    year.run (yearText y ++ '-' :: rest) = some (y, '-' :: rest) := by
  have hstop : ∀ c ∈ ('-' :: rest).head?, c.isDigit = false := by simp
  have hwidth : ∃ width, (if y.natAbs < 10_000 then 4 else if y.natAbs < 100_000 then 5 else 6) = width ∧ 0 < width ∧
      y.natAbs < 10 ^ width ∧ (width = 4 ↔ y.natAbs < 10_000) := by
    refine ⟨_, rfl, ?_⟩
    split
    · simp_all
    split <;> simp_all
  obtain ⟨width, heq, hpos, hlt, hfour⟩ := hwidth
  obtain ⟨c, text, hpad, hc⟩ := Numeral.exists_padded hpos y.natAbs
  have hnumber {limit : Nat} (hle : width ≤ limit) :
      (number limit).run (Numeral.padded 10 width y.natAbs ++ '-' :: rest) = some (y.natAbs, '-' :: rest) :=
    run_number hpos hle hlt (.inr hstop)
  simp only [yearText, heq, year]
  split
  · next hneg =>
    rw [List.cons_append, StateT.run_bind, run_blanks (by decide)]
    simp only [bind_pure_comp, StateT.run_bind, StateT.run_get, Option.pure_def, Option.bind_eq_bind, Option.bind_some,
      StateT.run_set, StateT.run_map, Option.map_eq_map, Option.map_eq_some_iff, Prod.mk.injEq, Prod.exists,
      exists_eq_right_right]
    exact ⟨_, hnumber (by simp [Numeral.length_padded]), by omega⟩
  split
  · next hnonneg hsmall =>
    have hfour := hnumber (Nat.le_of_eq (hfour.mpr hsmall))
    rw [hpad, List.cons_append] at hfour ⊢
    rw [StateT.run_bind, run_blanks (isBlank_of_isDigit hc)]
    simp only [bind_pure_comp, StateT.run_bind, StateT.run_get, Option.pure_def, Option.bind_eq_bind, Option.bind_some]
    split
    · next h => exact absurd ((List.cons.inj h).1 ▸ hc) (by decide)
    · next h => exact absurd ((List.cons.inj h).1 ▸ hc) (by decide)
    · simp [hfour]
      omega
  · next hnonneg hlarge =>
    rw [List.cons_append, StateT.run_bind, run_blanks (by decide)]
    simp only [bind_pure_comp, StateT.run_bind, StateT.run_get, Option.pure_def, Option.bind_eq_bind, Option.bind_some,
      StateT.run_set, StateT.run_map, Option.map_eq_map, Option.map_eq_some_iff, Prod.mk.injEq, Prod.exists,
      exists_eq_right_right]
    exact ⟨_, hnumber (by simp [Numeral.length_padded]), by omega⟩

theorem run_date {d : Date} (hv : d.Valid) (hmonth : d.month ≤ 12) (hday : d.day ≤ 31)
    (hyear : firstYear ≤ d.year ∧ d.year ≤ lastYear) (rest : List Char) :
    date.run (yearText d.year ++ '-' :: Numeral.padded 10 2 d.month ++ '-' :: Numeral.padded 10 2 d.day ++ rest) =
      some (d, rest) := by
  have hbound : d.year.natAbs < 1_000_000 := by
    simp only [firstYear, lastYear] at hyear
    omega
  have hy := run_year hbound (Numeral.padded 10 2 d.month ++ '-' :: (Numeral.padded 10 2 d.day ++ rest))
  have hm := run_part hv.1 hmonth (by omega) ('-' :: (Numeral.padded 10 2 d.day ++ rest))
  have hd := run_part hv.2.1 hday (by omega) rest
  have hsep {text : List Char} : (separator '-').run ('-' :: text) = some ((), text) := run_separator (by decide)
  simp only [List.append_assoc, List.cons_append] at hy hm ⊢
  simp [date, hy, hm, hd, hsep, hyear, hv]

/-- Missing digits of a fraction are zeros. -/
theorem run_fraction_padded {width n : Nat} (hpos : 0 < width) (hle : width ≤ 9) (hn : n < 10 ^ width) :
    Reader.fraction.run ('.' :: Numeral.padded 10 width n ++ ['Z']) = some (n * 10 ^ (9 - width), ['Z']) := by
  have hnumber : (number 9).run (Numeral.padded 10 width n ++ ['Z']) = some (n, ['Z']) :=
    run_number hpos hle hn (.inr (by simp))
  simp [Reader.fraction, hnumber, Numeral.length_padded]

theorem run_fraction {nano : Nat} (h : nano < 1_000_000_000) :
    Reader.fraction.run (Instant.fraction nano ++ ['Z']) = some (nano, ['Z']) := by
  rw [Instant.fraction]
  split
  · next hzero =>
    subst hzero
    rfl
  split
  · rw [run_fraction_padded (by decide) (by decide) (by omega)]
    congr 2
    omega
  split
  · rw [run_fraction_padded (by decide) (by decide) (by omega)]
    congr 2
    omega
  · rw [run_fraction_padded (by decide) (by decide) (by omega)]
    congr 2
    omega

theorem run_clock {hour minute second nano : Nat} (hh : hour ≤ 23) (hm : minute ≤ 59) (hs : second ≤ 60)
    (hn : nano < 1_000_000_000) :
    clock.run (Numeral.padded 10 2 hour ++ ':' :: Numeral.padded 10 2 minute ++ ':' :: Numeral.padded 10 2 second ++
        Instant.fraction nano ++ ['Z']) =
      some ((hour * 3600 + minute * 60 + min 59 second, nano + if second = 60 then 1_000_000_000 else 0), ['Z']) := by
  have hseconds := run_part (Nat.zero_le second) hs (by omega) (Instant.fraction nano ++ ['Z'])
  have hminutes := run_part (Nat.zero_le minute) hm (by omega)
    (':' :: (Numeral.padded 10 2 second ++ (Instant.fraction nano ++ ['Z'])))
  have hhours := run_part (Nat.zero_le hour) hh (by omega)
    (':' :: (Numeral.padded 10 2 minute ++ ':' :: (Numeral.padded 10 2 second ++ (Instant.fraction nano ++ ['Z']))))
  have hsep {text : List Char} : (separator ':').run (':' :: text) = some ((), text) := run_separator (by decide)
  simp only [List.append_assoc, List.cons_append]
  simp [clock, hhours, hminutes, hseconds, hsep, run_fraction hn]
  split
  · next h => simp [h]
  · next h => simp [Nat.min_eq_right (show second ≤ 59 by omega)]

theorem run_offset : offset.run ['Z'] = some (0, []) := rfl

end Reader

/-- What is read of an instant. A leap second within a minute is written as the second after it. -/
def asWritten (t : Instant) : Instant :=
  if h : t.IsLeap ∧ t.second % 60 ≠ 59 then
    { second := t.second + 1
      nano := t.nano - 1_000_000_000
      first_le := Int.le_trans t.first_le (Int.le_add_of_nonneg_right (by decide))
      le_last := by
        have hlast := t.le_last
        omega
      nano_lt := Nat.lt_of_le_of_lt (Nat.sub_le _ _) t.nano_lt }
  else t

theorem asWritten_eq {t : Instant} (h : t.IsLeap → t.second % 60 = 59) : t.asWritten = t := by
  rw [asWritten, dif_neg (by simpa using h)]

theorem of?_eq (t : Instant) : of? t.second t.nano = some t := by
  rw [of?, dif_pos ⟨⟨t.first_le, t.le_last⟩, t.nano_lt⟩]

private theorem of?_asWritten (t : Instant) :
    of? (t.second / 86400 * 86400 + ((t.second % 86400).toNat / 3600 * 3600 + (t.second % 86400).toNat / 60 % 60 * 60 +
        min 59 ((t.second % 86400).toNat % 60 + if t.IsLeap then 1 else 0) : Nat))
      (t.nano % 1_000_000_000 +
        if (t.second % 86400).toNat % 60 + (if t.IsLeap then 1 else 0) = 60 then 1_000_000_000 else 0) =
      some t.asWritten := by
  have hnano := t.nano_lt
  rw [← of?_eq t.asWritten]
  by_cases hleap : t.IsLeap
  · have hge : 1_000_000_000 ≤ t.nano := hleap
    rw [if_pos hleap]
    by_cases hlast : t.second % 60 = 59
    · rw [asWritten_eq fun _ => hlast, if_pos (by omega)]
      refine congrArg₂ of? ?_ ?_
      · omega
      · omega
    · rw [asWritten, dif_pos ⟨hleap, hlast⟩, if_neg (by omega)]
      refine congrArg₂ of? ?_ ?_
      · dsimp only
        omega
      · dsimp only
        omega
  · have hlt : t.nano < 1_000_000_000 := Nat.not_le.mp hleap
    rw [asWritten_eq fun h => absurd h hleap, if_neg hleap, if_neg (by omega)]
    refine congrArg₂ of? ?_ ?_
    · omega
    · omega

/-- What is written of an instant is read back. -/
theorem ofChars?_toChars (t : Instant) : ofChars? t.toChars = some t.asWritten := by
  have hlow := t.first_le
  have hhigh := t.le_last
  have hnano := t.nano_lt
  obtain ⟨hvalid, hdays, hyear, hmonth, hday⟩ := Date.ofDays_spec (t.second / 86400)
  have hyears := Date.year_bounds (n := t.second / 86400) (by omega) (by omega)
  have hclock := @Reader.run_clock ((t.second % 86400).toNat / 3600) ((t.second % 86400).toNat / 60 % 60)
    ((t.second % 86400).toNat % 60 + if t.IsLeap then 1 else 0) (t.nano % 1_000_000_000) (by omega) (by omega)
    (by split <;> omega) (by omega)
  have hdate := Reader.run_date hvalid hmonth hday hyears
  have hread := of?_asWritten t
  simp only [List.append_assoc, List.cons_append] at hclock hdate
  simp only [ofChars?, toChars, List.append_assoc, List.cons_append]
  have hT {text : List Char} : (discard (Reader.char fun c => c == 'T' || c == 't' || c == ' ')).run ('T' :: text) =
      some ((), text) := Reader.run_discard rfl
  have hblanks : Reader.blanks.run [] = some ((), []) := rfl
  simp only [Reader.instant, StateT.run_bind, hdate, hdays, hT, hclock, Reader.run_offset, hblanks, Int.sub_zero, hread,
    StateT.run_monadLift, monadLift_self, Option.bind_eq_bind, Option.bind_some, Option.pure_def]
  rfl

theorem ofJson?_toJson (t : Instant) : ofJson? t.toJson = some t.asWritten := by
  rw [ofJson?, toJson, Json.string?, Option.bind_some, ← ofChars?_toChars]
  exact congrArg ofChars? String.toList_ofList

end Instant
end Turnstile
