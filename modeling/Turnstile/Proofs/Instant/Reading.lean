import Turnstile.Proofs.Instant.Text

/-!
What a text can be read as. A leap second ends its minute, so exactly the instants that are no leap second within a
minute have a text.
-/

namespace Turnstile

namespace Numeral

private theorem digit?_lt {base d : Nat} {c : Char} (h : digit? base c = some d) : d < base := by
  obtain ⟨hlt, heq⟩ := Option.ite_none_right_eq_some.mp h
  exact Option.some.inj heq ▸ hlt

private theorem foldlM_lt {base n m k : Nat} {digits : List Char} (hn : n < base ^ k)
    (h : digits.foldlM (fun n c => (digit? base c).map (n * base + ·)) n = some m) :
    m < base ^ (k + digits.length) := by
  induction digits generalizing n k with
  | nil =>
    obtain rfl := Option.some.inj h
    exact hn
  | cons c digits ih =>
    rw [List.foldlM_cons] at h
    obtain ⟨n', hn', h⟩ := Option.bind_eq_some_iff.mp h
    obtain ⟨d, hd, rfl⟩ := Option.map_eq_some_iff.mp hn'
    have hlt : n * base + d < base ^ (k + 1) := by
      have hle := Nat.mul_le_mul_right base hn
      have hd := digit?_lt hd
      rw [Nat.pow_succ]
      rw [Nat.succ_mul] at hle
      omega
    rw [List.length_cons, ← Nat.add_assoc, Nat.add_right_comm]
    exact ih hlt h

/-- A number is below what its digits can name. -/
theorem value?_lt {base m : Nat} {digits : List Char} (h : value? base digits = some m) :
    m < base ^ digits.length := by
  have hlt := foldlM_lt (k := 0) (by simp) h
  rwa [Nat.zero_add] at hlt

end Numeral

namespace Instant
namespace Reader
variable {α β : Type} {P : α → Prop} {Q : β → Prop}

/-- Whatever is read has the property. -/
def Yields (p : Reader α) (P : α → Prop) : Prop := ∀ text a rest, p.run text = some (a, rest) → P a

theorem Yields.bind {p : Reader α} {f : α → Reader β} (hp : p.Yields P) (hf : ∀ a, P a → (f a).Yields Q) :
    (p >>= f).Yields Q := by
  intro text b rest h
  obtain ⟨⟨a, rest'⟩, ha, hb⟩ := Option.bind_eq_some_iff.mp h
  exact hf a (hp text a rest' ha) rest' b rest hb

theorem Yields.then {p : Reader α} {f : α → Reader β} (hf : ∀ a, (f a).Yields Q) : (p >>= f).Yields Q :=
  Yields.bind (P := fun _ => True) (fun _ _ _ _ => trivial) fun a _ => hf a

theorem yields_pure {a : α} (h : P a) : (pure a : Reader α).Yields P := by
  intro text a' rest ha
  obtain ⟨rfl, -⟩ := Prod.mk.inj (Option.some.inj ha)
  exact h

private theorem number_lt {limit n : Nat} {text rest : List Char} (h : (number limit).run text = some (n, rest)) :
    text.length - rest.length ≤ limit ∧ n < 10 ^ (text.length - rest.length) := by
  by_cases hd : (text.take limit).takeWhile Char.isDigit = []
  · cases (run_no_digits hd).symm.trans h
  rw [run_digits rfl hd] at h
  obtain ⟨m, hm, heq⟩ := Option.map_eq_some_iff.mp h
  obtain ⟨rfl, rfl⟩ := Prod.mk.inj heq
  have hle := ((text.take limit).takeWhile_sublist Char.isDigit).length_le
  rw [List.length_take] at hle
  have hused : text.length - (text.drop ((text.take limit).takeWhile Char.isDigit).length).length =
      ((text.take limit).takeWhile Char.isDigit).length := by
    rw [List.length_drop]
    omega
  rw [hused]
  exact ⟨by omega, Numeral.value?_lt hm⟩

theorem yields_fraction : Reader.fraction.Yields (· < 1_000_000_000) := by
  intro text nano rest h
  simp only [Reader.fraction, StateT.run_bind, StateT.run_get, Option.pure_def, Option.bind_eq_bind,
    Option.bind_some] at h
  split at h
  · next digits =>
    simp only [StateT.run_bind, StateT.run_set, Option.pure_def, Option.bind_eq_bind, Option.bind_some] at h
    obtain ⟨⟨n, rest'⟩, hn, h⟩ := Option.bind_eq_some_iff.mp h
    obtain ⟨hle, hlt⟩ := number_lt hn
    obtain ⟨rfl, -⟩ := Prod.mk.inj (Option.some.inj h)
    have hpos : 0 < 10 ^ (9 - (digits.length - rest'.length)) := Nat.pow_pos (by decide)
    calc n * 10 ^ (9 - (digits.length - rest'.length))
        < 10 ^ (digits.length - rest'.length) * 10 ^ (9 - (digits.length - rest'.length)) :=
          Nat.mul_lt_mul_of_pos_right hlt hpos
      _ = 1_000_000_000 := by rw [← Nat.pow_add, Nat.add_sub_cancel' hle]
  · obtain ⟨rfl, -⟩ := Prod.mk.inj (Option.some.inj h)
    decide

/-- A reading of the clock is in a leap second only at the end of a minute. -/
theorem yields_clock : clock.Yields fun r => 1_000_000_000 ≤ r.2 → r.1 % 60 = 59 := by
  refine .then fun hour => .then fun _ => .then fun minute => .then fun _ => .then fun second => ?_
  refine yields_fraction.bind fun nano hnano => ?_
  split
  · exact yields_pure fun _ => by omega
  · exact yields_pure fun hle => by omega

/-- Offsets are whole minutes. -/
theorem yields_offset : offset.Yields (60 ∣ ·) := by
  refine .then fun _ => .then fun text => ?_
  split
  · exact .then fun _ => yields_pure (by decide)
  · split
    · refine .then fun _ => ?_
      split
      · exact yields_pure (by decide)
      · refine .then fun _ => .then fun hours => .then fun _ => .then fun minutes => yields_pure ?_
        exact Int.dvd_mul_of_dvd_right (by omega)
    · intro text a rest h
      cases h

theorem yields_instant : instant.Yields fun t => t.IsLeap → t.second % 60 = 59 := by
  refine .then fun date => .then fun _ => yields_clock.bind fun r hr => ?_
  refine yields_offset.bind fun offset hoff => .then fun _ => ?_
  intro text t rest h hleap
  obtain ⟨t', ht, heq⟩ := Option.bind_eq_some_iff.mp h
  obtain ⟨rfl, -⟩ := Prod.mk.inj (Option.some.inj heq)
  obtain ⟨_, hsome⟩ := Option.dite_none_right_eq_some.mp ht
  obtain rfl := Option.some.inj hsome
  have hclock := hr hleap
  dsimp only
  omega

end Reader

/-- There is a text that is read as the instant. -/
def HasText (t : Instant) : Prop := ∃ text, ofChars? text = some t

/-- All but leap seconds within a minute have a text. -/
theorem hasText_iff {t : Instant} : t.HasText ↔ (t.IsLeap → t.second % 60 = 59) := by
  constructor
  · rintro ⟨text, h⟩
    obtain ⟨⟨t', rest⟩, hrun, h⟩ := Option.bind_eq_some_iff.mp h
    obtain ⟨-, h⟩ := Option.ite_none_right_eq_some.mp h
    obtain rfl := Option.some.inj h
    exact Reader.yields_instant text t' rest hrun
  · intro h
    exact ⟨t.toChars, by rw [ofChars?_toChars, asWritten_eq h]⟩

theorem hasText_iff_asWritten {t : Instant} : t.HasText ↔ t.asWritten = t := by
  refine ⟨fun h => asWritten_eq (hasText_iff.mp h), fun h => ⟨t.toChars, ?_⟩⟩
  rw [ofChars?_toChars, h]

end Instant
end Turnstile
