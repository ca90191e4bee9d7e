import Mathlib.Algebra.GroupWithZero.Nat
import Turnstile.Proofs.Allocation.Effect

/-!
Rounds of a batch promotion: each seats the first who waits and moves the others up, with a reading of the clock
of its own. After some rounds a row is the one that was written last.
-/

namespace Turnstile
open scoped List

/-- The rows of `k` rounds, as far as somebody waits. -/
def Tracked.rounds : Nat → Supply Instant → List Registration → List (List Tracked)
  | k + 1, clock, r :: behind =>
    (seatedAt r clock.next).ahead behind clock.next ::
      rounds k (clock.skip 1) (behind.map fun x => x.movedUpAt clock.next)
  | _, _, _ => []

/-- What `k` rounds make of one who waits: a seat, or a place that is better by `k`. -/
def Registration.afterRounds (k : Nat) (clock : Supply Instant) (r : Registration) : Registration :=
  match r.position with
  | none => r
  | some p =>
    if p.toNat ≤ k then r.seatedAt (clock.skip (p.toNat - 1)).next
    else { r with
      position := some (.ofNat (p.toNat - k))
      updatedAt := if k = 0 then r.updatedAt else (clock.skip (k - 1)).next }

variable {k p : Nat} {clock : Supply Instant} {r : Registration} {q behind : List Registration}

private theorem skip_one_skip (clock : Supply Instant) (n : Nat) : (clock.skip 1).skip n = clock.skip (n + 1) := by
  rw [Supply.skip_skip, Nat.add_comm]

namespace Registration

theorem afterRounds_zero (h : r.rank = some (p + 1)) : r.afterRounds 0 clock = r := by
  obtain ⟨place, hp, he⟩ := Option.map_eq_some_iff.mp h
  obtain ⟨id, eventId, registrantId, status, position, createdAt, updatedAt⟩ := r
  obtain rfl : position = some place := hp
  have hnot : ¬ place.toNat ≤ 0 := by omega
  simp only [afterRounds, if_neg hnot, Nat.sub_zero, UInt32.ofNat_toNat, if_true]

theorem afterRounds_first (h : r.rank = some 1) : r.afterRounds (k + 1) clock = r.seatedAt clock.next := by
  obtain ⟨place, hp, he⟩ := Option.map_eq_some_iff.mp h
  simp [afterRounds, hp, he, Supply.skip]

/-- Whoever is not first is moved up by the first round, and the others follow. -/
theorem afterRounds_movedUpAt (h : r.rank = some (p + 2)) :
    (r.movedUpAt clock.next).afterRounds k (clock.skip 1) = r.afterRounds (k + 1) clock := by
  obtain ⟨place, hp, he⟩ := Option.map_eq_some_iff.mp h
  have he' : (place - 1).toNat = p + 1 := by
    rw [UInt32.toNat_sub_of_le _ _ (UInt32.le_iff_toNat_le.mpr (by simp [he])), he]
    rfl
  unfold afterRounds
  simp only [movedUpAt_position, hp, Option.map_some, he, he', Nat.add_sub_cancel, Nat.reduceSubDiff]
  by_cases hle : p + 1 ≤ k
  · rw [if_pos hle, if_pos (Nat.succ_le_succ hle), skip_one_skip]
    rfl
  · rw [if_neg hle, if_neg (mt Nat.le_of_succ_le_succ hle)]
    by_cases hk : k = 0
    · subst hk
      rfl
    · obtain ⟨j, rfl⟩ := Nat.exists_eq_succ_of_ne_zero hk
      simp [movedUpAt, skip_one_skip]

theorem afterRounds_ne (h : r.rank = some (p + 1)) (hst : r.status = .waitlisted) (hk : k ≠ 0) :
    r.afterRounds k clock ≠ r := by
  obtain ⟨place, hp, he⟩ := Option.map_eq_some_iff.mp h
  intro heq
  unfold afterRounds at heq
  simp only [hp] at heq
  split at heq
  · have hstatus := congrArg status heq
    rw [hst, seatedAt_status] at hstatus
    cases hstatus
  · have hplace := congrArg (fun x => x.position.map UInt32.toNat) heq
    simp only [hp, Option.map_some, Option.some.injEq] at hplace
    rw [UInt32.toNat_ofNat_of_lt' (Nat.lt_of_le_of_lt (Nat.sub_le _ _) place.toNat_lt_size)] at hplace
    omega

end Registration

namespace Tracked

theorem length_rounds (h : k ≤ q.length) : (rounds k clock q).length = k := by
  induction k generalizing clock q with
  | zero => rfl
  | succ k ih =>
    cases q with
    | nil => simp at h
    | cons r behind => simp [rounds, ih (q := behind.map _) (by simpa using h)]

/-- Each round has a row less than the one before it. -/
theorem length_flatten_rounds (h : k ≤ q.length) :
    (rounds k clock q).flatten.length = ((List.range k).map (q.length - ·)).sum := by
  induction k generalizing clock q with
  | zero => rfl
  | succ k ih =>
    cases q with
    | nil => simp at h
    | cons r behind =>
      have hlen := @ih (clock.skip 1) (behind.map fun x => x.movedUpAt clock.next) (by simpa using h)
      rw [rounds, List.flatten_cons, List.length_append, hlen, List.range_succ_eq_map]
      simp [ahead, Function.comp_def]

theorem map_id_rounds_subset :
    (rounds k clock q).flatten.map (·.registration.id) ⊆ q.map Registration.id := by
  induction k generalizing clock q with
  | zero => simp [rounds]
  | succ k ih =>
    cases q with
    | nil => simp [rounds]
    | cons r behind =>
      have hrest := @ih (clock.skip 1) (behind.map fun x => x.movedUpAt clock.next)
      rw [rounds, List.flatten_cons, List.map_append]
      refine List.append_subset.mpr ⟨?_, fun id hid => List.mem_cons_of_mem _ ?_⟩
      · simp [ahead, Function.comp_def]
      · simpa [Function.comp_def] using hrest hid

/-- Each round announces that its first was promoted. -/
theorem announced_rounds (h : NumberedFrom 1 q) :
    announced (rounds k clock q).flatten =
      ((q.take k).map Registration.subject).mapIdx fun i subject => .promoted subject 1 (clock.skip i).next := by
  induction k generalizing clock q with
  | zero => rfl
  | succ k ih =>
    cases q with
    | nil => rfl
    | cons r behind =>
      obtain ⟨place, hp, he⟩ := Option.map_eq_some_iff.mp h.1
      obtain rfl : place = 1 := UInt32.toNat_inj.mp he
      have hrest := @ih (clock.skip 1) _ (Store.numberedFrom_movedUp h.2 clock.next)
      have hfirst : (seatedAt r clock.next).pending.filter RegistrationEvent.isIntegration =
          [.promoted r.subject 1 clock.next] := by
        simp [seatedAt, RegistrationEvent.isIntegration, hp]
      rw [← List.map_take, List.map_map] at hrest
      simp only [skip_one_skip] at hrest
      rw [rounds, List.flatten_cons, announced_append, announced_ahead, hrest, hfirst, List.take_succ_cons,
        List.map_cons, List.mapIdx_cons]
      rfl

end Tracked

namespace Store
variable {s : Store}

/-- Of the rows written for a registration the last one stands. -/
theorem get?_puts_last {pre post : List Registration} (h : r.id ∉ post.map Registration.id) :
    (s.puts (pre ++ r :: post)).registrations.get? r.id = some r := by
  rw [puts_append, puts_cons, get?_puts_of_notMem h, put_registrations, Table.get?_insert_self]

/-- What the rounds leave of the row of one who waits. -/
theorem get?_puts_rounds (hn : (q.map Registration.id).Nodup) (h : NumberedFrom 1 q)
    (hq : ∀ x ∈ q, s.registrations.get? x.id = some x) (hr : r ∈ q) :
    (s.puts ((Tracked.rounds k clock q).flatten.map Tracked.registration)).registrations.get? r.id =
      some (r.afterRounds k clock) := by
  induction k generalizing s clock q r with
  | zero =>
    obtain ⟨p, hp, hle, -⟩ := h.rank_bounds hr
    obtain ⟨p, rfl⟩ := Nat.exists_eq_add_of_le' hle
    rw [Registration.afterRounds_zero hp]
    exact hq r hr
  | succ k ih =>
    cases q with
    | nil => simp at hr
    | cons x behind =>
      have hids : (behind.map fun y => y.movedUpAt clock.next).map Registration.id = behind.map Registration.id := by
        simp [Function.comp_def]
      obtain ⟨hx, hbehind⟩ := List.nodup_cons.mp hn
      rw [Tracked.rounds, List.flatten_cons, List.map_append, puts_append, Tracked.map_registration_ahead]
      have hwritten : ∀ y ∈ departure (x.seatedAt clock.next) behind clock.next,
          (s.puts (departure (x.seatedAt clock.next) behind clock.next)).registrations.get? y.id = some y := by
        intro y hy
        refine get?_puts_of_mem ?_ hy
        rw [map_id_departure (Registration.left_seatedAt x _)]
        exact hn
      -- The first is written by this round only. The others are again what is stored when the rest begins.
      rcases List.mem_cons.mp hr with rfl | hr
      · rw [Registration.afterRounds_first h.1, get?_puts_of_notMem]
        · exact hwritten _ List.mem_cons_self
        · intro hin
          rw [List.map_map] at hin
          exact hx (hids ▸ Tracked.map_id_rounds_subset hin)
      · obtain ⟨p, hp, hle, -⟩ := h.2.rank_bounds hr
        obtain ⟨p, rfl⟩ := Nat.exists_eq_add_of_le' hle
        rw [← Registration.afterRounds_movedUpAt hp]
        refine ih (r := r.movedUpAt clock.next) (hids ▸ hbehind) (numberedFrom_movedUp h.2 _) ?_
          (List.mem_map_of_mem hr)
        exact fun y hy => hwritten y (List.mem_cons_of_mem _ hy)

end Store
end Turnstile
