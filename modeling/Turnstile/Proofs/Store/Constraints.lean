import Turnstile.Proofs.Allocation.Change

/-!
What a table of registrations can check after every single write. The moves of an event keep to it from one
row to the next, although the places of the waitlist have a gap while those behind it move up.
-/

namespace Turnstile
open scoped List

namespace Store

/-- A place, from 1 on, exactly while waiting; no place and no registrant twice; no more seats than there are. -/
structure Constrained (s : Store) (e : ScheduledEvent) : Prop where
  placed : ∀ r ∈ s.registrationsOf e.id, r.position.isSome ↔ r.status = .waitlisted
  positive : ∀ r ∈ s.registrationsOf e.id, ∀ p, r.position = some p → 1 ≤ p
  distinct : ((s.waiting e.id).map Registration.position).Nodup
  single : ((s.active e.id).map Registration.registrantId).Nodup
  fits : (s.seated e.id).length ≤ e.capacity.toNat

variable {s s' : Store} {e : ScheduledEvent} {q pre post rest : List Registration} {r r' : Registration}
  {now : Instant} {new : RegistrationId → Prop} {rows : List Tracked}

/-- The constraints are about the registrations of the event only. -/
theorem Constrained.congr (h : s.Constrained e) (heq : s'.registrationsOf e.id = s.registrationsOf e.id) :
    s'.Constrained e := by
  obtain ⟨hp, hpos, hd, hs, hf⟩ := h
  refine ⟨?_, ?_, ?_, ?_, ?_⟩ <;> simp only [waiting, active, seated, heq]
  · exact hp
  · exact hpos
  · exact hd
  · exact hs
  · exact hf

/-- Places that rise from 1 on, with or without gaps, satisfy the constraints on places. -/
private theorem places_of_rising (hp : ∀ r ∈ s.registrationsOf e.id, r.position.isSome ↔ r.status = .waitlisted)
    (hq : s.waiting e.id ~ q) (hrise : q.Pairwise fun a b => Tx.place a < Tx.place b)
    (hone : ∀ r ∈ q, ∃ k, r.rank = some k ∧ 1 ≤ k) :
    (∀ r ∈ s.registrationsOf e.id, ∀ p, r.position = some p → 1 ≤ p) ∧
      ((s.waiting e.id).map Registration.position).Nodup := by
  constructor
  · intro r hr p hpos
    have hst : r.status = .waitlisted := (hp r hr).mp (by rw [hpos]; rfl)
    have hw : r ∈ s.waiting e.id := List.mem_filter.mpr ⟨hr, by simp [Registration.isWaitlisted, hst]⟩
    obtain ⟨k, hk, hle⟩ := hone r (hq.mem_iff.mp hw)
    rw [Registration.rank, hpos] at hk
    rw [UInt32.le_iff_toNat_le, Option.some.inj hk]
    exact hle
  · have hplaces : (q.map Tx.place).Nodup := List.pairwise_map.mpr (hrise.imp fun h => Nat.ne_of_lt h)
    have hfactor : q.map Tx.place = (q.map Registration.position).map fun p => p.elim 0 (·.toNat + 1) := by
      rw [List.map_map]
      refine List.map_congr_left fun r _ => ?_
      rw [Tx.place, Function.comp_apply]
      cases r.position <;> rfl
    rw [hfactor] at hplaces
    exact ((hq.map Registration.position).nodup_iff).mpr hplaces.of_map

private theorem rank_pos {n : Nat} (h : NumberedFrom (n + 1) q) (hr : r ∈ q) :
    ∃ k, r.rank = some k ∧ 1 ≤ k := by
  obtain ⟨k, hk, hle, -⟩ := h.rank_bounds hr
  exact ⟨k, hk, by omega⟩

theorem Sound.constrained (h : s.Sound e) : s.Constrained e := by
  have hn := h.numberedFrom
  have hplaces := places_of_rising h.placed (s.queue_perm e.id).symm hn.pairwise fun r hr => rank_pos hn hr
  exact ⟨h.placed, hplaces.1, hplaces.2, h.single, h.fits⟩

private theorem rising_append {m n : Nat} (h : NumberedFrom n pre) (h' : NumberedFrom m post)
    (hm : n + pre.length ≤ m) : (pre ++ post).Pairwise fun a b => Tx.place a < Tx.place b := by
  refine List.pairwise_append.mpr ⟨h.pairwise, h'.pairwise, fun a ha b hb => ?_⟩
  obtain ⟨k, hk, -, hlt⟩ := h.rank_bounds ha
  obtain ⟨l, hl, hle, -⟩ := h'.rank_bounds hb
  rw [Tx.place_eq hk, Tx.place_eq hl]
  omega

/-- While only `post` of those behind have moved up, one place is free between them and the others. -/
theorem Sound.constrained_departure (h : s.Sound e) (hk : s.Keyed)
    (hq : s.queue e.id = pre ++ r :: (post ++ rest)) (hl : r'.Left r) (now : Instant)
    (hfree : r'.status = .confirmed → (s.seated e.id).length < e.capacity.toNat) :
    (s.puts (Store.departure r' post now)).Constrained e := by
  have hn := h.numberedFrom
  rw [hq, NumberedFrom.append_iff] at hn
  obtain ⟨hpre, -, hbehind⟩ := hn
  obtain ⟨hpost, hrest⟩ := NumberedFrom.append_iff.mp hbehind
  have hmoved := NumberedFrom.append_iff.mpr ⟨hpre, numberedFrom_movedUp hpost now⟩
  have hwaiting := waiting_departure hk hq hl now
  rw [← List.append_assoc] at hwaiting
  have hplaced := placed_departure hk hq hl now h.placed
  have hplaces := places_of_rising hplaced hwaiting
    (rising_append hmoved hrest (by simp only [List.length_append, List.length_map]; omega)) fun x hx => by
      rcases List.mem_append.mp hx with hx | hx
      · exact rank_pos hmoved hx
      · rw [Nat.add_right_comm] at hrest
        exact rank_pos hrest hx
  refine ⟨hplaced, hplaces.1, hplaces.2, active_departure hk hq hl now h.single, ?_⟩
  rw [(seated_departure hk hq hl now).length_eq]
  split
  · next hc => exact Nat.succ_le_of_lt (hfree (by simpa [Registration.isConfirmed] using hc))
  · exact h.fits

private theorem constrained_single (hs : s.Sound e) {x : Registration} (hx : (s.puts [x]).Sound e) (n : Nat) :
    (s.puts ([x].take n)).Constrained e := by
  cases n with
  | zero => exact hs.constrained
  | succ n =>
    rw [List.take_succ_cons, List.take_nil]
    exact hx.constrained

private theorem constrained_shift (hs : s.Sound e) (hk : s.Keyed) (hq : s.queue e.id = pre ++ r :: post)
    (hl : r'.Left r) (hfree : r'.status = .confirmed → (s.seated e.id).length < e.capacity.toNat) (n : Nat) :
    (s.puts ((departure r' post now).take n)).Constrained e := by
  cases n with
  | zero => exact hs.constrained
  | succ n =>
    rw [departure, List.take_succ_cons, ← List.map_take]
    rw [← List.take_append_drop n post] at hq
    exact hs.constrained_departure hk hq hl now hfree

/-- The constraints hold after every row of a move. -/
theorem Move.constrained (h : Move new s e rows) (hk : s.Keyed) (hs : s.Sound e) (n : Nat) :
    (s.puts ((rows.map Tracked.registration).take n)).Constrained e := by
  have hsound := h.sound hk hs
  cases h with
  | sit => exact constrained_single hs hsound n
  | wait => exact constrained_single hs hsound n
  | vacate => exact constrained_single hs hsound n
  | withdraw hq now =>
    rw [Tracked.map_registration_ahead]
    exact constrained_shift hs hk hq (Registration.left_cancelledAt _ now) (fun h => by simp at h) n
  | seat hq hfree now =>
    rw [Tracked.map_registration_ahead]
    exact constrained_shift hs hk hq (Registration.left_seatedAt _ now) (fun _ => hfree) n

theorem Moves.constrained (h : Moves new e s rows) (hk : s.Keyed) (hs : s.Sound e) (n : Nat) :
    (s.puts ((rows.map Tracked.registration).take n)).Constrained e := by
  induction h generalizing n with
  | nil => simpa using hs.constrained
  | @cons s rows rest first _ ih =>
    rw [List.map_append, List.take_append]
    by_cases hn : n ≤ (rows.map Tracked.registration).length
    · rw [Nat.sub_eq_zero_of_le hn, List.take_zero, List.append_nil]
      exact first.constrained hk hs n
    · rw [List.take_of_length_le (Nat.le_of_not_le hn), puts_append]
      exact ih hk.puts (first.sound hk hs) _

/-- Moves of one event keep the constraints of all events, after every row. -/
theorem Lawful.constrained (hl : s.Lawful) (he : s.events.get? e.id = some e) (h : Moves new e s rows) (n : Nat)
    {event : EventId} {other : ScheduledEvent} (hother : s.events.get? event = some other) :
    (s.puts ((rows.map Tracked.registration).take n)).Constrained other := by
  obtain rfl := hl.events_keyed _ _ hother
  by_cases hne : e.id = other.id
  · rw [hne, hother] at he
    obtain rfl := Option.some.inj he
    exact h.constrained hl.keyed (hl.sound _ _ hother) n
  · have hover := h.over hl.keyed
    refine (hl.sound _ _ hother).constrained.congr (registrationsOf_puts_of_ne hne (fun r hr => ?_)
      fun r hr old hold => ?_)
    · exact (hover r (List.mem_of_mem_take hr)).1
    · exact ((hover r (List.mem_of_mem_take hr)).2 old hold).1

end Store
end Turnstile
