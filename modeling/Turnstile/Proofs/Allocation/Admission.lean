import Turnstile.Proofs.Allocation.Invariant

/-!
Whoever waits longest can be admitted by name or by turn. The two commands give the same answer and leave the
same session, whether a seat is free or not.
-/

namespace Turnstile

namespace Store
variable {s : Store} {e : ScheduledEvent} {r : Registration}

/-- While somebody waits there is one who is first, and nobody else has the first place. -/
theorem Sound.exists_first (h : s.Sound e) (hw : s.waiting e.id ≠ []) :
    ∃ r behind, s.queue e.id = r :: behind ∧ ∀ x ∈ s.waiting e.id, x.position = some 1 ↔ x = r := by
  have hrank (x : Registration) : x.position = some 1 ↔ x.rank = some 1 := by
    cases hp : x.position <;> simp [Registration.rank, hp, ← UInt32.toNat_inj]
  have hn := h.numberedFrom
  cases hq : s.queue e.id with
  | nil => exact absurd (List.Perm.nil_eq (hq ▸ s.queue_perm e.id)).symm hw
  | cons r behind =>
    rw [hq] at hn
    refine ⟨r, behind, rfl, fun x hx => ?_⟩
    rw [hrank]
    constructor
    · intro hfirst
      rw [← mem_queue, hq] at hx
      refine (List.mem_cons.mp hx).resolve_right fun hx => ?_
      obtain ⟨k, hk, hle, -⟩ := hn.2.rank_bounds hx
      rw [hfirst] at hk
      have hone := Option.some.inj hk
      omega
    · rintro rfl
      exact hn.1

end Store

namespace Decision
variable {s : Store} {e : ScheduledEvent} {r : Registration} {behind : List Registration}

/-- The first who waits is the one that a promotion seats. -/
theorem confirm_first (hk : s.Keyed) (hq : s.queue e.id = r :: behind) (now : Instant) :
    confirm s r.id now = promote s e.id now := by
  have hm : r ∈ s.queue e.id := by simp [hq]
  obtain ⟨hr, hev, hst⟩ := (Store.mem_waiting hk).mp (Store.mem_queue.mp hm)
  unfold confirm promote
  simp only [hr, hev, hq, hst, ne_eq, not_true_eq_false, if_false]

theorem promote_first (he : s.events.get? e.id = some e) (hq : s.queue e.id = r :: behind) (now : Instant) :
    promote s e.id now =
      if e.capacity.toNat ≤ (s.seated e.id).length then .refuse (.capacityExhausted e.id e.capacity)
      else seat s r now := by
  unfold promote
  simp only [he, hq]

end Decision

namespace Allocate

/-- The first who waits is admitted, or refused, by name as by turn, and the session is the same afterwards. -/
theorem confirm_agrees_with_promote {s : Session} (hi : s.Idle) (hl : s.store.Lawful) {event : EventId}
    {e : ScheduledEvent} (he : s.store.events.get? event = some e) (hw : s.store.waiting event ≠ []) :
    ∃ r ∈ s.store.waiting event, (∀ x ∈ s.store.waiting event, x.position = some 1 ↔ x = r) ∧
      ∃ reply s', (command (.confirm r.id)).on s = (some reply, s') ∧
        (command (.promote event)).on s = (some reply, s') ∧
        reply =
          if e.capacity.toNat ≤ (s.store.seated event).length then .error (.capacityExhausted event e.capacity)
          else if s.store.failOnCommit then .error (.store (.unavailable "injected commit failure"))
          else .ok { target := some (.seatedAt r s.clock.next)
                     affected := (s.store.behind r).map fun x => .movedUpAt x s.clock.next } := by
  obtain rfl := hl.events_keyed _ _ he
  obtain ⟨r, behind, hq, hfirst⟩ := (hl.sound _ _ he).exists_first hw
  have hm : r ∈ s.store.queue e.id := by simp [hq]
  have hconfirm := on_confirm hi hl r.id
  have hpromote := on_promote hi hl e.id
  rw [show s.tick.store = s.store from rfl] at hconfirm hpromote
  rw [Decision.confirm_first hl.keyed hq] at hconfirm
  refine ⟨r, Store.mem_queue.mp hm, hfirst, _, _, hconfirm, hpromote, ?_⟩
  rw [Decision.promote_first he hq]
  by_cases hfull : e.capacity.toNat ≤ (s.store.seated e.id).length
  · rw [if_pos hfull, if_pos hfull]
  · rw [if_neg hfull, if_neg hfull]
    by_cases hfail : s.store.failOnCommit = true
    · rw [if_pos hfail]
      exact congrArg Prod.fst (if_pos hfail)
    · rw [if_neg hfail]
      exact congrArg Prod.fst (if_neg hfail)

/-- Two wait, and there is a second seat. -/
theorem confirm_agrees_with_promote_secondSeat :
    let s := { Session.oneSeatTwoWaiting with
      store := Session.oneSeatTwoWaiting.store.setCapacity ScheduledEvent.oneSeat.id 2 }
    let e := { ScheduledEvent.oneSeat with capacity := 2 }
    ∃ r ∈ s.store.waiting e.id, (∀ x ∈ s.store.waiting e.id, x.position = some 1 ↔ x = r) ∧
      ∃ reply s', (command (.confirm r.id)).on s = (some reply, s') ∧
        (command (.promote e.id)).on s = (some reply, s') ∧
        reply =
          if e.capacity.toNat ≤ (s.store.seated e.id).length then .error (.capacityExhausted e.id e.capacity)
          else if s.store.failOnCommit then .error (.store (.unavailable "injected commit failure"))
          else .ok { target := some (.seatedAt r s.clock.next)
                     affected := (s.store.behind r).map fun x => .movedUpAt x s.clock.next } := by
  intro s e
  have hc := Session.oneSeatTwoWaiting_consistent
  have hone : Session.oneSeatTwoWaiting.store.events.get? ScheduledEvent.oneSeat.id = some .oneSeat := by
    decide +kernel
  have hi : s.Idle := ⟨hc.idle.tx, hc.idle.locked⟩
  have hl : s.store.Lawful :=
    hc.lawful.setCapacity hone (show ScheduledEvent.oneSeat.capacity ≤ 2 by decide)
  have he : s.store.events.get? e.id = some e := by decide +kernel
  have hw : s.store.waiting e.id ≠ [] := by decide +kernel
  exact confirm_agrees_with_promote hi hl he hw

end Allocate
end Turnstile
