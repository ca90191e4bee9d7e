import Turnstile.Proofs.Outbox.Rows

/-!
The life of outbox rows under whatever calls workers make, with any times and any claims to be the owner.
-/

namespace Turnstile

namespace OutboxMessage

/-- Rows as they come into the outbox. -/
inductive Created : OutboxMessage → Prop
  | pending (id : MessageId) (messageType : String) (payload : Json) (now : Instant) :
    Created (.pending id messageType payload now)
  | announcing {e : EventRecord} {row : MessageId → OutboxMessage} (h : announcing e = .ok row) (id : MessageId) :
    Created (row id)

theorem Created.eq_pending {m : OutboxMessage} (h : m.Created) :
    m = OutboxMessage.pending m.id m.messageType m.payload m.createdAt := by
  cases h with
  | pending => rfl
  | announcing h id =>
    unfold OutboxMessage.announcing at h
    split at h
    · obtain rfl := Except.ok.inj h
      rfl
    · cases h

/-- The traces of claims and of the end of a row go with its status. -/
structure Marked (m : OutboxMessage) : Prop where
  unclaimed : m.status = .pending ∨ m.status = .failed → m.claimedBy = none ∧ m.claimedAt = none
  claimed : m.status = .processing → m.claimedBy.isSome ∧ m.claimedAt.isSome
  processed : m.status = .processed → m.claimedBy.isSome
  stamped : m.processedAt.isSome ↔ m.status = .processed

theorem Created.marked {m : OutboxMessage} (h : m.Created) : m.Marked := by
  rw [h.eq_pending]
  constructor <;> simp [OutboxMessage.pending]

theorem Marked.after {m : OutboxMessage} (h : m.Marked) (c : OutboxCall) : (m.after c).Marked := by
  cases hc : m.under c with
  | none => rwa [after_of_none hc]
  | some m' =>
    rw [after_of_under hc]
    rcases under_cases hc with ⟨_, _, _, -, hclaim, rfl⟩ |
      ⟨worker, hs, hw, ⟨_, -, rfl⟩ | ⟨_, _, _, -, rfl⟩ | ⟨_, _, -, rfl⟩⟩
    · have hopen : m.status ≠ .processed := by
        rcases isClaimable_iff.mp hclaim with ⟨hs, -⟩ | ⟨hs, -⟩ <;> simp [hs]
      have hstamp : m.processedAt.isSome = false := Bool.eq_false_iff.mpr (mt h.stamped.mp hopen)
      constructor <;> simp [claim, hstamp]
    · constructor <;> simp [settle, hw]
    · have hstamp : m.processedAt.isSome = false := Bool.eq_false_iff.mpr (mt h.stamped.mp (by simp [hs]))
      constructor <;> simp [postpone, hstamp]
    · have hstamp : m.processedAt.isSome = false := Bool.eq_false_iff.mpr (mt h.stamped.mp (by simp [hs]))
      constructor <;> simp [abandon, hstamp]

/-- How a call may change a row. -/
structure Evolves (c : OutboxCall) (m m' : OutboxMessage) : Prop where
  content : m'.id = m.id ∧ m'.messageType = m.messageType ∧ m'.payload = m.payload ∧ m'.createdAt = m.createdAt
  /-- What has come to its end stays as it is. -/
  ended : m.status = .processed ∨ m.status = .failed → m' = m
  /-- Only a claim changes a row that waits, from the time on for which it waits. -/
  waiting : m.status = .pending → m' ≠ m → ∃ worker now cutoff,
    c = .tryClaim m.id worker now cutoff ∧ m.nextAttemptAt ≤ now ∧ m' = m.claim worker now
  /-- Only its owner takes a row out of processing. -/
  settled : m.status = .processing → m'.status ≠ .processing → ∃ worker,
    c.settled? = some (m.id, worker) ∧ m.claimedBy = some worker
  /-- Only an expired claim is taken over. -/
  takenOver : m.status = .processing → m'.status = .processing → m' ≠ m → ∃ worker now cutoff t,
    c = .tryClaim m.id worker now cutoff ∧ m.claimedAt = some t ∧ t < cutoff ∧ m' = m.claim worker now

theorem evolves_self (c : OutboxCall) (m : OutboxMessage) : m.Evolves c m where
  content := ⟨rfl, rfl, rfl, rfl⟩
  ended _ := rfl
  waiting _ hne := absurd rfl hne
  settled hs hne := absurd hs hne
  takenOver _ _ hne := absurd rfl hne

theorem evolves_after (c : OutboxCall) (m : OutboxMessage) : m.Evolves c (m.after c) := by
  cases hc : m.under c with
  | none =>
    rw [after_of_none hc]
    exact evolves_self c m
  | some m' =>
    rw [after_of_under hc]
    rcases under_cases hc with ⟨worker, now, cutoff, rfl, hclaim, rfl⟩ | ⟨worker, hs, hw, hsettle⟩
    · rcases isClaimable_iff.mp hclaim with ⟨hs, hdue⟩ | ⟨hs, t, ht, hold⟩
      · exact {
          content := ⟨rfl, rfl, rfl, rfl⟩
          ended := fun h => by simp [hs] at h
          waiting := fun _ _ => ⟨worker, now, cutoff, rfl, hdue, rfl⟩
          settled := fun h => by simp [hs] at h
          takenOver := fun h => by simp [hs] at h }
      · exact {
          content := ⟨rfl, rfl, rfl, rfl⟩
          ended := fun h => by simp [hs] at h
          waiting := fun h => by simp [hs] at h
          settled := fun _ hne => absurd rfl hne
          takenOver := fun _ _ _ => ⟨worker, now, cutoff, t, rfl, ht, hold, rfl⟩ }
    · have hsettled : c.settled? = some (m.id, worker) ∧ m'.status ≠ .processing ∧ m'.content = m.content := by
        rcases hsettle with ⟨_, rfl, rfl⟩ | ⟨_, _, _, rfl, rfl⟩ | ⟨_, _, rfl, rfl⟩ <;>
          exact ⟨rfl, by simp [settle, postpone, abandon], rfl⟩
      obtain ⟨hcall, hleft, hcontent⟩ := hsettled
      simp only [OutboxMessage.content, Prod.mk.injEq] at hcontent
      exact {
        content := hcontent
        ended := fun h => by simp [hs] at h
        waiting := fun h => by simp [hs] at h
        settled := fun _ _ => ⟨worker, hcall, hw⟩
        takenOver := fun _ h => absurd h hleft }

end OutboxMessage

namespace Store
variable {s : Store}

theorem Numbered.foldl_deliver (h : s.Numbered) (calls : List OutboxCall) : (calls.foldl Store.deliver s).Numbered := by
  induction calls generalizing s with
  | nil => exact h
  | cons c rest ih => exact ih (h.deliver c)

private theorem marked_foldl_deliver (h : s.Numbered) (hm : ∀ m ∈ s.outbox, m.Marked) (calls : List OutboxCall) :
    ∀ m ∈ (calls.foldl deliver s).outbox, m.Marked := by
  induction calls generalizing s with
  | nil => exact hm
  | cons c rest ih =>
    refine ih (h.deliver c) fun m hmem => ?_
    obtain ⟨x, hx, rfl⟩ := (mem_deliver h).mp hmem
    exact (hm x hx).after c

/-- A call that changes a row leaves all rows but the one it names, and the rest of the store, as they were. -/
theorem granted (h : s.Numbered) {c : OutboxCall} (hc : s.grants c = true) : ∃ id, c.row? = some id ∧
    id ∈ s.outbox.map OutboxMessage.id ∧
    List.Forall₂ (fun m m' => m.id ≠ id → m' = m) s.outbox (s.deliver c).outbox := by
  obtain ⟨m, hm, hsome⟩ := (grants_iff h c).mp hc
  obtain ⟨m', hm'⟩ := Option.isSome_iff_exists.mp hsome
  have hrow := OutboxMessage.row?_of_under hm'
  refine ⟨m.id, hrow, List.mem_map_of_mem hm, ?_⟩
  rw [deliver_outbox h, List.forall₂_map_right_iff, List.forall₂_same]
  intro x _ hne
  cases hx : x.under c with
  | none => exact OutboxMessage.after_of_none hx
  | some x' =>
    have heq := (OutboxMessage.row?_of_under hx).symm.trans hrow
    exact absurd (Option.some_inj.mp heq) hne

/-- From rows as they are created, whatever calls are made, the traces on every row go with its status, and
the next call changes at most the row it names, in one of the ways in which rows evolve, and only if it says
so. -/
theorem life_cycle (hnew : ∀ m ∈ s.outbox, m.Created) (hids : s.Numbered) (calls : List OutboxCall) (c : OutboxCall) :
    let t := calls.foldl deliver s
    (∀ m ∈ t.outbox, m.Marked) ∧
      t.deliver c = { t with outbox := (t.deliver c).outbox } ∧
      List.Forall₂ (OutboxMessage.Evolves c) t.outbox (t.deliver c).outbox ∧
      (t.grants c = false → t.deliver c = t) ∧
      (t.grants c = true → ∃ id, c.row? = some id ∧ id ∈ t.outbox.map OutboxMessage.id ∧
        List.Forall₂ (fun m m' => m.id ≠ id → m' = m) t.outbox (t.deliver c).outbox) := by
  intro t
  have ht : t.Numbered := hids.foldl_deliver calls
  refine ⟨marked_foldl_deliver hids (fun m hm => (hnew m hm).marked) calls, ?_, ?_,
    deliver_of_refused ht, granted ht⟩
  · rw [deliver_eq_map ht]
  · rw [deliver_outbox ht, List.forall₂_map_right_iff, List.forall₂_same]
    exact fun m _ => m.evolves_after c

/-- A worker dies with a row in hand, and another takes it over when the claim has become too old. -/
theorem life_cycle_takenOver :
    let s : Store := { outbox := [.pending ⟨⟨0, 1⟩⟩ "RegistrationConfirmed" .null default] }
    let calls := [OutboxCall.tryClaim ⟨⟨0, 1⟩⟩ "a" default .first]
    let c := OutboxCall.tryClaim ⟨⟨0, 1⟩⟩ "b" .last .newYear2024
    let t := calls.foldl deliver s
    t.grants c = true ∧ List.Forall₂ (OutboxMessage.Evolves c) t.outbox (t.deliver c).outbox := by
  intro s calls c t
  have hnew : ∀ m ∈ s.outbox, m.Created := by
    intro m hm
    obtain rfl := List.mem_singleton.mp hm
    exact .pending _ _ _ _
  obtain ⟨-, -, hevolves, -, -⟩ := life_cycle hnew (List.nodup_singleton _) calls c
  exact ⟨by decide, hevolves⟩

end Store

end Turnstile
