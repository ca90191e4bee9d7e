import Turnstile.Proofs.Outbox.Delivery
import Mathlib.Data.List.Forall2
import Mathlib.Data.List.Nodup

/-! What the calls of outbox workers make of single rows, and of the whole outbox row by row. -/

namespace Turnstile

namespace OutboxCall

/-- The row that a call would change. -/
def row? : OutboxCall → Option MessageId
  | .tryClaim m _ _ _ | .markProcessed m _ _ | .markRetry m _ _ _ _ | .markFailed m _ _ _ => some m
  | .now | .count _ _ | .claimable _ _ _ | .publish _ _ => none

/-- The row that a call settles, and the worker that says it owns it. -/
def settled? : OutboxCall → Option (MessageId × String)
  | .markProcessed m worker _ | .markRetry m worker _ _ _ | .markFailed m worker _ _ => some (m, worker)
  | .now | .count _ _ | .claimable _ _ _ | .publish _ _ | .tryClaim _ _ _ _ => none

end OutboxCall

namespace OutboxMessage

/-- What a call makes of a row, if it is the row that the call names and allows the change. -/
def under (m : OutboxMessage) : OutboxCall → Option OutboxMessage
  | .tryClaim id worker now cutoff => if m.id = id ∧ m.isClaimable now cutoff then some (m.claim worker now) else none
  | .markProcessed id worker now => if m.id = id ∧ m.isClaimedBy worker then some (m.settle now) else none
  | .markRetry id worker attempts error next =>
    if m.id = id ∧ m.isClaimedBy worker then some (m.postpone attempts error next) else none
  | .markFailed id worker attempts error =>
    if m.id = id ∧ m.isClaimedBy worker then some (m.abandon attempts error) else none
  | .now | .count _ _ | .claimable _ _ _ | .publish _ _ => none

/-- The row after a call. -/
def after (m : OutboxMessage) (c : OutboxCall) : OutboxMessage := (m.under c).getD m

theorem isClaimable_iff {m : OutboxMessage} {now cutoff : Instant} : m.isClaimable now cutoff = true ↔
    m.status = .pending ∧ m.nextAttemptAt ≤ now ∨ m.status = .processing ∧ ∃ t, m.claimedAt = some t ∧ t < cutoff := by
  unfold isClaimable
  cases m.status <;> simp [Option.any_eq_true]

theorem isClaimedBy_iff {m : OutboxMessage} {worker : String} :
    m.isClaimedBy worker = true ↔ m.status = .processing ∧ m.claimedBy = some worker := by
  simp [isClaimedBy]

/-- All that a call can make of a row. -/
theorem under_cases {m m' : OutboxMessage} {c : OutboxCall} (h : m.under c = some m') :
    (∃ worker now cutoff, c = .tryClaim m.id worker now cutoff ∧ m.isClaimable now cutoff = true ∧
        m' = m.claim worker now) ∨
      ∃ worker, m.status = .processing ∧ m.claimedBy = some worker ∧
        ((∃ now, c = .markProcessed m.id worker now ∧ m' = m.settle now) ∨
          (∃ attempts error next, c = .markRetry m.id worker attempts error next ∧
            m' = m.postpone attempts error next) ∨
          ∃ attempts error, c = .markFailed m.id worker attempts error ∧ m' = m.abandon attempts error) := by
  cases c <;> simp only [under, Option.ite_none_right_eq_some, Option.some.injEq, reduceCtorEq] at h
  case tryClaim =>
    obtain ⟨⟨rfl, hc⟩, rfl⟩ := h
    exact .inl ⟨_, _, _, rfl, hc, rfl⟩
  all_goals
    obtain ⟨⟨rfl, hc⟩, rfl⟩ := h
    obtain ⟨hs, hw⟩ := isClaimedBy_iff.mp hc
    refine .inr ⟨_, hs, hw, ?_⟩
  · exact .inl ⟨_, rfl, rfl⟩
  · exact .inr (.inl ⟨_, _, _, rfl, rfl⟩)
  · exact .inr (.inr ⟨_, _, rfl, rfl⟩)

/-- A row changes by a claim that it allows, or when its owner settles it. -/
theorem claimed_or_settled {m m' : OutboxMessage} {c : OutboxCall} (h : m.under c = some m') :
    (∃ worker now cutoff, c = .tryClaim m.id worker now cutoff ∧ m.isClaimable now cutoff = true ∧
        m' = m.claim worker now) ∨
      ∃ worker, c.settled? = some (m.id, worker) ∧ m.status = .processing ∧ m.claimedBy = some worker := by
  rcases under_cases h with hclaim | ⟨worker, hs, hw, ⟨_, rfl, -⟩ | ⟨_, _, _, rfl, -⟩ | ⟨_, _, rfl, -⟩⟩
  · exact .inl hclaim
  all_goals exact .inr ⟨worker, rfl, hs, hw⟩

theorem after_of_under {m m' : OutboxMessage} {c : OutboxCall} (h : m.under c = some m') : m.after c = m' := by
  rw [after, h, Option.getD_some]

theorem after_of_none {m : OutboxMessage} {c : OutboxCall} (h : m.under c = none) : m.after c = m := by
  rw [after, h, Option.getD_none]

/-- A call that leaves its mark on a row names it. -/
theorem row?_of_under {m m' : OutboxMessage} {c : OutboxCall} (h : m.under c = some m') : c.row? = some m.id := by
  rcases under_cases h with ⟨_, _, _, rfl, -, -⟩ |
    ⟨_, -, -, ⟨_, rfl, -⟩ | ⟨_, _, _, rfl, -⟩ | ⟨_, _, rfl, -⟩⟩ <;> rfl

/-- What no call changes of a row. -/
def content (m : OutboxMessage) : MessageId × String × Json × Instant :=
  (m.id, m.messageType, m.payload, m.createdAt)

@[simp] theorem content_after (m : OutboxMessage) (c : OutboxCall) : (m.after c).content = m.content := by
  cases h : m.under c with
  | none => rw [after_of_none h]
  | some m' =>
    rw [after_of_under h]
    rcases under_cases h with ⟨_, _, _, -, -, rfl⟩ |
      ⟨_, -, -, ⟨_, -, rfl⟩ | ⟨_, _, _, -, rfl⟩ | ⟨_, _, -, rfl⟩⟩ <;> rfl

@[simp] theorem id_after (m : OutboxMessage) (c : OutboxCall) : (m.after c).id = m.id :=
  congrArg Prod.fst (content_after m c)

@[simp] theorem messageType_after (m : OutboxMessage) (c : OutboxCall) : (m.after c).messageType = m.messageType :=
  congrArg (fun x => x.2.1) (content_after m c)

@[simp] theorem payload_after (m : OutboxMessage) (c : OutboxCall) : (m.after c).payload = m.payload :=
  congrArg (fun x => x.2.2.1) (content_after m c)

end OutboxMessage

namespace Store
variable {s : Store}

/-- Whether a call changes a row. -/
def grants (s : Store) : OutboxCall → Bool
  | .tryClaim m worker now cutoff => (s.tryClaim m worker now cutoff).1
  | .markProcessed m worker now => (s.markProcessed m worker now).1
  | .markRetry m worker attempts error next => (s.markRetry m worker attempts error next).1
  | .markFailed m worker attempts error => (s.markFailed m worker attempts error).1
  | .now | .count _ _ | .claimable _ _ _ | .publish _ _ => false

/-- No two rows of the outbox have the same identifier. -/
def Numbered (s : Store) : Prop := (s.outbox.map OutboxMessage.id).Nodup

/-- Where identifiers are distinct the first row with one is the only one. -/
private theorem updateMessage_eq {id : MessageId} {allowed : OutboxMessage → Bool}
    {change : OutboxMessage → OutboxMessage} {rows : List OutboxMessage}
    (h : (rows.map OutboxMessage.id).Nodup) :
    updateMessage id allowed change rows =
      (rows.any fun m => m.id = id && allowed m, rows.map fun m => if m.id = id ∧ allowed m then change m else m) := by
  induction rows with
  | nil => rfl
  | cons m rest ih =>
    obtain ⟨hm, hrest⟩ := List.nodup_cons.mp h
    rw [updateMessage]
    by_cases hid : m.id = id
    · have hothers : ∀ x ∈ rest, x.id ≠ id := fun x hx hxid =>
        hm (List.mem_map.mpr ⟨x, hx, hxid.trans hid.symm⟩)
      have hany : (rest.any fun x => x.id = id && allowed x) = false := by
        refine List.any_eq_false.mpr fun x hx => ?_
        simp [hothers x hx]
      have hmap : (rest.map fun x => if x.id = id ∧ allowed x then change x else x) = rest := by
        refine (List.map_congr_left fun x hx => ?_).trans (List.map_id rest)
        exact if_neg fun hc => hothers x hx hc.1
      rw [if_pos hid, List.any_cons, List.map_cons, hany, hmap]
      by_cases ha : allowed m = true <;> simp [hid, ha]
    · rw [if_neg hid, ih hrest]
      simp [hid]

private theorem update_eq (h : s.Numbered) (id : MessageId) (allowed : OutboxMessage → Bool)
    (change : OutboxMessage → OutboxMessage) :
    s.update id allowed change =
      (s.outbox.any fun m => m.id = id && allowed m,
        { s with outbox := s.outbox.map fun m => if m.id = id ∧ allowed m then change m else m }) := by
  rw [update, updateMessage_eq h]

/-- A call changes rows one by one and nothing else. -/
theorem deliver_eq_map (h : s.Numbered) (c : OutboxCall) :
    s.deliver c = { s with outbox := s.outbox.map fun m => m.after c } := by
  cases c with
  | tryClaim | markProcessed | markRetry | markFailed =>
    simp only [deliver, tryClaim, markProcessed, markRetry, markFailed, update_eq h]
    congr 1
    refine List.map_congr_left fun m _ => ?_
    simp only [OutboxMessage.after, OutboxMessage.under]
    split <;> rfl
  | now | count | claimable | publish =>
    exact congrArg (fun outbox => { s with outbox }) (List.map_id s.outbox).symm

theorem deliver_outbox (h : s.Numbered) (c : OutboxCall) :
    (s.deliver c).outbox = s.outbox.map fun m => m.after c := by
  rw [deliver_eq_map h]

theorem mem_deliver (h : s.Numbered) {c : OutboxCall} {m : OutboxMessage} :
    m ∈ (s.deliver c).outbox ↔ ∃ m₀ ∈ s.outbox, m₀.after c = m := by
  rw [deliver_outbox h, List.mem_map]

/-- A call says that it changed a row exactly if one allowed it. -/
theorem grants_iff (h : s.Numbered) (c : OutboxCall) : s.grants c = true ↔ ∃ m ∈ s.outbox, (m.under c).isSome := by
  cases c with
  | tryClaim | markProcessed | markRetry | markFailed =>
    simp only [grants, tryClaim, markProcessed, markRetry, markFailed, update_eq h, OutboxMessage.under,
      List.any_eq_true]
    refine exists_congr fun m => and_congr_right fun _ => ?_
    split <;> simp_all
  | now | count | claimable | publish => simp [grants, OutboxMessage.under]

theorem deliver_of_refused (h : s.Numbered) {c : OutboxCall} (hc : s.grants c = false) : s.deliver c = s := by
  rw [deliver_eq_map h]
  have hmap : (s.outbox.map fun m => m.after c) = s.outbox := by
    refine (List.map_congr_left fun m hm => ?_).trans (List.map_id s.outbox)
    refine OutboxMessage.after_of_none (Option.not_isSome_iff_eq_none.mp fun hsome => ?_)
    rw [(grants_iff h c).mpr ⟨m, hm, hsome⟩] at hc
    exact Bool.noConfusion hc
  rw [hmap]

theorem contents_deliver (h : s.Numbered) (c : OutboxCall) :
    (s.deliver c).outbox.map OutboxMessage.content = s.outbox.map OutboxMessage.content := by
  rw [deliver_outbox h, List.map_map]
  exact List.map_congr_left fun m _ => m.content_after c

theorem Numbered.deliver (h : s.Numbered) (c : OutboxCall) : (s.deliver c).Numbered := by
  have hids : (s.deliver c).outbox.map OutboxMessage.id = s.outbox.map OutboxMessage.id := by
    rw [deliver_outbox h, List.map_map]
    exact List.map_congr_left fun m _ => m.id_after c
  rw [Numbered, hids]
  exact h

/-- A row is known by its identifier. -/
theorem Numbered.eq_of_id {m m' : OutboxMessage} (h : s.Numbered) (hm : m ∈ s.outbox) (hm' : m' ∈ s.outbox)
    (hid : m.id = m'.id) : m = m' :=
  List.inj_on_of_nodup_map h hm hm' hid

end Store

end Turnstile
