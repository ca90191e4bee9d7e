import Mathlib.Algebra.GroupWithZero.Nat
import Turnstile.Proofs.Metrics.Commands
import Turnstile.Proofs.Outbox.Fleet

/-!
What outbox workers count: a row that a worker brings to its end is counted by the next call of the same program,
whatever others do in between.
-/

namespace Turnstile

namespace OutboxCall

/-- How much a call adds to a counter. -/
def adds (c : Counter) : OutboxCall → Nat
  | .count c' n => if c = c' then n else 0
  | _ => 0

/-- How much is to be added to a counter after a call with this reply. -/
def earns (c : Counter) : (op : OutboxCall) → op.Reply → Nat
  | .markProcessed _ _ _, .ok true => if c = .published then 1 else 0
  | .markFailed _ _ _ _, .ok true => if c = .publishFailed then 1 else 0
  | _, _ => 0

/-- Counters of events are left alone. -/
theorem earns_of_ne {c : Counter} (hp : c ≠ .published) (hf : c ≠ .publishFailed) (op : OutboxCall) (r : op.Reply) :
    op.earns c r = 0 := by
  unfold earns
  split
  · exact if_neg hp
  · exact if_neg hf
  · rfl

end OutboxCall

namespace Counter
variable {m m' : OutboxMessage} {worker : String} {now cutoff : Instant}

/-- A counter looks at the type of a row and at no more of its state than it counts. -/
private theorem marks_congr {c : Counter} (ht : m'.messageType = m.messageType)
    (hp : c = .published → (m'.status = .processed ↔ m.status = .processed))
    (hf : c = .publishFailed → (m'.status = .failed ↔ m.status = .failed)) : c.marks m' = c.marks m := by
  rcases c with status | _ | _ | _ | _ | _ | _ | _ | _ | _ | _ | _
  · cases status <;> simp [marks, ht]
  case published => simp [marks, hp rfl]
  case publishFailed => simp [marks, hf rfl]
  all_goals simp [marks, ht]

theorem marks_claim (h : m.isClaimable now cutoff = true) (c : Counter) :
    c.marks (m.claim worker now) = c.marks m := by
  have hs : m.status = .pending ∨ m.status = .processing :=
    (OutboxMessage.isClaimable_iff.mp h).imp And.left And.left
  refine marks_congr rfl (fun _ => iff_of_false OutboxStatus.noConfusion ?_)
    fun _ => iff_of_false OutboxStatus.noConfusion ?_
  all_goals rcases hs with hs | hs <;> simp [hs]

theorem marks_postpone (h : m.isClaimedBy worker = true) (attempts : UInt32) (error : String) (next : Instant)
    (c : Counter) : c.marks (m.postpone attempts error next) = c.marks m := by
  have hs := (OutboxMessage.isClaimedBy_iff.mp h).1
  exact marks_congr rfl (fun _ => iff_of_false OutboxStatus.noConfusion (by simp [hs]))
    fun _ => iff_of_false OutboxStatus.noConfusion (by simp [hs])

theorem marks_settle (h : m.isClaimedBy worker = true) (now : Instant) (c : Counter) :
    (if c.marks (m.settle now) then 1 else 0) = (if c.marks m then 1 else 0) + if c = .published then 1 else 0 := by
  have hs := (OutboxMessage.isClaimedBy_iff.mp h).1
  by_cases hc : c = .published
  · simp [hc, marks, OutboxMessage.settle, hs]
  · have hstay : c.marks (m.settle now) = c.marks m :=
      marks_congr rfl (fun hp => absurd hp hc) fun _ => iff_of_false OutboxStatus.noConfusion (by simp [hs])
    rw [hstay, if_neg hc, Nat.add_zero]

theorem marks_abandon (h : m.isClaimedBy worker = true) (attempts : UInt32) (error : String) (c : Counter) :
    (if c.marks (m.abandon attempts error) then 1 else 0) =
      (if c.marks m then 1 else 0) + if c = .publishFailed then 1 else 0 := by
  have hs := (OutboxMessage.isClaimedBy_iff.mp h).1
  by_cases hc : c = .publishFailed
  · simp [hc, marks, OutboxMessage.abandon, hs]
  · have hstay : c.marks (m.abandon attempts error) = c.marks m :=
      marks_congr rfl (fun _ => iff_of_false OutboxStatus.noConfusion (by simp [hs])) fun hf => absurd hf hc
    rw [hstay, if_neg hc, Nat.add_zero]

end Counter

namespace Store
variable {s : Store}

private theorem countP_updateMessage {p : OutboxMessage → Bool} {id : MessageId} {allowed : OutboxMessage → Bool}
    {change : OutboxMessage → OutboxMessage} {k : Nat}
    (h : ∀ m, allowed m = true → (if p (change m) then 1 else 0) = (if p m then 1 else 0) + k)
    (rows : List OutboxMessage) :
    (updateMessage id allowed change rows).2.countP p =
      rows.countP p + if (updateMessage id allowed change rows).1 then k else 0 := by
  induction rows with
  | nil => rfl
  | cons m rest ih =>
    rw [updateMessage]
    split
    · split
      · next ha =>
        rw [List.countP_cons, List.countP_cons, h m ha, if_pos rfl, Nat.add_assoc]
      · rfl
    · dsimp only
      rw [List.countP_cons, List.countP_cons, ih, Nat.add_right_comm]

/-- A call changes the number of rows that a counter counts by what it earns. -/
theorem countP_deliver (s : Store) (op : OutboxCall) (now : Instant) (bus : Except BusError Unit) (c : Counter) :
    (s.deliver op).outbox.countP c.marks = s.outbox.countP c.marks + op.earns c (s.reply now bus op) := by
  cases op with
  | now | count | claimable | publish => rfl
  | tryClaim id worker t cutoff =>
    have hearn (b : Bool) : OutboxCall.earns c (.tryClaim id worker t cutoff) (.ok b) = if b then 0 else 0 := by
      cases b <;> rfl
    refine (countP_updateMessage (fun m hm => ?_) s.outbox).trans (congrArg _ (hearn _).symm)
    rw [Counter.marks_claim hm, Nat.add_zero]
  | markRetry id worker attempts error next =>
    have hearn (b : Bool) : OutboxCall.earns c (.markRetry id worker attempts error next) (.ok b) =
        if b then 0 else 0 := by
      cases b <;> rfl
    refine (countP_updateMessage (fun m hm => ?_) s.outbox).trans (congrArg _ (hearn _).symm)
    rw [Counter.marks_postpone hm, Nat.add_zero]
  | markProcessed id worker t =>
    have hearn (b : Bool) : OutboxCall.earns c (.markProcessed id worker t) (.ok b) =
        if b then (if c = .published then 1 else 0) else 0 := by
      cases b <;> rfl
    exact (countP_updateMessage (fun m hm => Counter.marks_settle hm t c) s.outbox).trans
      (congrArg _ (hearn _).symm)
  | markFailed id worker attempts error =>
    have hearn (b : Bool) : OutboxCall.earns c (.markFailed id worker attempts error) (.ok b) =
        if b then (if c = .publishFailed then 1 else 0) else 0 := by
      cases b <;> rfl
    exact (countP_updateMessage (fun m hm => Counter.marks_abandon hm attempts error c) s.outbox).trans
      (congrArg _ (hearn _).symm)

end Store

namespace Deliver
variable {α β : Type} {c : Counter}

/-- How much the next call of a program adds to a counter. -/
def due (c : Counter) : Program OutboxCall.Reply α → Nat
  | .done _ => 0
  | .ask op _ => op.adds c

/-- After every reply a program counts at once what the call has earned, and nothing else. -/
def Pays (c : Counter) : Program OutboxCall.Reply α → Prop
  | .done _ => True
  | .ask op next => ∀ r, due c (next r) = op.earns c r ∧ Pays c (next r)

/-- A program that has nothing to count at first. -/
structure Square (c : Counter) (p : Program OutboxCall.Reply α) : Prop where
  due : due c p = 0
  pays : Pays c p

theorem square_done (a : α) : Square c (.done a : Program OutboxCall.Reply α) := ⟨rfl, trivial⟩

private theorem Pays.bind {p : Program OutboxCall.Reply α} {f : α → Program OutboxCall.Reply β} (hp : Pays c p)
    (hf : ∀ a, Square c (f a)) : Deliver.due c (p.bind f) = Deliver.due c p ∧ Pays c (p.bind f) := by
  induction p with
  | done a => exact ⟨(hf a).due, (hf a).pays⟩
  | ask op next ih =>
    refine ⟨rfl, fun r => ?_⟩
    obtain ⟨hdue, hpays⟩ := ih r (hp r).2
    exact ⟨hdue.trans (hp r).1, hpays⟩

theorem Square.bind {p : Deliver α} {f : α → Deliver β} (hp : Square c p.run) (hf : ∀ a, Square c (f a).run) :
    Square c (p >>= f).run := by
  obtain ⟨hdue, hpays⟩ := hp.pays.bind (f := ExceptT.bindCont fun a => f a) fun r => by
    cases r with
    | ok a => exact hf a
    | error e => exact square_done _
  exact ⟨hdue.trans hp.due, hpays⟩

theorem square_pure (a : α) : Square c (pure a : Deliver α).run := square_done _

/-- A single call that neither adds to the counter nor earns anything. -/
private theorem square_once {op : OutboxCall} {f : op.Reply → α} (hadds : op.adds c = 0)
    (hearns : ∀ r, op.earns c r = 0) : Square c (.ask op fun r => .done (f r)) :=
  ⟨hadds, fun r => ⟨(hearns r).symm, trivial⟩⟩

private theorem square_now : Square c now.run := square_once rfl fun _ => rfl

private theorem square_claim (hm : c ≠ .claimConflicts) (worker : String) (now cutoff : Instant)
    (rows : List OutboxMessage) : Square c (claim worker now cutoff rows).run := by
  induction rows with
  | nil => exact square_pure _
  | cons m rest ih =>
    have htry : Square c (tryClaim m.id worker now cutoff).run := square_once rfl fun _ => rfl
    have hmiss : Square c (count .claimConflicts 1).run := square_once (if_neg hm) fun _ => rfl
    refine htry.bind fun got => ?_
    split
    · exact ih.bind fun _ => square_pure _
    · exact hmiss.bind fun _ => ih.bind fun _ => square_pure _

theorem square_claimDue (hc : c ≠ .claimed) (hm : c ≠ .claimConflicts) (s : OutboxSettings) :
    Square c (claimDue s).run := by
  have hlist (t cutoff : Instant) : Square c (claimable s.batchSize t cutoff).run := square_once rfl fun _ => rfl
  refine square_now.bind fun t => (hlist t _).bind fun rows => (square_claim hm _ _ _ rows).bind fun got => ?_
  have hgot : Square c (count .claimed got.1.length).run := square_once (if_neg hc) fun _ => rfl
  exact hgot.bind fun _ => square_pure _

/-- A row at its end is counted at once, if the worker still owned it. -/
private theorem square_settle (s : OutboxSettings) (m : OutboxMessage) (outcome : Except BusError Unit) :
    Square c (settle s m outcome).run := by
  unfold settle
  refine square_now.bind fun t => ?_
  cases outcome with
  | ok =>
    refine ⟨rfl, fun r => ?_⟩
    rcases r with e | _ | _
    · exact ⟨rfl, trivial⟩
    · exact ⟨rfl, trivial⟩
    · exact ⟨rfl, fun _ => ⟨rfl, trivial⟩⟩
  | error e =>
    dsimp only
    split
    · refine ⟨rfl, fun r => ?_⟩
      rcases r with e | _ | _
      · exact ⟨rfl, trivial⟩
      · exact ⟨rfl, trivial⟩
      · exact ⟨rfl, fun _ => ⟨rfl, trivial⟩⟩
    · refine ⟨rfl, fun r => ?_⟩
      rcases r with e | _ | _ <;> exact ⟨rfl, trivial⟩

theorem square_publishAll (s : OutboxSettings) (topic : String) (rows : List OutboxMessage) :
    Square c (publishAll s topic rows).run := by
  induction rows with
  | nil => exact square_pure _
  | cons m rest ih =>
    have hpublish : Square c (publish topic m).run := square_once rfl fun _ => rfl
    exact hpublish.bind fun outcome => (square_settle s m outcome).bind fun _ => ih.bind fun _ => square_pure _

end Deliver

namespace Batch
variable {c : Counter} {b : Batch} {s : OutboxSettings}

/-- How much a batch is about to add to a counter. -/
def due (c : Counter) : Batch → Nat
  | claiming rest => Deliver.due c rest
  | publishing topics => (topics.map (Deliver.due c)).sum

/-- Whatever a batch is answered, it counts what its calls have earned. -/
def Pays (c : Counter) : Batch → Prop
  | claiming rest => Deliver.Pays c rest
  | publishing topics => ∀ p ∈ topics, Deliver.Pays c p

/-- Nothing is left to do but to go on to the topics or to the next batch. -/
def resting : Batch → Bool
  | claiming rest => ended rest
  | publishing topics => topics.all ended

private theorem due_of_ended {α : Type} {p : Program OutboxCall.Reply α} (h : ended p = true) :
    Deliver.due c p = 0 := by
  cases p with
  | done a => rfl
  | ask op next => cases h

theorem due_of_resting (h : b.resting = true) : b.due c = 0 := by
  cases b with
  | claiming rest => exact due_of_ended h
  | publishing topics =>
    refine List.sum_eq_zero_iff_forall_eq_nat.mpr fun n hn => ?_
    obtain ⟨p, hp, rfl⟩ := List.mem_map.mp hn
    exact due_of_ended (List.all_eq_true.mp h p hp)

private theorem sum_map_set {ι : Type} (f : ι → Nat) {x : ι} (y : ι) {xs : List ι} {k : Nat} (h : xs[k]? = some x) :
    ((xs.set k y).map f).sum + f x = (xs.map f).sum + f y := by
  induction xs generalizing k with
  | nil => cases h
  | cons z xs ih =>
    cases k with
    | zero =>
      obtain rfl := Option.some.inj h
      simp only [List.set_cons_zero, List.map_cons, List.sum_cons]
      omega
    | succ k =>
      have hrest := ih (k := k) h
      simp only [List.set_cons_succ, List.map_cons, List.sum_cons]
      omega

/-- A batch earns by each of its calls what it counts later. -/
theorem Pays.next {k : Nat} {op : OutboxCall} {next : op.Reply → Batch} (h : b.Pays c)
    (hn : b.next? k = some ⟨op, next⟩) (r : op.Reply) :
    (next r).due c + op.adds c = b.due c + op.earns c r ∧ (next r).Pays c := by
  cases b with
  | claiming rest =>
    cases rest with
    | done => cases hn
    | ask op' next' =>
      obtain ⟨rfl, hnext⟩ := Sigma.mk.inj (Option.some.inj hn)
      obtain rfl := eq_of_heq hnext
      obtain ⟨hdue, hpays⟩ := h r
      exact ⟨(congrArg (· + op'.adds c) hdue).trans (Nat.add_comm _ _), hpays⟩
  | publishing topics =>
    cases hp : topics[k]? with
    | none => simp [next?, hp] at hn
    | some p =>
      cases p with
      | done => simp [next?, hp] at hn
      | ask op' next' =>
        rw [next?, hp] at hn
        obtain ⟨rfl, hnext⟩ := Sigma.mk.inj (Option.some.inj hn)
        obtain rfl := eq_of_heq hnext
        obtain ⟨hdue, hpays⟩ := h _ (List.mem_of_getElem? hp) r
        refine ⟨?_, fun q hq => ?_⟩
        · have hsum := sum_map_set (Deliver.due c) (next' r) hp
          rw [hdue] at hsum
          exact hsum
        · rcases List.mem_or_eq_of_mem_set hq with hq | rfl
          · exact h q hq
          · exact hpays

theorem pays_publishing (s : OutboxSettings) (claimed : List OutboxMessage) :
    (publishing (Deliver.publishing s claimed)).due c = 0 ∧ (publishing (Deliver.publishing s claimed)).Pays c := by
  have hsquare : ∀ p ∈ Deliver.publishing s claimed, Deliver.Square c p := by
    intro p hp
    obtain ⟨⟨topic, rows⟩, -, rfl⟩ := List.mem_map.mp hp
    exact Deliver.square_publishAll s topic rows
  refine ⟨List.sum_eq_zero_iff_forall_eq_nat.mpr fun n hn => ?_, fun p hp => (hsquare p hp).pays⟩
  obtain ⟨p, hp, rfl⟩ := List.mem_map.mp hn
  exact (hsquare p hp).due

/-- Between the claims and the topics, and between batches, there is nothing to count. -/
theorem Pays.proceed (h : b.Pays c) (hc : c ≠ .claimed) (hm : c ≠ .claimConflicts) (s : OutboxSettings) :
    (b.proceed s).due c = b.due c ∧ (b.proceed s).Pays c := by
  cases b with
  | claiming rest =>
    rcases rest with (e | ⟨claimed, conflicts⟩) | ⟨op, next⟩
    · exact ⟨rfl, nofun⟩
    · exact pays_publishing s claimed
    · exact ⟨rfl, h⟩
  | publishing topics =>
    rw [Batch.proceed]
    split
    · next hended =>
      have hclaim := Deliver.square_claimDue hc hm s
      exact ⟨hclaim.due.trans (due_of_resting (b := publishing topics) hended).symm, hclaim.pays⟩
    · exact ⟨rfl, h⟩

end Batch
end Turnstile
