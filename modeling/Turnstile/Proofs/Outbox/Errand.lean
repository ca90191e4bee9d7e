import Turnstile.Proofs.Outbox.Fleet

/-!
What the program of a worker does next, said without the program: which rows it has claimed, which it will try
to claim, and which it has handed to the bus and must settle.
-/

namespace Turnstile

/-- The rows of one topic: the one that was handed to the bus and is not settled, with what the bus said, and
those still to be handed over. -/
structure Desk where
  offered : Option (OutboxMessage × Except BusError Unit) := none
  rows : List OutboxMessage

inductive Errand where
  | reading
  | listing (now : Instant)
  | claiming (now : Instant) (taken todo : List OutboxMessage)
  | publishing (desks : List Desk)

/-- The calls that settle a row by what the bus said. -/
inductive Settlement.Call (s : OutboxSettings) (m : OutboxMessage) : Except BusError Unit → OutboxCall → Prop
  | processed (now : Instant) : Call s m (.ok ()) (.markProcessed m.id s.workerId now)
  | failed {e : BusError} (h : s.maxAttempts ≤ m.attempts + 1) :
    Call s m (.error e) (.markFailed m.id s.workerId (m.attempts + 1) e.message)
  | retried {e : BusError} (h : m.attempts + 1 < s.maxAttempts) (next : Instant) :
    Call s m (.error e) (.markRetry m.id s.workerId (m.attempts + 1) e.message next)

namespace Settlement.Call
variable {s : OutboxSettings} {m : OutboxMessage} {outcome : Except BusError Unit} {id : MessageId}
  {worker error : String} {attempts : UInt32}

theorem of_markRetry {next : Instant} (h : Call s m outcome (.markRetry id worker attempts error next)) :
    attempts = m.attempts + 1 ∧ m.attempts + 1 < s.maxAttempts := by
  cases h with
  | retried h => exact ⟨rfl, h⟩

theorem of_markFailed (h : Call s m outcome (.markFailed id worker attempts error)) : attempts = m.attempts + 1 := by
  cases h with
  | failed => rfl

end Settlement.Call

namespace Errand

/-- A call and what is to be done after it, on a store that answers it. -/
inductive Next (s : OutboxSettings) (store : Store) (now : Instant) (bus : Except BusError Unit) :
    Errand → OutboxCall → Errand → Prop
  | count (e : Errand) (counter : Counter) (n : Nat) : Next s store now bus e (.count counter n) e
  | read : Next s store now bus .reading .now (.listing now)
  | list (t : Instant) : Next s store now bus (.listing t) (.claimable s.batchSize t (s.leaseCutoff t))
    (.claiming t [] (store.claimable s.batchSize t (s.leaseCutoff t)))
  | claim {t : Instant} {taken todo : List OutboxMessage} {m : OutboxMessage}
    (h : store.grants (.tryClaim m.id s.workerId t (s.leaseCutoff t)) = true) :
    Next s store now bus (.claiming t taken (m :: todo)) (.tryClaim m.id s.workerId t (s.leaseCutoff t))
      (.claiming t (taken ++ [m.claim s.workerId t]) todo)
  | miss {t : Instant} {taken todo : List OutboxMessage} {m : OutboxMessage}
    (h : store.grants (.tryClaim m.id s.workerId t (s.leaseCutoff t)) = false) :
    Next s store now bus (.claiming t taken (m :: todo)) (.tryClaim m.id s.workerId t (s.leaseCutoff t))
      (.claiming t taken todo)
  | offer (pre post : List Desk) (m : OutboxMessage) (rows : List OutboxMessage) :
    Next s store now bus (.publishing (pre ++ ⟨none, m :: rows⟩ :: post)) (.publish m.messageType m)
      (.publishing (pre ++ ⟨some (m, bus), rows⟩ :: post))
  | glance (desks : List Desk) : Next s store now bus (.publishing desks) .now (.publishing desks)
  | settle (pre post : List Desk) {m : OutboxMessage} {outcome : Except BusError Unit} {c : OutboxCall}
    (h : Settlement.Call s m outcome c) (rows : List OutboxMessage) :
    Next s store now bus (.publishing (pre ++ ⟨some (m, outcome), rows⟩ :: post)) c
      (.publishing (pre ++ ⟨none, rows⟩ :: post))

/-- How a worker goes on when it has no call to make. -/
inductive Proceeds : Errand → Errand → Prop
  | stay (e : Errand) : Proceeds e e
  | publish (t : Instant) (taken : List OutboxMessage) :
    Proceeds (.claiming t taken []) (.publishing ((Deliver.groups taken).map fun g => ⟨none, g.2⟩))
  | begin {desks : List Desk} (h : ∀ d ∈ desks, d = ⟨none, []⟩) : Proceeds (.publishing desks) .reading

end Errand

namespace Deliver
variable {s : OutboxSettings}

/-- A program that claims rows stands at an errand: each of its calls is one of the errand's. -/
inductive Claims (s : OutboxSettings) :
    Errand → Program OutboxCall.Reply (Stored (List OutboxMessage × Nat)) → Prop
  | read {next : Instant → Program OutboxCall.Reply (Stored (List OutboxMessage × Nat))}
    (h : ∀ t, Claims s (.listing t) (next t)) : Claims s .reading (.ask .now next)
  | list {t : Instant}
    {next : Stored (List OutboxMessage) → Program OutboxCall.Reply (Stored (List OutboxMessage × Nat))}
    (h : ∀ rows, Claims s (.claiming t [] rows) (next (.ok rows))) :
    Claims s (.listing t) (.ask (.claimable s.batchSize t (s.leaseCutoff t)) next)
  | claim {t : Instant} {taken todo : List OutboxMessage} {m : OutboxMessage}
    {next : Stored Bool → Program OutboxCall.Reply (Stored (List OutboxMessage × Nat))}
    (hgot : Claims s (.claiming t (taken ++ [m.claim s.workerId t]) todo) (next (.ok true)))
    (hmissed : Claims s (.claiming t taken todo) (next (.ok false))) :
    Claims s (.claiming t taken (m :: todo)) (.ask (.tryClaim m.id s.workerId t (s.leaseCutoff t)) next)
  | count {e : Errand} {counter : Counter} {n : Nat}
    {next : Unit → Program OutboxCall.Reply (Stored (List OutboxMessage × Nat))}
    (h : Claims s e (next ())) : Claims s e (.ask (.count counter n) next)
  | done (t : Instant) (taken : List OutboxMessage) (n : Nat) :
    Claims s (.claiming t taken []) (.done (.ok (taken, n)))

private theorem claims_claim {t : Instant} (rows : List OutboxMessage) {taken : List OutboxMessage}
    {k : Stored (List OutboxMessage × Nat) → Program OutboxCall.Reply (Stored (List OutboxMessage × Nat))}
    (h : ∀ more n, Claims s (.claiming t (taken ++ more) []) (k (.ok (more, n)))) :
    Claims s (.claiming t taken rows) ((claim s.workerId t (s.leaseCutoff t) rows).run.bind k) := by
  induction rows generalizing taken k with
  | nil =>
    have hdone := h [] 0
    rw [List.append_nil] at hdone
    exact hdone
  | cons m rest ih =>
    refine .claim ?_ (.count ?_)
    · change Claims s _ (((claim s.workerId t (s.leaseCutoff t) rest).run.bind _).bind k)
      rw [Program.bind_assoc]
      refine ih fun more n => ?_
      rw [List.append_assoc]
      exact h (m.claim s.workerId t :: more) n
    · change Claims s _ (((claim s.workerId t (s.leaseCutoff t) rest).run.bind _).bind k)
      rw [Program.bind_assoc]
      exact ih fun more n => h more (n + 1)

theorem claims_claimDue (s : OutboxSettings) : Claims s .reading (claimDue s).run := by
  refine .read fun t => .list fun rows => ?_
  exact claims_claim rows fun more n => .count (.done t more n)

/-- A program that publishes the rows of a topic stands at a desk. -/
inductive Delivers (s : OutboxSettings) : Desk → Program OutboxCall.Reply (Stored (List Settlement)) → Prop
  | offer {m : OutboxMessage} {rows : List OutboxMessage}
    {next : Except BusError Unit → Program OutboxCall.Reply (Stored (List Settlement))}
    (h : ∀ outcome, Delivers s ⟨some (m, outcome), rows⟩ (next outcome)) :
    Delivers s ⟨none, m :: rows⟩ (.ask (.publish m.messageType m) next)
  | glance {d : Desk} {next : Instant → Program OutboxCall.Reply (Stored (List Settlement))}
    (h : ∀ t, Delivers s d (next t)) : Delivers s d (.ask .now next)
  | settle {m : OutboxMessage} {outcome : Except BusError Unit} {rows : List OutboxMessage} {c : OutboxCall}
    {next : c.Reply → Program OutboxCall.Reply (Stored (List Settlement))} (hc : Settlement.Call s m outcome c)
    (h : ∀ (store : Store) t bus, Delivers s ⟨none, rows⟩ (next (store.reply t bus c))) :
    Delivers s ⟨some (m, outcome), rows⟩ (.ask c next)
  | count {d : Desk} {counter : Counter} {n : Nat}
    {next : Unit → Program OutboxCall.Reply (Stored (List Settlement))}
    (h : Delivers s d (next ())) : Delivers s d (.ask (.count counter n) next)
  | done (r : Stored (List Settlement)) : Delivers s ⟨none, []⟩ (.done r)

private theorem delivers_settle {m : OutboxMessage} {outcome : Except BusError Unit} {rows : List OutboxMessage}
    {k : Stored Settlement → Program OutboxCall.Reply (Stored (List Settlement))}
    (h : ∀ settlement, Delivers s ⟨none, rows⟩ (k (.ok settlement))) :
    Delivers s ⟨some (m, outcome), rows⟩ ((settle s m outcome).run.bind k) := by
  unfold settle
  refine .glance fun t => ?_
  cases outcome with
  | ok =>
    refine .settle (.processed t) fun store t bus => ?_
    dsimp only [Store.reply]
    cases (store.markProcessed m.id s.workerId _).1 with
    | true => exact .count (h .published)
    | false => exact h .lost
  | error e =>
    by_cases hlast : s.maxAttempts ≤ m.attempts + 1
    · simp only [if_pos hlast]
      refine .settle (.failed hlast) fun store t bus => ?_
      dsimp only [Store.reply]
      cases (store.markFailed m.id s.workerId _ _).1 with
      | true => exact .count (h .failed)
      | false => exact h .lost
    · simp only [if_neg hlast]
      refine .settle (.retried (UInt32.not_le.mp hlast) _) fun store t bus => ?_
      dsimp only [Store.reply]
      cases (store.markRetry m.id s.workerId _ _ _).1 with
      | true => exact h .retried
      | false => exact h .lost

theorem delivers_publishAll {topic : String} {rows : List OutboxMessage} (htopic : ∀ m ∈ rows, m.messageType = topic)
    {k : Stored (List Settlement) → Program OutboxCall.Reply (Stored (List Settlement))}
    (hk : ∀ r, Delivers s ⟨none, []⟩ (k r)) :
    Delivers s ⟨none, rows⟩ ((publishAll s topic rows).run.bind k) := by
  induction rows generalizing k with
  | nil => exact hk _
  | cons m rest ih =>
    obtain ⟨rfl, hrest⟩ := List.forall_mem_cons.mp htopic
    refine .offer fun outcome => ?_
    change Delivers s _ (((settle s m outcome).run.bind _).bind k)
    rw [Program.bind_assoc]
    refine delivers_settle fun settlement => ?_
    change Delivers s _ (((publishAll s m.messageType rest).run.bind _).bind k)
    rw [Program.bind_assoc]
    refine ih hrest fun r => ?_
    cases r with
    | ok settlements => exact hk (.ok (settlement :: settlements))
    | error e => exact hk (.error e)

end Deliver

end Turnstile
