import Turnstile.Proofs.Outbox.Hold

/-!
What the log of all calls tells of the rows: which came to their end, and that what a worker wrote down it had
been told by the bus.
-/

namespace Turnstile
variable {ι : Type}

/-- The status of a row of which this has become. -/
def Deed.status : Deed → OutboxStatus
  | claimed => .processing
  | processed => .processed
  | retried _ => .pending
  | failed => .failed

/-- Nothing more becomes of a row. -/
def OutboxMessage.Ended (m : OutboxMessage) : Prop := m.status = .processed ∨ m.status = .failed

namespace Store
variable {s : Store} {m m' : OutboxMessage} {c : OutboxCall}

private theorem row?_of_deed? {id : MessageId} {deed : Deed} (h : c.deed? = some (id, deed)) : c.row? = some id := by
  cases c <;> simp_all [OutboxCall.deed?, OutboxCall.row?]

/-- The call on a row that is there does what it says if the row allows it. -/
theorem grants_row (h : s.Numbered) (hm : m ∈ s.outbox) (hc : c.row? = some m.id) :
    s.grants c = (m.under c).isSome := by
  rw [Bool.eq_iff_iff, grants_iff h c]
  constructor
  · rintro ⟨row, hrow, hsome⟩
    obtain ⟨row', hrow'⟩ := Option.isSome_iff_exists.mp hsome
    have hid : row.id = m.id := Option.some_inj.mp ((OutboxMessage.row?_of_under hrow').symm.trans hc)
    rwa [← h.eq_of_id hrow hm hid]
  · exact fun hsome => ⟨m, hm, hsome⟩

/-- Who gets a row by a claim finds it there and due. -/
theorem row_of_tryClaim (h : s.Numbered) {id : MessageId} {worker : String} {t cutoff : Instant}
    (hg : s.grants (.tryClaim id worker t cutoff) = true) :
    ∃ row ∈ s.outbox, row.id = id ∧ row.isClaimable t cutoff = true := by
  obtain ⟨row, hrow, hsome⟩ := (grants_iff h _).mp hg
  simp only [OutboxMessage.under, Option.isSome_ite] at hsome
  exact ⟨row, hrow, hsome⟩

theorem after_of_tryClaim (h : s.Numbered) (hm : m ∈ s.outbox) {worker : String} {t cutoff : Instant}
    (hg : s.grants (.tryClaim m.id worker t cutoff) = true) :
    m.isClaimable t cutoff = true ∧ m.after (.tryClaim m.id worker t cutoff) = m.claim worker t := by
  rw [grants_row h hm rfl] at hg
  simp only [OutboxMessage.under, Option.isSome_ite] at hg
  refine ⟨hg.2, ?_⟩
  simp only [OutboxMessage.after, OutboxMessage.under, if_pos hg, Option.getD_some]

variable {i : ι} {now : Instant} {bus : Except BusError Unit}

theorem granted_exchange : (s.exchange i now bus c).granted = s.grants c := by
  cases c <;> rfl

theorem call_of_claims {id : MessageId} (h : (s.exchange i now bus c).claims id = true) :
    ∃ worker t cutoff, c = .tryClaim id worker t cutoff ∧ s.grants (.tryClaim id worker t cutoff) = true := by
  have hdeed := of_decide_eq_true h
  rw [Exchange.deed?, granted_exchange] at hdeed
  split at hdeed
  · next hgrants =>
    change c.deed? = _ at hdeed
    cases c <;> cases hdeed
    exact ⟨_, _, _, rfl, hgrants⟩
  · cases hdeed

theorem claims_of_grants {id : MessageId} {worker : String} {t cutoff : Instant}
    (hg : s.grants (.tryClaim id worker t cutoff) = true) :
    (s.exchange i now bus (.tryClaim id worker t cutoff)).claims id = true := by
  rw [Exchange.claims, Exchange.deed?, granted_exchange, if_pos hg]
  exact decide_eq_true rfl

theorem deed?_of_under (h : s.Numbered) (hm : m ∈ s.outbox) (hu : m.under c = some m') :
    (s.exchange i now bus c).deed? = c.deed? := by
  have hgrants : s.grants c = true := (grants_iff h c).mpr ⟨m, hm, Option.isSome_iff_exists.mpr ⟨m', hu⟩⟩
  rw [Exchange.deed?, granted_exchange, hgrants, if_pos rfl]
  rfl

theorem deed?_of_none (h : s.Numbered) (hm : m ∈ s.outbox) (hu : m.under c = none) (deed : Deed) :
    (s.exchange i now bus c).deed? ≠ some (m.id, deed) := by
  intro hdeed
  rw [Exchange.deed?, granted_exchange] at hdeed
  split at hdeed
  · next hgrants =>
    have hnames : c.row? = some m.id := row?_of_deed? hdeed
    rw [grants_row h hm hnames, hu] at hgrants
    exact Bool.noConfusion hgrants
  · cases hdeed

/-- Only rows that are there change. -/
theorem row_of_deed? (h : s.Numbered) {id : MessageId} {deed : Deed}
    (hdeed : (s.exchange i now bus c).deed? = some (id, deed)) : ∃ row ∈ s.outbox, row.id = id := by
  rw [Exchange.deed?, granted_exchange] at hdeed
  split at hdeed
  · next hgrants =>
    obtain ⟨row, hrow, hsome⟩ := (grants_iff h c).mp hgrants
    obtain ⟨row', hrow'⟩ := Option.isSome_iff_exists.mp hsome
    have hid := (OutboxMessage.row?_of_under hrow').symm.trans (row?_of_deed? hdeed)
    exact ⟨row, hrow, Option.some_inj.mp hid⟩
  · cases hdeed

/-- An entry of the log tells of a row what the call has made of it. -/
theorem deed_cases (h : s.Numbered) (hm : m ∈ s.outbox) (i : ι) (now : Instant) (bus : Except BusError Unit)
    (c : OutboxCall) :
    (m.after c = m ∧ ∀ d, (s.exchange i now bus c).deed? ≠ some (m.id, d)) ∨
      ∃ d, (s.exchange i now bus c).deed? = some (m.id, d) ∧ ¬ m.Ended ∧ (m.after c).status = d.status := by
  cases hu : m.under c with
  | none => exact .inl ⟨OutboxMessage.after_of_none hu, deed?_of_none h hm hu⟩
  | some m' =>
    rw [deed?_of_under h hm hu, OutboxMessage.after_of_under hu]
    right
    rcases OutboxMessage.under_cases hu with ⟨_, _, _, rfl, hclaim, rfl⟩ |
      ⟨_, hs, -, ⟨_, rfl, rfl⟩ | ⟨_, _, _, rfl, rfl⟩ | ⟨_, _, rfl, rfl⟩⟩
    · refine ⟨_, rfl, ?_, rfl⟩
      rcases OutboxMessage.isClaimable_iff.mp hclaim with ⟨hs, -⟩ | ⟨hs, -⟩ <;> simp [OutboxMessage.Ended, hs]
    all_goals exact ⟨_, rfl, by simp [OutboxMessage.Ended, hs], rfl⟩

/-- A row is processed if it was, or if the call just made has processed it. -/
theorem processed_after_iff (h : s.Numbered) (hm : m ∈ s.outbox) (i : ι) (now : Instant) (bus : Except BusError Unit)
    (c : OutboxCall) : (m.after c).status = .processed ↔
    m.status = .processed ∨ (s.exchange i now bus c).processes m.id = true := by
  rcases deed_cases h hm i now bus c with ⟨hsame, hnone⟩ | ⟨d, hd, hopen, hstatus⟩
  · simp [hsame, Exchange.processes, hnone]
  · have hold : m.status ≠ .processed := fun hs => hopen (.inl hs)
    rw [Exchange.processes, hd, hstatus]
    cases d <;> simp [Deed.status, hold]

/-- A row is at its end if it was, or if the call just made has brought it there. -/
theorem ended_after_iff (h : s.Numbered) (hm : m ∈ s.outbox) (i : ι) (now : Instant) (bus : Except BusError Unit)
    (c : OutboxCall) :
    (m.after c).Ended ↔ m.Ended ∨ (s.exchange i now bus c).finishes m.id = true := by
  rcases deed_cases h hm i now bus c with ⟨hsame, hnone⟩ | ⟨d, hd, hopen, hstatus⟩
  · simp [hsame, Exchange.finishes, Exchange.processes, Exchange.fails, hnone]
  · rw [Exchange.finishes, Exchange.processes, Exchange.fails, hd, OutboxMessage.Ended, hstatus]
    cases d <;> simp [Deed.status, hopen]

end Store

namespace Exchange
variable {log before after : List (Exchange ι)} {e x : Exchange ι}

theorem call_of_deed? {y : MessageId × Deed} (h : e.deed? = some y) : e.call.deed? = some y := by
  unfold deed? at h
  split at h
  · exact h
  · cases h

theorem call_of_processes {id : MessageId} (h : e.processes id = true) :
    ∃ worker now, e.call = .markProcessed id worker now := by
  have hdeed := call_of_deed? (of_decide_eq_true h)
  cases hc : e.call <;> rw [hc] at hdeed <;> cases hdeed
  exact ⟨_, _, rfl⟩

/-- An entry of a log to which one was added is the new one, or was there before. -/
theorem split_concat (h : log ++ [x] = before ++ e :: after) :
    before = log ∧ e = x ∧ after = [] ∨ ∃ after', after = after' ++ [x] ∧ log = before ++ e :: after' := by
  rcases List.eq_nil_or_concat after with rfl | ⟨after', y, rfl⟩
  · obtain ⟨hlog, hx⟩ := List.append_inj' h rfl
    exact .inl ⟨hlog.symm, (List.head_eq_of_cons_eq hx).symm, rfl⟩
  · rw [List.concat_eq_append] at h ⊢
    rw [← List.cons_append, ← List.append_assoc] at h
    obtain ⟨hlog, hx⟩ := List.append_inj' h rfl
    obtain rfl := List.head_eq_of_cons_eq hx
    exact .inr ⟨after', rfl, hlog⟩

/-- A row was handed to the bus by a worker that has not settled it since. -/
def AtBus (log : List (Exchange ι)) (i : ι) (o : OutboxMessage × Except BusError Unit) : Prop :=
  ∃ before time after, log = before ++ ⟨i, time, .publish o.1.messageType o.1, o.2⟩ :: after ∧
    ∀ x ∈ after, x.worker = i → x.settles o.1.id = false

theorem AtBus.concat {i : ι} {o : OutboxMessage × Except BusError Unit} (h : AtBus log i o)
    (hx : x.worker = i → x.settles o.1.id = false) : AtBus (log ++ [x]) i o := by
  obtain ⟨before, time, after, rfl, hafter⟩ := h
  refine ⟨before, time, after ++ [x], ?_, ?_⟩
  · rw [List.append_assoc, List.cons_append]
  · intro y hy hworker
    rcases List.mem_append.mp hy with hy | hy
    · exact hafter y hy hworker
    · obtain rfl := List.mem_singleton.mp hy
      exact hx hworker

theorem settles_eq_false {id : MessageId} (h : ∀ y, e.call.settled? = some y → y.1 ≠ id) : e.settles id = false := by
  unfold settles
  cases hy : e.call.settled? with
  | none => rfl
  | some y => simpa using h y hy

end Exchange

namespace Scene
variable {sc sc' : Scene ι} {origin : List (MessageId × String × Json × Instant)}

/-- What is with the bus was handed over and not settled since. What is written down of a row is what has
become of it, and nothing is marked as processed that the bus had not taken from the same worker. -/
structure Recorded (sc : Scene ι) : Prop where
  offered : ∀ i, ∀ o ∈ (sc.errands i).offered, Exchange.AtBus sc.log i o
  processed : ∀ row ∈ sc.store.outbox, row.status = .processed ↔ ∃ e ∈ sc.log, e.processes row.id = true
  ended : ∀ row ∈ sc.store.outbox, row.Ended ↔ ∃ e ∈ sc.log, e.finishes row.id = true
  published : ∀ row ∈ sc.store.outbox, ∀ before e after, sc.log = before ++ e :: after → e.processes row.id = true →
    ∃ p ∈ before, p.worker = e.worker ∧
      ∃ m, p.accepted? = some (row.messageType, m) ∧ m.id = row.id ∧ m.payload = row.payload

theorem recorded_start {store : Store} (hpending : ∀ row ∈ store.outbox, row.status = .pending)
    (settings : ι → OutboxSettings) (clock : Instant) :
    Recorded { settings, store, clock, errands := fun _ => .publishing [], log := [] } where
  offered i o ho := by cases ho
  processed row hrow := by simp [hpending row hrow]
  ended row hrow := by simp [OutboxMessage.Ended, hpending row hrow]
  published row hrow before e after hlog := by simp at hlog

/-- A worker that marks a row as processed has had it taken by the bus. -/
private theorem Recorded.taken (h : sc.Recorded) (hsound : sc.Sound origin) {i : ι} {bus : Except BusError Unit}
    {c : OutboxCall} {e : Errand} (hn : (sc.errands i).Next (sc.settings i) sc.store sc.clock bus c e)
    {row : OutboxMessage} (hrow : row ∈ sc.store.outbox)
    (hx : (sc.store.exchange i sc.clock bus c).processes row.id = true) :
    ∃ p ∈ sc.log, p.worker = i ∧ ∃ m, p.accepted? = some (row.messageType, m) ∧ m.id = row.id ∧
      m.payload = row.payload := by
  obtain ⟨worker, t, hcall⟩ := Exchange.call_of_processes hx
  obtain rfl : c = .markProcessed row.id worker t := hcall
  obtain ⟨⟨m, outcome⟩, ho, hsettle, hids⟩ := hn.of_settled rfl
  have hid : row.id = m.id := congrArg Prod.fst hids
  have hcopy := hsound.content_eq (List.mem_append_left _ (Errand.held_of_offered ho)) hrow hid
  simp only [OutboxMessage.content, Prod.mk.injEq] at hcopy
  obtain ⟨before, time, after, hlog, -⟩ := h.offered i _ ho
  cases outcome with
  | error => cases hsettle
  | ok =>
    refine ⟨_, hlog ▸ List.mem_append_right _ List.mem_cons_self, rfl, m, ?_, hid.symm, hcopy.2.2.1.symm⟩
    rw [hcopy.2.1]
    rfl

theorem Recorded.step [DecidableEq ι] (h : sc.Recorded) (hsound : sc.Sound origin) (hs : Step sc sc') :
    sc'.Recorded := by
  cases hs with
  | tick => exact ⟨h.offered, h.processed, h.ended, h.published⟩
  | proceed i hp =>
    refine ⟨fun j o ho => ?_, h.processed, h.ended, h.published⟩
    rw [(hp.all j).offered] at ho
    exact h.offered j o ho
  | @call i bus c e hn =>
    refine ⟨fun j o ho => ?_, fun row hrow => ?_, fun row hrow => ?_, fun row hrow before x after hlog hx => ?_⟩
    · by_cases hj : j = i
      · subst hj
        simp only [Function.update_self] at ho
        rcases hn.offered_cases (hsound.errands j).nodup_held ho with ⟨ho, hkept⟩ | ⟨rfl, rfl⟩
        · exact (h.offered j o ho).concat fun _ => Exchange.settles_eq_false hkept
        · exact ⟨sc.log, sc.clock, [], rfl, by simp⟩
      · simp only [Function.update_of_ne hj] at ho
        exact (h.offered j o ho).concat fun hworker => absurd hworker.symm hj
    · obtain ⟨row₀, hrow₀, rfl⟩ := (Store.mem_deliver hsound.numbered).mp hrow
      rw [OutboxMessage.id_after, Store.processed_after_iff hsound.numbered hrow₀ i sc.clock bus,
        h.processed row₀ hrow₀]
      simp [or_and_right, exists_or]
    · obtain ⟨row₀, hrow₀, rfl⟩ := (Store.mem_deliver hsound.numbered).mp hrow
      rw [OutboxMessage.id_after, Store.ended_after_iff hsound.numbered hrow₀ i sc.clock bus, h.ended row₀ hrow₀]
      simp [or_and_right, exists_or]
    · obtain ⟨row₀, hrow₀, rfl⟩ := (Store.mem_deliver hsound.numbered).mp hrow
      rw [OutboxMessage.id_after] at hx
      simp only [OutboxMessage.id_after, OutboxMessage.messageType_after, OutboxMessage.payload_after]
      rcases Exchange.split_concat hlog with ⟨rfl, rfl, -⟩ | ⟨after', rfl, hlog'⟩
      · exact h.taken hsound hn hrow₀ hx
      · exact h.published row₀ hrow₀ before x after' hlog' hx

end Scene

end Turnstile
