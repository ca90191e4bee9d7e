import Turnstile.Proofs.Outbox.Accounting

/-!
A lone outbox worker. Nobody else changes its store, the store does not fail, and the clock and the bus answer as they
like.
-/

namespace Turnstile
open scoped List

namespace OutboxMessage

/-- What a list of calls makes of a row, one after the other. -/
def afterAll (m : OutboxMessage) (calls : List OutboxCall) : OutboxMessage := calls.foldl after m

theorem afterAll_append (m : OutboxMessage) (calls calls' : List OutboxCall) :
    m.afterAll (calls ++ calls') = (m.afterAll calls).afterAll calls' := List.foldl_append

theorem content_afterAll (m : OutboxMessage) (calls : List OutboxCall) : (m.afterAll calls).content = m.content := by
  induction calls generalizing m with
  | nil => rfl
  | cons c calls ih => exact (ih (m.after c)).trans (m.content_after c)

theorem id_afterAll (m : OutboxMessage) (calls : List OutboxCall) : (m.afterAll calls).id = m.id :=
  congrArg Prod.fst (m.content_afterAll calls)

/-- A call that does not name a row leaves it as it was. -/
theorem after_of_row?_ne {m : OutboxMessage} {c : OutboxCall} (h : c.row? ≠ some m.id) : m.after c = m := by
  cases hu : m.under c with
  | none => exact after_of_none hu
  | some m' => exact absurd (row?_of_under hu) h

/-- Only the calls that name a row change it. -/
theorem afterAll_filter (m : OutboxMessage) (calls : List OutboxCall) :
    m.afterAll (calls.filter fun c => c.row? = some m.id) = m.afterAll calls := by
  induction calls generalizing m with
  | nil => rfl
  | cons c calls ih =>
    have hrest := ih (m.after c)
    rw [id_after] at hrest
    by_cases hc : c.row? = some m.id
    · rw [List.filter_cons_of_pos (by simpa using hc)]
      exact hrest
    · rw [List.filter_cons_of_neg (by simpa using hc), ih, afterAll, afterAll, List.foldl_cons, after_of_row?_ne hc]

end OutboxMessage

theorem Store.outbox_foldl_deliver {s : Store} (h : s.Numbered) (calls : List OutboxCall) :
    (calls.foldl Store.deliver s).outbox = s.outbox.map (·.afterAll calls) := by
  induction calls generalizing s with
  | nil => exact (List.map_id s.outbox).symm
  | cons c calls ih =>
    refine (ih (h.deliver c)).trans ?_
    rw [deliver_outbox h, List.map_map]
    rfl

namespace Deliver
variable {α β : Type}

/-- What follows a part that comes to a result is run where that part ends. -/
theorem exec_bind_ok {σ : Type} {answer : (c : OutboxCall) → σ → c.Reply × σ} {p : Deliver α} {f : α → Deliver β}
    {s s' : σ} {a : α} (h : p.run.exec answer s = (.ok a, s')) :
    (p >>= f).run.exec answer s = (f a).run.exec answer s' := by
  refine (Program.exec_bind answer p.run (ExceptT.bindCont f) s).trans ?_
  rw [h]
  rfl

/-- A program that comes to its result unless the store fails. -/
def Sturdy (p : Deliver α) : Prop :=
  ∀ log r, Ran p.run log r → (∀ q ∈ log, q.moment.fault = none) → ∃ a, r = .ok a

theorem sturdy_pure (a : α) : Sturdy (pure a) := by
  intro log r h _
  exact ⟨a, h.2.symm⟩

theorem Sturdy.bind {p : Deliver α} {f : α → Deliver β} (hp : Sturdy p) (hf : ∀ a, Sturdy (f a)) :
    Sturdy (p >>= f) := by
  intro log r h hfault
  obtain ⟨first, a, rest, rfl, hfirst, hrest⟩ := Ran.bind (p := p.run) h
  obtain ⟨hfault, hfault'⟩ := List.forall_mem_append.mp hfault
  obtain ⟨a, rfl⟩ := hp first a hfirst hfault
  exact hf a rest r hrest hfault'

theorem sturdy_lift (p : Program OutboxCall.Reply α) : Sturdy (lift p) := by
  intro log r h _
  obtain ⟨_, a, _, rfl, -, -, hdone⟩ := Ran.bind h
  exact ⟨a, hdone.symm⟩

theorem sturdy_claimable (limit : Nat) (now cutoff : Instant) : Sturdy (claimable limit now cutoff) := by
  rintro log r ⟨w, _, rfl, -, rfl⟩ hfault
  exact ⟨_, Moment.reply_of_faultless (hfault _ List.mem_cons_self) _⟩

theorem sturdy_tryClaim (m : MessageId) (worker : String) (now cutoff : Instant) :
    Sturdy (tryClaim m worker now cutoff) := by
  rintro log r ⟨w, _, rfl, -, rfl⟩ hfault
  exact ⟨_, Moment.reply_of_faultless (hfault _ List.mem_cons_self) _⟩

theorem sturdy_markProcessed (m : MessageId) (worker : String) (now : Instant) :
    Sturdy (markProcessed m worker now) := by
  rintro log r ⟨w, _, rfl, -, rfl⟩ hfault
  exact ⟨_, Moment.reply_of_faultless (hfault _ List.mem_cons_self) _⟩

theorem sturdy_markRetry (m : MessageId) (worker : String) (attempts : UInt32) (error : String) (next : Instant) :
    Sturdy (markRetry m worker attempts error next) := by
  rintro log r ⟨w, _, rfl, -, rfl⟩ hfault
  exact ⟨_, Moment.reply_of_faultless (hfault _ List.mem_cons_self) _⟩

theorem sturdy_markFailed (m : MessageId) (worker : String) (attempts : UInt32) (error : String) :
    Sturdy (markFailed m worker attempts error) := by
  rintro log r ⟨w, _, rfl, -, rfl⟩ hfault
  exact ⟨_, Moment.reply_of_faultless (hfault _ List.mem_cons_self) _⟩

theorem sturdy_claim (worker : String) (now cutoff : Instant) (rows : List OutboxMessage) :
    Sturdy (claim worker now cutoff rows) := by
  induction rows with
  | nil => exact sturdy_pure ([], 0)
  | cons m rest ih =>
    refine (sturdy_tryClaim _ _ _ _).bind fun got => ?_
    cases got with
    | true => exact ih.bind fun _ => sturdy_pure _
    | false => exact (sturdy_lift _).bind fun _ => ih.bind fun _ => sturdy_pure _

theorem sturdy_claimDue (s : OutboxSettings) : Sturdy (claimDue s) := by
  refine (sturdy_lift _).bind fun t => (sturdy_claimable _ _ _).bind fun rows => ?_
  refine (sturdy_claim _ _ _ rows).bind fun claimed => ?_
  exact (sturdy_lift _).bind fun _ => sturdy_pure _

theorem sturdy_settle (s : OutboxSettings) (m : OutboxMessage) (outcome : Except BusError Unit) :
    Sturdy (settle s m outcome) := by
  refine (sturdy_lift _).bind fun t => ?_
  cases outcome with
  | ok =>
    refine (sturdy_markProcessed _ _ _).bind fun kept => ?_
    cases kept with
    | true => exact (sturdy_lift _).bind fun _ => sturdy_pure _
    | false => exact sturdy_pure _
  | error e =>
    by_cases hlast : s.maxAttempts ≤ m.attempts + 1
    · simp only [if_pos hlast]
      refine (sturdy_markFailed _ _ _ _).bind fun kept => ?_
      cases kept with
      | true => exact (sturdy_lift _).bind fun _ => sturdy_pure _
      | false => exact sturdy_pure _
    · simp only [if_neg hlast]
      refine (sturdy_markRetry _ _ _ _ _).bind fun kept => ?_
      cases kept with
      | true => exact sturdy_pure _
      | false => exact sturdy_pure _

theorem sturdy_publishAll (s : OutboxSettings) (topic : String) (rows : List OutboxMessage) :
    Sturdy (publishAll s topic rows) := by
  induction rows with
  | nil => exact sturdy_pure []
  | cons m rest ih =>
    refine (sturdy_lift _).bind fun outcome => (sturdy_settle s m outcome).bind fun settlement => ?_
    exact ih.bind fun settlements => sturdy_pure _

end Deliver

/-- The calls of a worker that claims all that it has listed. -/
def Deliver.claimCalls (s : OutboxSettings) (t : Instant) (listed : List OutboxMessage) : List OutboxCall :=
  .now :: .claimable s.batchSize t (s.leaseCutoff t) ::
    (listed.map (fun m => .tryClaim m.id s.workerId t (s.leaseCutoff t)) ++ [.count .claimed listed.length])

private theorem runs_ok {s : OutboxSettings} {gs : List (String × List OutboxMessage)}
    {runs : List (List Inquiry × Stored (List Settlement))}
    (h : List.Forall₂ (fun g run => Deliver.Ran (Deliver.publishAll s g.1 g.2).run run.1 run.2) gs runs)
    (hfault : ∀ run ∈ runs, ∀ q ∈ run.1, q.moment.fault = none) :
    ∃ settlements : List (List Settlement), runs.map Prod.snd = settlements.map .ok := by
  induction h with
  | nil => exact ⟨[], rfl⟩
  | @cons g run gs runs hran _ ih =>
    obtain ⟨hrun, hruns⟩ := List.forall_mem_cons.mp hfault
    obtain ⟨first, hfirst⟩ := Deliver.sturdy_publishAll s g.1 g.2 run.1 run.2 hran hrun
    obtain ⟨others, hothers⟩ := ih hruns
    exact ⟨first :: others, by rw [List.map_cons, List.map_cons, hfirst, hothers]⟩

/-- All topics come to their results unless the store fails. -/
theorem Batch.Course.results_ok {s : OutboxSettings} {rows : List OutboxMessage} {log : List Inquiry}
    {results : List (Stored (List Settlement))}
    (h : Course (.publishing (Deliver.publishing s rows)) log (.publishing (results.map .done)))
    (hfault : ∀ q ∈ log, q.moment.fault = none) :
    ∃ settlements : List (List Settlement), results = settlements.map .ok := by
  obtain ⟨runs, hruns, rfl, hmerged⟩ := h.topics_ran
  rw [Deliver.publishing, List.forall₂_map_left_iff] at hruns
  refine runs_ok hruns fun run hrun q hq => hfault q ?_
  exact hmerged.perm_flatten.mem_iff.mpr (List.mem_flatten.mpr ⟨run.1, List.mem_map_of_mem hrun, hq⟩)

/-- The store of a lone worker, and all calls that it has made. -/
structure Solo where
  store : Store
  numbered : store.Numbered
  log : List Inquiry := []

namespace Solo
variable {α : Type} (time : Nat → Instant) (bus : Nat → Except BusError Unit)

/-- The world as the next call finds it. -/
def moment (s : Solo) : Moment where
  store := s.store
  numbered := s.numbered
  time := time s.log.length
  bus := bus s.log.length

def answer (c : OutboxCall) (s : Solo) : c.Reply × Solo :=
  ((s.moment time bus).reply c, ⟨s.store.deliver c, s.numbered.deliver c, s.log ++ [⟨c, s.moment time bus⟩]⟩)

/-- A topic makes its next call, if it has one. -/
def turn (w : List (Program OutboxCall.Reply (Stored (List Settlement))) × Solo) (k : Nat) :
    List (Program OutboxCall.Reply (Stored (List Settlement))) × Solo :=
  match w.1[k]? with
  | some (.ask c next) => (w.1.set k (next (answer time bus c w.2).1), (answer time bus c w.2).2)
  | _ => w

/-- One batch. The topics take turns in the order given, and what is left of them is done in the end. -/
def cycle (settings : OutboxSettings) (order : List Nat) (s : Solo) : Stored BatchReport × Solo :=
  match (Deliver.claimDue settings).run.exec (answer time bus) s with
  | (.error cause, s) => (.error cause, s)
  | (.ok (claimed, conflicts), s) =>
    let (topics, s) := order.foldl (turn time bus) (Deliver.publishing settings claimed, s)
    let (results, s) := (topics.mapM id).exec (answer time bus) s
    (Deliver.report claimed conflicts results, s)

/-- Without turns each topic comes to its end before the next. -/
theorem cycle_nil (settings : OutboxSettings) (s : Solo) :
    cycle time bus settings [] s = (Deliver.batch settings).run.exec (answer time bus) s := by
  refine Eq.trans ?_ (Program.exec_bind (answer time bus) (Deliver.claimDue settings).run _ s).symm
  rw [cycle]
  rcases (Deliver.claimDue settings).run.exec (answer time bus) s with ⟨cause | ⟨claimed, conflicts⟩, s'⟩
  · rfl
  · have hreport := Program.exec_bind (answer time bus) ((Deliver.publishing settings claimed).mapM id)
      (fun topics => pure (Deliver.report claimed conflicts topics)) s'
    exact hreport.symm

/-- Batch after batch. -/
def cycles (settings : OutboxSettings) (orders : Nat → List Nat) (s : Solo) : Nat → Solo
  | 0 => s
  | k + 1 => (cycle time bus settings (orders k) (cycles settings orders s k)).2

/-- From one moment to another the calls of a log were made, and the store did not fail. -/
structure Leads (s : Solo) (made : List Inquiry) (s' : Solo) : Prop where
  log : s'.log = s.log ++ made
  store : s'.store = (made.map Inquiry.call).foldl Store.deliver s.store
  faultless : ∀ q ∈ made, q.moment.fault = none

namespace Leads
variable {s s' s'' : Solo} {log log' : List Inquiry}

theorem refl (s : Solo) : s.Leads [] s := ⟨(List.append_nil _).symm, rfl, by simp⟩

theorem trans (h : s.Leads log s') (h' : s'.Leads log' s'') : s.Leads (log ++ log') s'' where
  log := by rw [h'.log, h.log, List.append_assoc]
  store := by rw [h'.store, h.store, List.map_append, List.foldl_append]
  faultless q hq := (List.mem_append.mp hq).elim (h.faultless q) (h'.faultless q)

theorem outbox (h : s.Leads log s') : s'.store.outbox = s.store.outbox.map (·.afterAll (log.map Inquiry.call)) := by
  rw [h.store]
  exact Store.outbox_foldl_deliver s.numbered _

end Leads

theorem answer_leads (c : OutboxCall) (s : Solo) :
    s.Leads [⟨c, s.moment time bus⟩] (answer time bus c s).2 := ⟨rfl, rfl, by simp [moment]⟩

theorem exec_leads (p : Program OutboxCall.Reply α) (s : Solo) : ∃ log,
    s.Leads log (p.exec (answer time bus) s).2 ∧ Deliver.Ran p log (p.exec (answer time bus) s).1 := by
  induction p generalizing s with
  | done a => exact ⟨[], .refl s, rfl, rfl⟩
  | ask c next ih =>
    obtain ⟨log, hleads, hran⟩ := ih (answer time bus c s).1 (answer time bus c s).2
    exact ⟨⟨c, s.moment time bus⟩ :: log, (answer_leads time bus c s).trans hleads, _, log, rfl, hran⟩

private theorem turns_leads (order : List Nat)
    (topics : List (Program OutboxCall.Reply (Stored (List Settlement)))) (s : Solo) : ∃ log,
      s.Leads log (order.foldl (turn time bus) (topics, s)).2 ∧
        Batch.Course (.publishing topics) log (.publishing (order.foldl (turn time bus) (topics, s)).1) := by
  induction order generalizing topics s with
  | nil => exact ⟨[], .refl s, .stop _⟩
  | cons k order ih =>
    rw [List.foldl_cons, turn]
    split
    · next c next hk =>
      obtain ⟨log, hleads, hcourse⟩ := ih (topics.set k (next (answer time bus c s).1)) (answer time bus c s).2
      have hnext : (Batch.publishing topics).next? k = some ⟨c, fun r => .publishing (topics.set k (next r))⟩ := by
        rw [Batch.next?, show topics[k]? = _ from hk]
      exact ⟨_, (answer_leads time bus c s).trans hleads, .call hnext (s.moment time bus) hcourse⟩
    · exact ih topics s

/-- Whatever turns they take, the topics come to their results. -/
theorem publish_leads (order : List Nat) (topics : List (Program OutboxCall.Reply (Stored (List Settlement))))
    (s : Solo) :
    let turned := order.foldl (turn time bus) (topics, s)
    ∃ log, s.Leads log ((turned.1.mapM id).exec (answer time bus) turned.2).2 ∧
      Batch.Course (.publishing topics) log
        (.publishing (((turned.1.mapM id).exec (answer time bus) turned.2).1.map .done)) := by
  intro turned
  obtain ⟨first, hfirst, hturns⟩ := turns_leads time bus order topics s
  obtain ⟨rest, hrest, hran⟩ := exec_leads time bus (turned.1.mapM id) turned.2
  exact ⟨first ++ rest, hfirst.trans hrest, hturns.trans (.of_ran_topics hran [])⟩

/-- A worker that is alone gets every row that it has listed. -/
theorem exec_claim (worker : String) {t cutoff : Instant} {rows : List OutboxMessage} {s : Solo}
    (hrows : ∀ m ∈ rows, m ∈ s.store.outbox ∧ m.isClaimable t cutoff = true)
    (hids : (rows.map OutboxMessage.id).Nodup) : ∃ made s',
      (Deliver.claim worker t cutoff rows).run.exec (answer time bus) s =
        (.ok (rows.map (·.claim worker t), 0), s') ∧
      s.Leads made s' ∧ made.map Inquiry.call = rows.map fun m => .tryClaim m.id worker t cutoff := by
  induction rows generalizing s with
  | nil => exact ⟨[], s, rfl, .refl s, rfl⟩
  | cons m rows ih =>
    obtain ⟨⟨hm, hdue⟩, hrest⟩ := List.forall_mem_cons.mp hrows
    obtain ⟨hnew, hids⟩ := List.nodup_cons.mp hids
    let c : OutboxCall := .tryClaim m.id worker t cutoff
    let s₁ := (answer time bus c s).2
    have hunder : m.under c = some (m.claim worker t) := by simp [c, OutboxMessage.under, hdue]
    have hgrants : s.store.grants c = true := (Store.grants_iff s.numbered c).mpr ⟨m, hm, by rw [hunder]; rfl⟩
    have hreply : (answer time bus c s).1 = .ok true := congrArg Except.ok hgrants
    have hstill : ∀ x ∈ rows, x ∈ s₁.store.outbox ∧ x.isClaimable t cutoff = true := by
      intro x hx
      have hother : x.after c = x := by
        refine OutboxMessage.after_of_row?_ne fun hid => hnew ?_
        exact Option.some.inj hid ▸ List.mem_map_of_mem hx
      exact ⟨(Store.mem_deliver s.numbered).mpr ⟨x, (hrest x hx).1, hother⟩, (hrest x hx).2⟩
    obtain ⟨made, s', hexec, hleads, hcalls⟩ := ih hstill hids
    refine ⟨⟨c, s.moment time bus⟩ :: made, s', ?_, (answer_leads time bus c s).trans hleads, ?_⟩
    · have hgot : (Deliver.tryClaim m.id worker t cutoff).run.exec (answer time bus) s = (.ok true, s₁) :=
        Prod.ext hreply rfl
      exact (Deliver.exec_bind_ok hgot).trans (Deliver.exec_bind_ok hexec)
    · rw [List.map_cons, List.map_cons, hcalls]

/-- A lone worker claims all that is due, up to the size of a batch. -/
theorem exec_claimDue (settings : OutboxSettings) (s : Solo) :
    let t := time s.log.length
    let listed := settings.listed (s.moment time bus) t
    ∃ made s', (Deliver.claimDue settings).run.exec (answer time bus) s =
        (.ok (listed.map (·.claim settings.workerId t), 0), s') ∧ s.Leads made s' ∧
      made.map Inquiry.call = Deliver.claimCalls settings t listed := by
  intro t listed
  have hold : s.store.Oldest settings.batchSize t (settings.leaseCutoff t) listed := Store.oldest_claimable s.numbered
  let s₁ := (answer time bus .now s).2
  let s₂ := (answer time bus (.claimable settings.batchSize t (settings.leaseCutoff t)) s₁).2
  obtain ⟨made, s₃, hexec, hleads, hcalls⟩ := exec_claim time bus settings.workerId (s := s₂) hold.claimable hold.ids
  let n := (listed.map (·.claim settings.workerId t)).length
  have hread : (Deliver.now).run.exec (answer time bus) s = (.ok t, s₁) := rfl
  have hlisted : (Deliver.claimable settings.batchSize t (settings.leaseCutoff t)).run.exec (answer time bus) s₁ =
      (.ok listed, s₂) := rfl
  have hstart := (answer_leads time bus .now s).trans
    (answer_leads time bus (.claimable settings.batchSize t (settings.leaseCutoff t)) s₁)
  refine ⟨_, (answer time bus (.count .claimed n) s₃).2, ?_,
    (hstart.trans hleads).trans (answer_leads time bus (.count .claimed n) s₃), ?_⟩
  · refine (Deliver.exec_bind_ok hread).trans ((Deliver.exec_bind_ok hlisted).trans ?_)
    exact (Deliver.exec_bind_ok hexec).trans rfl
  · rw [List.map_append, List.map_append, hcalls, Deliver.claimCalls, ← List.length_map (·.claim settings.workerId t)]
    rfl

end Solo
end Turnstile
