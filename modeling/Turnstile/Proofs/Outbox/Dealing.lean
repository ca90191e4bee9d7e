import Turnstile.Proofs.Outbox.Course
import Turnstile.Proofs.Outbox.Evidence

/-!
What a worker makes of a row that it has claimed: it hands the row to the bus once, and settles it by what the bus said
unless the row has gone to another worker.
-/

namespace Turnstile
open scoped List

namespace OutboxCall

/-- What the store said about a change of a row. -/
def verdict? : (c : OutboxCall) → c.Reply → Option Bool
  | .tryClaim _ _ _ _, .ok b | .markProcessed _ _ _, .ok b | .markRetry _ _ _ _ _, .ok b | .markFailed _ _ _ _, .ok b =>
    some b
  | _, _ => none

/-- What is handed to the bus, and under which topic. -/
def offer? : OutboxCall → Option (String × OutboxMessage)
  | .publish topic m => some (topic, m)
  | _ => none

end OutboxCall

namespace Inquiry

/-- The store did what the call was to do. -/
def granted (q : Inquiry) : Bool := q.call.verdict? (q.moment.reply q.call) = some true

/-- The row that the call is to claim. -/
def tried? (q : Inquiry) : Option MessageId :=
  match q.call with
  | .tryClaim m _ _ _ => some m
  | _ => none

/-- The row that the call has claimed. -/
def claimed? (q : Inquiry) : Option MessageId := if q.granted then q.tried? else none

def lists (q : Inquiry) : Bool := q.call.lists

def offers (q : Inquiry) : Bool := q.call.offer?.isSome

def settles (q : Inquiry) : Bool := q.call.settled?.isSome

/-- The call neither lists rows, nor hands one over, nor settles one. -/
structure Aside (q : Inquiry) : Prop where
  lists : q.lists = false
  offers : q.offers = false
  settles : q.settles = false

/-- Only calls that hand something over say what. -/
theorem filterMap_filter_offers (log : List Inquiry) :
    (log.filter offers).filterMap (fun q => q.call.offer?) = log.filterMap fun q => q.call.offer? := by
  rw [List.filterMap_filter]
  refine List.filterMap_congr fun q _ => ?_
  cases h : q.call.offer? <;> simp [offers, h]

theorem claimed?_eq_none {q : Inquiry} (h : q.tried? = none) : q.claimed? = none := by
  rw [claimed?, h, ite_self]

theorem filter_of_aside {log : List Inquiry} (h : ∀ q ∈ log, q.Aside) :
    log.filter lists = [] ∧ log.filter offers = [] ∧ log.filter settles = [] := by
  refine ⟨?_, ?_, ?_⟩ <;> refine List.filter_eq_nil_iff.mpr fun q hq => Bool.eq_false_iff.mp ?_
  · exact (h q hq).lists
  · exact (h q hq).offers
  · exact (h q hq).settles

end Inquiry

theorem Moment.grants_of_verdict? {w : Moment} {c : OutboxCall} {b : Bool} (h : c.verdict? (w.reply c) = some b) :
    w.store.grants c = b := by
  cases hf : w.fault with
  | none =>
    rw [Moment.reply, hf] at h
    cases c <;> simp_all [OutboxCall.verdict?, Store.reply, Store.grants]
  | some cause =>
    rw [Moment.reply, hf] at h
    cases c <;> simp [OutboxCall.verdict?, OutboxCall.refusal?] at h

theorem Moment.reply_of_faultless {w : Moment} (h : w.fault = none) (c : OutboxCall) :
    w.reply c = w.store.reply w.time w.bus c := by
  rw [Moment.reply, h]
  rfl

theorem Moment.reply_publish (w : Moment) (topic : String) (m : OutboxMessage) :
    w.reply (.publish topic m) = w.bus := by
  cases hf : w.fault <;> rw [Moment.reply, hf] <;> rfl

theorem Moment.eq_claimable {w : Moment} {limit : Nat} {now cutoff : Instant} {rows : List OutboxMessage}
    (h : w.reply (.claimable limit now cutoff) = .ok rows) : w.store.claimable limit now cutoff = rows := by
  cases hf : w.fault with
  | none =>
    rw [Moment.reply, hf] at h
    exact Except.ok.inj h
  | some cause =>
    rw [Moment.reply, hf] at h
    cases h

/-- The status in which a settlement leaves a row, unless the row was lost. -/
def Settlement.status? : Settlement → Option OutboxStatus
  | .published => some .processed
  | .retried => some .pending
  | .failed => some .failed
  | .lost => none

/-- The row that was settled was in processing for the worker, and is left as the settlement says. One that was lost
was not the worker's any more, and is left alone. -/
structure Inquiry.Ends (q : Inquiry) (id : MessageId) (worker : String) (settlement : Settlement) : Prop where
  kept : ∀ status, settlement.status? = some status → ∃ row ∈ q.moment.store.outbox, row.id = id ∧
    row.status = .processing ∧ row.claimedBy = some worker ∧
    row.after q.call ∈ (q.moment.store.deliver q.call).outbox ∧ (row.after q.call).status = status
  lost : settlement.status? = none → q.moment.store.deliver q.call = q.moment.store ∧
    ∀ row ∈ q.moment.store.outbox, row.id = id → row.isClaimedBy worker = false

/-- The row is left in the status that the call is to give it. -/
theorem OutboxMessage.status_of_under {m m' : OutboxMessage} {c : OutboxCall} (h : m.under c = some m')
    {id : MessageId} {deed : Deed} (hd : c.deed? = some (id, deed)) : m'.status = deed.status := by
  rcases under_cases h with ⟨_, _, _, rfl, -, rfl⟩ |
    ⟨_, -, -, ⟨_, rfl, rfl⟩ | ⟨_, _, _, rfl, rfl⟩ | ⟨_, _, rfl, rfl⟩⟩ <;> cases hd <;> rfl

/-- What was made of a claimed row: the call that handed it over, the call that settled it, and the outcome. -/
structure Dealing where
  row : OutboxMessage
  offer : Inquiry
  settling : Inquiry
  settlement : Settlement

/-- The row was handed over under its type, and settled by what the bus said then. -/
structure Dealing.Sound (s : OutboxSettings) (d : Dealing) : Prop where
  offer : d.offer.call = .publish d.row.messageType d.row
  settling : Settlement.Call s d.row d.offer.moment.bus d.settling.call
  ends : d.settling.Ends d.row.id s.workerId d.settlement

/-- Rows were dealt with one after the other, and the log has no other offers and settlings. -/
structure Dealt (s : OutboxSettings) (rows : List OutboxMessage) (log : List Inquiry) (dealings : List Dealing) :
    Prop where
  sound : ∀ d ∈ dealings, d.Sound s
  rows : dealings.map Dealing.row = rows
  offers : log.filter Inquiry.offers = dealings.map Dealing.offer
  settles : log.filter Inquiry.settles = dealings.map Dealing.settling
  others : ∀ q ∈ log, q.lists = false ∧ q.tried? = none

/-- Of two messages handed over under one topic the older comes first. -/
def Inquiry.InOrder (p q : Inquiry) : Prop :=
  ∀ topic m m', p.call.offer? = some (topic, m) → q.call.offer? = some (topic, m') → m.createdAt ≤ m'.createdAt

namespace Dealt
variable {s : OutboxSettings} {rows rows' : List OutboxMessage} {log log' : List Inquiry}
  {dealings dealings' : List Dealing}

theorem append (h : Dealt s rows log dealings) (h' : Dealt s rows' log' dealings') :
    Dealt s (rows ++ rows') (log ++ log') (dealings ++ dealings') where
  sound d hd := (List.mem_append.mp hd).elim (h.sound d) (h'.sound d)
  rows := by rw [List.map_append, h.rows, h'.rows]
  offers := by rw [List.filter_append, List.map_append, h.offers, h'.offers]
  settles := by rw [List.filter_append, List.map_append, h.settles, h'.settles]
  others q hq := (List.mem_append.mp hq).elim (h.others q) (h'.others q)

/-- What is handed over are the rows, each under its type. -/
theorem of_offer (h : Dealt s rows log dealings) {q : Inquiry} (hq : q ∈ log) {topic : String} {m : OutboxMessage}
    (ho : q.call.offer? = some (topic, m)) : m ∈ rows ∧ topic = m.messageType := by
  have hin : q ∈ log.filter Inquiry.offers := List.mem_filter.mpr ⟨hq, by rw [Inquiry.offers, ho]; rfl⟩
  rw [h.offers] at hin
  obtain ⟨d, hd, rfl⟩ := List.mem_map.mp hin
  rw [(h.sound d hd).offer] at ho
  cases ho
  exact ⟨h.rows ▸ List.mem_map_of_mem hd, rfl⟩

theorem filterMap_offer? (h : Dealt s rows log dealings) :
    log.filterMap (fun q => q.call.offer?) = rows.map fun m => (m.messageType, m) := by
  rw [← Inquiry.filterMap_filter_offers, h.offers, List.filterMap_map, ← h.rows, List.map_map, ← List.filterMap_eq_map]
  refine List.filterMap_congr fun d hd => ?_
  rw [Function.comp_apply, (h.sound d hd).offer]
  rfl

/-- Rows in order are handed over in order. -/
theorem ordered (h : Dealt s rows log dealings) (hr : rows.Pairwise fun a b => a.createdAt ≤ b.createdAt) :
    log.Pairwise Inquiry.InOrder := by
  rw [← h.rows, List.pairwise_map] at hr
  have hoffers : (log.filter Inquiry.offers).Pairwise Inquiry.InOrder := by
    rw [h.offers, List.pairwise_map]
    refine hr.imp_of_mem fun {d d'} hd hd' hle topic m m' hm hm' => ?_
    rw [(h.sound d hd).offer] at hm
    rw [(h.sound d' hd').offer] at hm'
    obtain ⟨-, rfl⟩ := Prod.mk.inj (Option.some.inj hm)
    obtain ⟨-, rfl⟩ := Prod.mk.inj (Option.some.inj hm')
    exact hle
  refine (List.pairwise_filter.mp hoffers).imp fun hpq topic m m' hm hm' => ?_
  exact hpq (by rw [Inquiry.offers, hm]; rfl) (by rw [Inquiry.offers, hm']; rfl) topic m m' hm hm'

variable {gs : List (String × List OutboxMessage)} {topics : List (List Inquiry × List Dealing)}

theorem flatten (h : List.Forall₂ (fun g t => Dealt s g.2 t.1 t.2) gs topics) :
    Dealt s (gs.flatMap Prod.snd) (topics.map Prod.fst).flatten (topics.flatMap Prod.snd) := by
  induction h with
  | nil => exact ⟨by simp, rfl, rfl, rfl, by simp⟩
  | cons hfirst _ ih => exact hfirst.append ih

/-- Logs of different topics hand over nothing under the same one. -/
private theorem apart (h : List.Forall₂ (fun g t => Dealt s g.2 t.1 t.2) gs topics)
    (htopic : ∀ g ∈ gs, ∀ m ∈ g.2, m.messageType = g.1) (hn : (gs.map Prod.fst).Nodup) :
    (∀ l ∈ topics.map Prod.fst, ∃ g ∈ gs, ∃ dealings, Dealt s g.2 l dealings) ∧
      (topics.map Prod.fst).Pairwise fun l l' => ∀ p ∈ l, ∀ q ∈ l', p.InOrder q ∧ q.InOrder p := by
  induction h with
  | nil => exact ⟨by simp, .nil⟩
  | @cons g t gs topics hfirst _ ih =>
    obtain ⟨hg, hgs⟩ := List.forall_mem_cons.mp htopic
    obtain ⟨hnew, hn⟩ := List.nodup_cons.mp hn
    obtain ⟨hmem, hacross⟩ := ih hgs hn
    refine ⟨List.forall_mem_cons.mpr ⟨⟨g, List.mem_cons_self, _, hfirst⟩, fun l hl => ?_⟩,
      List.pairwise_cons.mpr ⟨fun l hl p hp q hq => ?_, hacross⟩⟩
    · obtain ⟨g', hg', hdealt⟩ := hmem l hl
      exact ⟨g', List.mem_cons_of_mem g hg', hdealt⟩
    · obtain ⟨g', hg', dealings, hdealt⟩ := hmem l hl
      -- A message has one type, so two groups never hand over under the same topic.
      have hother {topic : String} {m m' : OutboxMessage} (hm : p.call.offer? = some (topic, m))
          (hm' : q.call.offer? = some (topic, m')) : False := by
        obtain ⟨hin, rfl⟩ := hfirst.of_offer hp hm
        obtain ⟨hin', htype⟩ := hdealt.of_offer hq hm'
        rw [hg m hin, hgs g' hg' m' hin'] at htype
        exact hnew (htype ▸ List.mem_map_of_mem hg')
      exact ⟨fun topic m m' hm hm' => (hother hm hm').elim, fun topic m m' hm hm' => (hother hm' hm).elim⟩

/-- Topics are handed over side by side. -/
theorem ordered_of_interleaved (h : List.Forall₂ (fun g t => Dealt s g.2 t.1 t.2) gs topics)
    (htopic : ∀ g ∈ gs, ∀ m ∈ g.2, m.messageType = g.1) (hn : (gs.map Prod.fst).Nodup)
    (hr : ∀ g ∈ gs, g.2.Pairwise fun a b => a.createdAt ≤ b.createdAt) (hlog : Interleaved (topics.map Prod.fst) log) :
    log.Pairwise Inquiry.InOrder := by
  obtain ⟨hmem, hacross⟩ := apart h htopic hn
  refine hlog.pairwise (fun l hl => ?_) hacross
  obtain ⟨g, hg, dealings, hdealt⟩ := hmem l hl
  exact hdealt.ordered (hr g hg)

end Dealt

namespace Inquiry
variable {w : Moment} {c : OutboxCall} {id : MessageId} {worker : String} {settlement : Settlement}

theorem ends_lost (hc : c.settled? = some (id, worker)) (h : c.verdict? (w.reply c) = some false) :
    Inquiry.Ends ⟨c, w⟩ id worker .lost where
  kept status hstatus := by cases hstatus
  lost _ := by
    have hrefused := Moment.grants_of_verdict? h
    refine ⟨Store.deliver_of_refused w.numbered hrefused, fun row hrow hid => Bool.eq_false_iff.mpr fun hclaimed => ?_⟩
    have hsome : (row.under c).isSome := by
      cases c <;> cases hc <;> simp [OutboxMessage.under, hid, hclaimed]
    rw [(Store.grants_iff w.numbered c).mpr ⟨row, hrow, hsome⟩] at hrefused
    cases hrefused

theorem ends_kept (hc : c.settled? = some (id, worker)) (h : c.verdict? (w.reply c) = some true) {deed : Deed}
    (hd : c.deed? = some (id, deed)) (hs : settlement.status? = some deed.status) :
    Inquiry.Ends ⟨c, w⟩ id worker settlement where
  kept status hs' := by
    obtain rfl := Option.some.inj (hs.symm.trans hs')
    obtain ⟨row, hrow, hsome⟩ := (Store.grants_iff w.numbered c).mp (Moment.grants_of_verdict? h)
    obtain ⟨row', hunder⟩ := Option.isSome_iff_exists.mp hsome
    refine ⟨row, hrow, ?_⟩
    rcases OutboxMessage.claimed_or_settled hunder with ⟨_, _, _, rfl, -⟩ | ⟨worker', hc', hprocessing, hclaimed⟩
    · cases hc
    · obtain ⟨rfl, rfl⟩ := Prod.mk.inj (Option.some.inj (hc'.symm.trans hc))
      refine ⟨rfl, hprocessing, hclaimed, (Store.mem_deliver w.numbered).mpr ⟨row, hrow, rfl⟩, ?_⟩
      rw [OutboxMessage.after_of_under hunder]
      exact OutboxMessage.status_of_under hunder hd
  lost hs' := by
    rw [hs] at hs'
    cases hs'

end Inquiry

end Turnstile
