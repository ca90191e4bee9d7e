import Turnstile.Proofs.Outbox.Dating
import Turnstile.Proofs.Outbox.Dealing
import Turnstile.Proofs.Outbox.Listing
import Mathlib.Algebra.Module.Submodule.Lattice
import Mathlib.Data.List.Permutation

-- The imports of Mathlib hold the equations of `≤`, `Prod.snd` and `id`, by which a run on fixed inputs evaluates.

/-!
The report of a batch accounts for every row that was listed, whatever others did meanwhile: it was claimed or is
counted as a conflict, and whatever was claimed is counted once more by how it ended.
-/

namespace Turnstile
open scoped List

/-- The rows that a worker lists at a moment, by a time that it has read. -/
def OutboxSettings.listed (s : OutboxSettings) (w : Moment) (t : Instant) : List OutboxMessage :=
  w.store.claimable s.batchSize t (s.leaseCutoff t)

/-- Rows were listed once, at the moment `w`, and those `taken` were claimed. All others are conflicts. -/
structure Claimed (s : OutboxSettings) (log : List Inquiry) (w : Moment) (t : Instant) (taken : List OutboxMessage)
    (conflicts : Nat) : Prop where
  once : log.filter Inquiry.lists = [⟨.claimable s.batchSize t (s.leaseCutoff t), w⟩]
  sublist : taken <+ s.listed w t
  length : taken.length + conflicts = (s.listed w t).length
  tries : log.filterMap Inquiry.tried? = (s.listed w t).map OutboxMessage.id
  ids : log.filterMap Inquiry.claimed? = taken.map OutboxMessage.id
  offers : log.filter Inquiry.offers = []
  settles : log.filter Inquiry.settles = []

namespace Deliver
variable {worker topic : String} {now cutoff : Instant} {rows claimed : List OutboxMessage} {conflicts : Nat}
  {log : List Inquiry} {s : OutboxSettings} {m : OutboxMessage}

/-- Every listed row is claimed or counted as a conflict. -/
theorem claim_ran (h : Ran (claim worker now cutoff rows).run log (.ok (claimed, conflicts))) :
    ∃ taken, taken <+ rows ∧ claimed = taken.map (·.claim worker now) ∧ taken.length + conflicts = rows.length ∧
      log.filterMap Inquiry.tried? = rows.map OutboxMessage.id ∧
      log.filterMap Inquiry.claimed? = taken.map OutboxMessage.id ∧ ∀ q ∈ log, q.Aside := by
  induction rows generalizing log claimed conflicts with
  | nil =>
    obtain ⟨rfl, hdone⟩ := h
    cases hdone
    exact ⟨[], .slnil, rfl, rfl, rfl, rfl, by simp⟩
  | cons m rest ih =>
    obtain ⟨_, got, _, rfl, ⟨w, _, rfl, rfl, hreply⟩, h⟩ := Ran.bind_ok h
    have hgranted : (Inquiry.granted ⟨.tryClaim m.id worker now cutoff, w⟩) = got := by
      rw [Inquiry.granted, hreply]
      cases got <;> rfl
    have haside : Inquiry.Aside ⟨.tryClaim m.id worker now cutoff, w⟩ := ⟨rfl, rfl, rfl⟩
    cases got with
    | true =>
      obtain ⟨log, ⟨claimed', conflicts'⟩, _, rfl, hrest, rfl, hdone⟩ := Ran.bind_ok h
      cases hdone
      obtain ⟨taken, hsub, rfl, hlen, htries, hids, hall⟩ := ih hrest
      refine ⟨m :: taken, hsub.cons_cons m, rfl, ?_, ?_, ?_, ?_⟩
      · rw [List.length_cons, List.length_cons]
        omega
      · rw [List.append_nil]
        exact congrArg (m.id :: ·) htries
      · rw [List.append_nil, List.singleton_append, List.filterMap_cons, Inquiry.claimed?, hgranted, hids]
        rfl
      · simpa using ⟨haside, hall⟩
    | false =>
      obtain ⟨_, ⟨⟩, _, rfl, ⟨w', _, rfl, rfl, -⟩, h'⟩ := Ran.bind_ok h
      obtain ⟨log, ⟨claimed', conflicts'⟩, _, rfl, hrest, rfl, hdone⟩ := Ran.bind_ok h'
      cases hdone
      obtain ⟨taken, hsub, rfl, hlen, htries, hids, hall⟩ := ih hrest
      refine ⟨taken, hsub.cons m, rfl, ?_, ?_, ?_, ?_⟩
      · rw [List.length_cons]
        omega
      · rw [List.append_nil]
        exact congrArg (m.id :: ·) htries
      · rw [List.append_nil, List.singleton_append, List.singleton_append, List.filterMap_cons, List.filterMap_cons,
          Inquiry.claimed?, hgranted]
        exact hids
      · simpa using ⟨haside, ⟨rfl, rfl, rfl⟩, hall⟩

/-- The rows that are claimed are some of those that were listed at one moment. -/
theorem claimDue_ran (h : Ran (claimDue s).run log (.ok (claimed, conflicts))) :
    ∃ w t taken, Claimed s log w t taken conflicts ∧ claimed = taken.map (·.claim s.workerId t) := by
  obtain ⟨_, t, _, rfl, ⟨w₀, _, rfl, rfl, hnow⟩, h₁⟩ := Ran.bind_ok h
  obtain ⟨_, rows, _, rfl, ⟨w, _, rfl, rfl, hlisted⟩, h₂⟩ := Ran.bind_ok h₁
  obtain ⟨log, ⟨claimed', conflicts'⟩, _, rfl, hclaim, h₃⟩ := Ran.bind_ok h₂
  obtain ⟨_, ⟨⟩, _, rfl, ⟨w₁, _, rfl, rfl, -⟩, rfl, hdone⟩ := Ran.bind_ok h₃
  cases hdone
  obtain rfl := Moment.eq_claimable hlisted
  obtain ⟨taken, hsub, rfl, hlen, htries, hids, hall⟩ := claim_ran hclaim
  obtain ⟨hlists, hoffers, hsettles⟩ := Inquiry.filter_of_aside hall
  refine ⟨w, t, taken, ⟨?_, hsub, hlen, ?_, ?_, ?_, ?_⟩, rfl⟩
  · simp [List.filter_cons, hlists, Inquiry.lists, OutboxCall.lists]
  · simp [List.filterMap_cons, htries, Inquiry.tried?, OutboxSettings.listed]
  · simp [hids, Inquiry.claimed?, Inquiry.tried?]
  · simp [hoffers, Inquiry.offers, OutboxCall.offer?]
  · simp [hsettles, Inquiry.settles, OutboxCall.settled?]

/-- Besides the call that settles a row a settling reads the time, and counts. -/
private theorem around_settling {q : Inquiry} {w₀ : Moment} {id : MessageId}
    (hq : q.call.settled? = some (id, worker)) (hrest : log = [] ∨ ∃ counter n w, log = [⟨.count counter n, w⟩]) :
    (⟨.now, w₀⟩ :: q :: log).filter Inquiry.settles = [q] ∧ (⟨.now, w₀⟩ :: q :: log).filter Inquiry.offers = [] ∧
      ∀ p ∈ Inquiry.mk .now w₀ :: q :: log, p.lists = false ∧ p.tried? = none := by
  obtain ⟨c, w⟩ := q
  cases c <;> cases hq <;> rcases hrest with rfl | ⟨_, _, _, rfl⟩ <;>
    simp [List.filter_cons, Inquiry.settles, Inquiry.offers, Inquiry.lists, Inquiry.tried?, OutboxCall.settled?,
      OutboxCall.offer?, OutboxCall.lists]

/-- A row is settled by one call, which says what the bus said. -/
theorem settle_ran {outcome : Except BusError Unit} {settlement : Settlement}
    (h : Ran (settle s m outcome).run log (.ok settlement)) :
    ∃ q : Inquiry, Settlement.Call s m outcome q.call ∧ q.Ends m.id s.workerId settlement ∧
      log.filter Inquiry.settles = [q] ∧ log.filter Inquiry.offers = [] ∧
      ∀ p ∈ log, p.lists = false ∧ p.tried? = none := by
  obtain ⟨_, t, _, rfl, ⟨w₀, _, rfl, rfl, -⟩, h₁⟩ := Ran.bind_ok h
  cases outcome with
  | ok u =>
    obtain ⟨_, kept, _, rfl, ⟨w, _, rfl, rfl, hreply⟩, h₂⟩ := Ran.bind_ok h₁
    refine ⟨⟨.markProcessed m.id s.workerId t, w⟩, .processed t, ?_⟩
    cases kept with
    | true =>
      obtain ⟨w₂, _, rfl, rfl, hdone⟩ := h₂
      cases hdone
      exact ⟨Inquiry.ends_kept rfl (by rw [hreply]; rfl) rfl rfl, around_settling rfl (.inr ⟨_, _, _, rfl⟩)⟩
    | false =>
      obtain ⟨rfl, hdone⟩ := h₂
      cases hdone
      exact ⟨Inquiry.ends_lost rfl (by rw [hreply]; rfl), around_settling rfl (.inl rfl)⟩
  | error e =>
    by_cases hlast : s.maxAttempts ≤ m.attempts + 1
    · simp only [if_pos hlast] at h₁
      obtain ⟨_, kept, _, rfl, ⟨w, _, rfl, rfl, hreply⟩, h₂⟩ := Ran.bind_ok h₁
      refine ⟨⟨.markFailed m.id s.workerId (m.attempts + 1) e.message, w⟩, .failed hlast, ?_⟩
      cases kept with
      | true =>
        obtain ⟨w₂, _, rfl, rfl, hdone⟩ := h₂
        cases hdone
        exact ⟨Inquiry.ends_kept rfl (by rw [hreply]; rfl) rfl rfl, around_settling rfl (.inr ⟨_, _, _, rfl⟩)⟩
      | false =>
        obtain ⟨rfl, hdone⟩ := h₂
        cases hdone
        exact ⟨Inquiry.ends_lost rfl (by rw [hreply]; rfl), around_settling rfl (.inl rfl)⟩
    · simp only [if_neg hlast] at h₁
      obtain ⟨_, kept, _, rfl, ⟨w, _, rfl, rfl, hreply⟩, h₂⟩ := Ran.bind_ok h₁
      refine ⟨⟨.markRetry m.id s.workerId (m.attempts + 1) e.message (s.nextAttemptAt (m.attempts + 1) t), w⟩,
        .retried (UInt32.not_le.mp hlast) _, ?_⟩
      cases kept with
      | true =>
        obtain ⟨rfl, hdone⟩ := h₂
        cases hdone
        exact ⟨Inquiry.ends_kept rfl (by rw [hreply]; rfl) rfl rfl, around_settling rfl (.inl rfl)⟩
      | false =>
        obtain ⟨rfl, hdone⟩ := h₂
        cases hdone
        exact ⟨Inquiry.ends_lost rfl (by rw [hreply]; rfl), around_settling rfl (.inl rfl)⟩

/-- The rows of a topic are dealt with one after the other. -/
theorem publishAll_ran (htopic : ∀ m ∈ rows, m.messageType = topic) {settlements : List Settlement}
    (h : Ran (publishAll s topic rows).run log (.ok settlements)) :
    ∃ dealings, Dealt s rows log dealings ∧ dealings.map Dealing.settlement = settlements := by
  induction rows generalizing log settlements with
  | nil =>
    obtain ⟨rfl, hdone⟩ := h
    cases hdone
    exact ⟨[], ⟨by simp, rfl, rfl, rfl, by simp⟩, rfl⟩
  | cons m rest ih =>
    obtain ⟨rfl, hrest⟩ := List.forall_mem_cons.mp htopic
    obtain ⟨_, outcome, _, rfl, ⟨w, _, rfl, rfl, houtcome⟩, h₁⟩ := Ran.bind_ok h
    obtain ⟨first, settlement, _, rfl, hsettle, h₂⟩ := Ran.bind_ok h₁
    obtain ⟨log, settlements', _, rfl, hothers, rfl, hdone⟩ := Ran.bind_ok h₂
    cases hdone
    obtain rfl : w.bus = outcome := (w.reply_publish _ _).symm.trans (Except.ok.inj houtcome)
    obtain ⟨q, hcall, hends, hsettles, hoffers, hothers'⟩ := settle_ran hsettle
    obtain ⟨dealings, hdealt, rfl⟩ := ih hrest hothers
    rw [List.append_nil]
    change ∃ dealings, Dealt s (m :: rest) (⟨.publish m.messageType m, w⟩ :: (first ++ log)) dealings ∧ _
    refine ⟨⟨m, ⟨.publish m.messageType m, w⟩, q, settlement⟩ :: dealings, ⟨?_, ?_, ?_, ?_, ?_⟩, rfl⟩
    · exact List.forall_mem_cons.mpr ⟨⟨rfl, hcall, hends⟩, hdealt.sound⟩
    · rw [List.map_cons, hdealt.rows]
    · simp [List.filter_cons, hoffers, hdealt.offers, Inquiry.offers, OutboxCall.offer?]
    · simp [hsettles, hdealt.settles, Inquiry.settles, OutboxCall.settled?]
    · exact List.forall_mem_cons.mpr ⟨⟨rfl, rfl⟩, List.forall_mem_append.mpr ⟨hothers', hdealt.others⟩⟩

/-- Every topic is dealt with, if all come to a result. -/
theorem topics_dealt {gs : List (String × List OutboxMessage)} (htopic : ∀ g ∈ gs, ∀ m ∈ g.2, m.messageType = g.1)
    {runs : List (List Inquiry × Stored (List Settlement))} {settlements : List (List Settlement)}
    (hruns : List.Forall₂ (fun g run => Ran (publishAll s g.1 g.2).run run.1 run.2) gs runs)
    (hok : runs.map Prod.snd = settlements.map .ok) :
    ∃ topics : List (List Inquiry × List Dealing), List.Forall₂ (fun g t => Dealt s g.2 t.1 t.2) gs topics ∧
      runs.map Prod.fst = topics.map Prod.fst ∧ settlements = topics.map fun t => t.2.map Dealing.settlement := by
  induction hruns generalizing settlements with
  | nil =>
    obtain rfl : settlements = [] := by simpa using hok.symm
    exact ⟨[], .nil, rfl, rfl⟩
  | @cons g run gs runs hrun _ ih =>
    obtain ⟨hg, hgs⟩ := List.forall_mem_cons.mp htopic
    cases settlements with
    | nil => cases hok
    | cons first settlements =>
      obtain ⟨hfirst, hothers⟩ := List.cons.inj hok
      obtain ⟨topics, htopics, hlogs, rfl⟩ := ih hgs hothers
      rw [hfirst] at hrun
      obtain ⟨dealings, hdealt, rfl⟩ := publishAll_ran hg hrun
      exact ⟨(run.1, dealings) :: topics, .cons hdealt htopics, congrArg (run.1 :: ·) hlogs, rfl⟩

private theorem eq_map_ok {topics : List (Stored (List Settlement))} {settlements : List (List Settlement)}
    (h : topics.mapM id = .ok settlements) : topics = settlements.map .ok := by
  induction topics generalizing settlements with
  | nil =>
    cases h
    rfl
  | cons first rest ih =>
    rw [List.mapM_cons] at h
    cases first with
    | error => cases h
    | ok a =>
      cases hrest : rest.mapM id with
      | error =>
        rw [hrest] at h
        cases h
      | ok others =>
        rw [hrest] at h
        cases h
        rw [List.map_cons, ← ih hrest]

/-- A report is made of the settlements of all topics. -/
theorem report_ok {topics : List (Stored (List Settlement))} {r : BatchReport}
    (h : report claimed conflicts topics = .ok r) :
    ∃ settlements : List (List Settlement), topics = settlements.map .ok ∧
      r = settlements.flatten.foldl BatchReport.add { claimed := claimed.length, conflicts } := by
  rw [report] at h
  cases hm : topics.mapM id with
  | error =>
    rw [hm] at h
    cases h
  | ok settlements =>
    rw [hm] at h
    cases h
    exact ⟨settlements, eq_map_ok hm, rfl⟩

end Deliver

/-- Topics were dealt with side by side: together they have all rows, and the log has no other offers and
settlings. -/
structure SideBySide (s : OutboxSettings) (rows : List OutboxMessage) (log : List Inquiry) (dealings : List Dealing) :
    Prop where
  sound : ∀ d ∈ dealings, d.Sound s
  offered : log.filterMap (fun q => q.call.offer?) ~ rows.map fun m => (m.messageType, m)
  rows : dealings.map Dealing.row ~ rows
  offers : log.filter Inquiry.offers ~ dealings.map Dealing.offer
  settles : log.filter Inquiry.settles ~ dealings.map Dealing.settling
  ordered : log.Pairwise Inquiry.InOrder
  lists : log.filter Inquiry.lists = []
  tries : log.filterMap Inquiry.tried? = []
  claims : log.filterMap Inquiry.claimed? = []

/-- What holds within each topic holds of all. -/
theorem Batch.Course.sideBySide {s : OutboxSettings} {rows : List OutboxMessage} {log : List Inquiry}
    {settlements : List (List Settlement)}
    (h : Course (.publishing (Deliver.publishing s rows)) log (.publishing ((settlements.map .ok).map .done)))
    (hr : rows.Pairwise fun a b => a.createdAt ≤ b.createdAt) :
    ∃ dealings, SideBySide s rows log dealings ∧ settlements.flatten = dealings.map Dealing.settlement := by
  have htopic : ∀ g ∈ Deliver.groups rows, ∀ m ∈ g.2, m.messageType = g.1 := fun g hg => Deliver.messageType_groups hg
  obtain ⟨runs, hruns, hok, hmerged⟩ := h.topics_ran
  rw [Deliver.publishing, List.forall₂_map_left_iff] at hruns
  obtain ⟨topics, hdealt, hlogs, rfl⟩ := Deliver.topics_dealt htopic hruns hok.symm
  rw [hlogs] at hmerged
  have hmerge := hmerged.perm_flatten
  have hall := Dealt.flatten hdealt
  have hperm := Deliver.groups_perm rows
  refine ⟨topics.flatMap Prod.snd, ?_, List.map_flatMap.symm⟩
  constructor
  case sound => exact hall.sound
  case rows => rwa [hall.rows]
  case offers => exact hall.offers ▸ hmerge.filter _
  case offered => exact (hmerge.filterMap _).trans (hall.filterMap_offer? ▸ hperm.map _)
  case settles => exact hall.settles ▸ hmerge.filter _
  case ordered =>
    refine Dealt.ordered_of_interleaved hdealt htopic (Deliver.nodup_topics rows) (fun g hg => ?_) hmerged
    obtain ⟨topic, -, rfl⟩ := List.mem_map.mp hg
    exact hr.filter _
  case lists => exact List.filter_eq_nil_iff.mpr fun q hq => by simp [(hall.others q (hmerge.mem_iff.mp hq)).1]
  case tries => exact List.filterMap_eq_nil_iff.mpr fun q hq => (hall.others q (hmerge.mem_iff.mp hq)).2
  case claims =>
    refine List.filterMap_eq_nil_iff.mpr fun q hq => Inquiry.claimed?_eq_none ?_
    exact (hall.others q (hmerge.mem_iff.mp hq)).2

/-- Every settlement is of one of the four kinds. -/
theorem Settlement.length_eq_counts (settlements : List Settlement) :
    settlements.length = settlements.count .published + settlements.count .retried + settlements.count .failed +
      settlements.count .lost := by
  induction settlements with
  | nil => rfl
  | cons settlement settlements ih =>
    rw [List.length_cons, ih]
    cases settlement <;> simp <;> omega

namespace BatchReport

/-- The report counts the rows that were settled, by how they ended. -/
structure Counts (r : BatchReport) (settlements : List Settlement) : Prop where
  claimed : r.claimed = settlements.length
  published : r.published = settlements.count .published
  retried : r.retried = settlements.count .retried
  failed : r.failed = settlements.count .failed
  lostClaims : r.lostClaims = settlements.count .lost

theorem Counts.total {r : BatchReport} {settlements : List Settlement} (h : r.Counts settlements) :
    r.claimed = r.published + r.retried + r.failed + r.lostClaims := by
  rw [h.claimed, h.published, h.retried, h.failed, h.lostClaims]
  exact Settlement.length_eq_counts settlements

theorem foldl_add (settlements : List Settlement) (r : BatchReport) :
    settlements.foldl add r = { r with
      published := r.published + settlements.count .published
      retried := r.retried + settlements.count .retried
      failed := r.failed + settlements.count .failed
      lostClaims := r.lostClaims + settlements.count .lost } := by
  induction settlements generalizing r with
  | nil => rfl
  | cons settlement settlements ih =>
    rw [List.foldl_cons, ih]
    cases settlement <;> simp [add, Nat.add_comm, Nat.add_left_comm]

theorem counts_foldl {settlements : List Settlement} {claimed : Nat} (h : claimed = settlements.length)
    (conflicts : Nat) : Counts (settlements.foldl add { claimed, conflicts }) settlements := by
  rw [foldl_add]
  exact ⟨h, Nat.zero_add _, Nat.zero_add _, Nat.zero_add _, Nat.zero_add _⟩

end BatchReport

/-- A call that hands nothing over is in order with all others. -/
theorem Claimed.inOrder {s : OutboxSettings} {log : List Inquiry} {w : Moment} {t : Instant}
    {taken : List OutboxMessage} {conflicts : Nat} (h : Claimed s log w t taken conflicts) {p : Inquiry} (hp : p ∈ log)
    (q : Inquiry) : p.InOrder q := by
  intro topic m m' hm
  have hin : p ∈ log.filter Inquiry.offers := List.mem_filter.mpr ⟨hp, by rw [Inquiry.offers, hm]; rfl⟩
  rw [h.offers] at hin
  cases hin

namespace Batch
variable {s : OutboxSettings} {log : List Inquiry} {r : BatchReport}

/-- What a report says of a batch, and what became of the rows: those `taken` of the ones listed at the moment `w`, by
the time `t` that was read at first, were dealt with, and no others. -/
structure Account (s : OutboxSettings) (log : List Inquiry) (r : BatchReport) (w : Moment) (t : Instant)
    (taken : List OutboxMessage) (dealings : List Dealing) : Prop where
  read : ∃ v rest, log = ⟨.now, v⟩ :: rest ∧ v.time = t
  dated : ∀ q ∈ log, s.Dated t q.call
  once : log.filter Inquiry.lists = [⟨.claimable s.batchSize t (s.leaseCutoff t), w⟩]
  oldest : w.store.Oldest s.batchSize t (s.leaseCutoff t) (s.listed w t)
  tried : r.claimed + r.conflicts = (s.listed w t).length
  tries : log.filterMap Inquiry.tried? = (s.listed w t).map OutboxMessage.id
  sublist : taken <+ s.listed w t
  claims : log.filterMap Inquiry.claimed? = taken.map OutboxMessage.id
  offered : log.filterMap (fun q => q.call.offer?) ~ taken.map fun m => (m.messageType, m.claim s.workerId t)
  ordered : log.Pairwise Inquiry.InOrder
  sound : ∀ d ∈ dealings, d.Sound s
  rows : dealings.map Dealing.row ~ taken.map fun m => m.claim s.workerId t
  offers : log.filter Inquiry.offers ~ dealings.map Dealing.offer
  settles : log.filter Inquiry.settles ~ dealings.map Dealing.settling
  counts : r.Counts (dealings.map Dealing.settlement)
  total : r.claimed = r.published + r.retried + r.failed + r.lostClaims

/-- Every row that was listed is claimed or a conflict, and every claimed one was handed over once and settled. -/
theorem report_accounts_for_rows (h : Reports s log (.ok r)) :
    ∃ w t taken dealings, Account s log r w t taken dealings := by
  obtain ⟨v, rest, hread, hdated⟩ := h.dated
  generalize hresult : Except.ok r = result at h
  cases h with
  | refused => cases hresult
  | @settled claims offers claimed conflicts topics hclaims hoffers =>
    obtain ⟨settlements, rfl, rfl⟩ := Deliver.report_ok hresult.symm
    obtain ⟨w, t, taken, hclaimed, rfl⟩ := Deliver.claimDue_ran hclaims.ran
    have hold : w.store.Oldest s.batchSize t (s.leaseCutoff t) (s.listed w t) := Store.oldest_claimable w.numbered
    obtain ⟨dealings, hdealt, hended⟩ :=
      hoffers.sideBySide (List.pairwise_map.mpr (hold.ordered.sublist hclaimed.sublist))
    have hlength : taken.length = (dealings.map Dealing.settlement).length := by
      simpa using hdealt.rows.length_eq.symm
    have hcounts := BatchReport.counts_foldl hlength conflicts
    have honce : (claims ++ offers).filter Inquiry.lists = [⟨.claimable s.batchSize t (s.leaseCutoff t), w⟩] := by
      rw [List.filter_append, hclaimed.once, hdealt.lists, List.append_nil]
    have hlisting : (⟨.claimable s.batchSize t (s.leaseCutoff t), w⟩ : Inquiry) ∈ claims ++ offers :=
      List.mem_of_mem_filter (honce ▸ List.mem_singleton_self _)
    obtain ⟨-, rfl, -⟩ := hdated _ hlisting
    rw [hended, List.length_map]
    refine ⟨w, v.time, taken, dealings, ?_⟩
    -- The claims hand nothing over, and the topics list and claim nothing: each part of the log is one phase's.
    constructor
    case read => exact ⟨v, rest, hread, rfl⟩
    case dated => exact hdated
    case once => exact honce
    case oldest => exact hold
    case tried =>
      rw [BatchReport.foldl_add]
      exact hclaimed.length
    case tries => rw [List.filterMap_append, hclaimed.tries, hdealt.tries, List.append_nil]
    case sublist => exact hclaimed.sublist
    case claims => rw [List.filterMap_append, hclaimed.ids, hdealt.claims, List.append_nil]
    case offered =>
      rw [List.filterMap_append, ← Inquiry.filterMap_filter_offers claims, hclaimed.offers]
      exact hdealt.offered.trans (.of_eq List.map_map)
    case ordered =>
      refine List.pairwise_append.mpr ⟨?_, hdealt.ordered, fun p hp q _ => hclaimed.inOrder hp q⟩
      exact List.pairwise_of_forall_mem_list fun p hp q _ => hclaimed.inOrder hp q
    case sound => exact hdealt.sound
    case rows => exact hdealt.rows
    case offers =>
      rw [List.filter_append, hclaimed.offers]
      exact hdealt.offers
    case settles =>
      rw [List.filter_append, hclaimed.settles]
      exact hdealt.settles
    case counts => exact hcounts
    case total => exact hcounts.total

/-- Of three rows one is published, one is taken over by another worker, and one is claimed by it first. -/
theorem report_accounts_for_rows_takenOver :
    let row (id : UInt64) (type : String) : OutboxMessage := .pending ⟨⟨0, id⟩⟩ type .null .newYear2024
    let first := row 1 "RegistrationConfirmed"
    let second := row 2 "RegistrationWaitlisted"
    let third := row 3 "RegistrationWaitlisted"
    let claimed (worker : String) (m : OutboxMessage) : OutboxMessage := m.claim worker .newYear2024
    let moment (outbox : List OutboxMessage) (h : (outbox.map OutboxMessage.id).Nodup) : Moment :=
      { store := { outbox }, numbered := h, time := .newYear2024 }
    let world (n : Nat) : Moment :=
      if n < 4 then moment [first, second, third] (by decide)
      else if n < 8 then moment [claimed "a" first, claimed "a" second, claimed "b" third] (by decide)
      else moment [claimed "a" first, claimed "b" second, claimed "b" third] (by decide)
    let settings : OutboxSettings := { workerId := "a" }
    let log := ((Deliver.batch settings).run.exec (Moment.attend world) []).2
    let report : BatchReport := { claimed := 2, conflicts := 1, published := 1, lostClaims := 1 }
    Reports settings log (.ok report) ∧ ∃ w t taken dealings, Account settings log report w t taken dealings := by
  intro row first second third claimed moment world settings log report
  have hreports := Reports.exec settings world
  have hresult : ((Deliver.batch settings).run.exec (Moment.attend world) []).1 = .ok report := by cbv
  rw [hresult] at hreports
  exact ⟨hreports, report_accounts_for_rows hreports⟩

end Batch
end Turnstile
