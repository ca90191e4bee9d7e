import Turnstile.Proofs.Outbox.Cycle
import Turnstile.Proofs.Outbox.LifeCycle
import Mathlib.Algebra.Order.BigOperators.Group.List
import Mathlib.Tactic.IntervalCases

/-!
A lone outbox worker settles every row. Whenever a row is handed over it uses up one of its attempts, and a batch hands
over at least one row as long as any is pending.
-/

namespace Turnstile

theorem OutboxSettings.pos_of_check {s : OutboxSettings} (h : s.check = .ok ()) :
    0 < s.batchSize ∧ 0 < s.maxAttempts.toNat := by
  unfold check at h
  split at h
  · cases h
  · next hsize =>
    split at h
    · cases h
    · next hattempts =>
      exact ⟨Nat.pos_of_ne_zero hsize, Nat.pos_of_ne_zero fun h0 => hattempts (UInt32.toNat_inj.mp h0)⟩

/-- A count below another one has room for one more. -/
private theorem toNat_succ_of_lt {n limit : UInt32} (h : n.toNat < limit.toNat) : (n + 1).toNat = n.toNat + 1 := by
  have hsize := limit.toNat_lt_size
  rw [UInt32.toNat_add]
  exact Nat.mod_eq_of_lt (show n.toNat + 1 < UInt32.size by omega)

namespace OutboxMessage
variable {worker : String} {limit : Nat} {m : OutboxMessage} {outcomes : List (Except BusError Unit)}

theorem after_markProcessed (h : m.isClaimedBy worker = true) {now : Instant} :
    m.after (.markProcessed m.id worker now) = m.settle now := after_of_under (if_pos ⟨rfl, h⟩)

theorem after_markRetry (h : m.isClaimedBy worker = true) {attempts : UInt32} {error : String} {next : Instant} :
    m.after (.markRetry m.id worker attempts error next) = m.postpone attempts error next :=
  after_of_under (if_pos ⟨rfl, h⟩)

theorem after_markFailed (h : m.isClaimedBy worker = true) {attempts : UInt32} {error : String} :
    m.after (.markFailed m.id worker attempts error) = m.abandon attempts error := after_of_under (if_pos ⟨rfl, h⟩)

/-- How a row stands by what the bus said to it so far. It waits after refusals alone, was accepted after some, or was
refused as often as it may be. -/
inductive Fate (limit : Nat) (m : OutboxMessage) : List (Except BusError Unit) → Prop
  | waiting {refused : List (Except BusError Unit)} (hs : m.status = .pending) (ha : m.attempts.toNat = refused.length)
    (hr : ∀ outcome ∈ refused, outcome.isOk = false) (hlt : refused.length < limit) : Fate limit m refused
  | accepted {refused : List (Except BusError Unit)} (hs : m.status = .processed)
    (ha : m.attempts.toNat = refused.length) (hr : ∀ outcome ∈ refused, outcome.isOk = false)
    (hlt : refused.length < limit) : Fate limit m (refused ++ [.ok ()])
  | exhausted {refused : List (Except BusError Unit)} (hs : m.status = .failed)
    (ha : m.attempts.toNat = refused.length) (hr : ∀ outcome ∈ refused, outcome.isOk = false)
    (hlen : refused.length = limit) : Fate limit m refused

/-- How often a row may still be handed over. -/
def remaining (limit : Nat) (m : OutboxMessage) : Nat := if m.status = .pending then limit - m.attempts.toNat else 0

namespace Fate

theorem start (h : m.Created) (hlimit : 0 < limit) : m.Fate limit [] := by
  rw [h.eq_pending]
  exact .waiting rfl rfl (by simp) hlimit

theorem remaining_le (h : m.Fate limit outcomes) : m.remaining limit ≤ limit - outcomes.length := by
  cases h with
  | waiting hs ha => rw [remaining, if_pos hs, ha]
  | accepted hs => simp [remaining, hs]
  | exhausted hs => simp [remaining, hs]

/-- A row that waits was only refused, and counts how often. -/
theorem of_pending (h : m.Fate limit outcomes) (hs : m.status = .pending) :
    m.attempts.toNat = outcomes.length ∧ (∀ outcome ∈ outcomes, outcome.isOk = false) ∧ outcomes.length < limit := by
  cases h with
  | waiting _ ha hr hlt => exact ⟨ha, hr, hlt⟩
  | accepted hs' => cases hs.symm.trans hs'
  | exhausted hs' => cases hs.symm.trans hs'

/-- A row that may be claimed waits. -/
theorem pending_of_isClaimable (h : m.Fate limit outcomes) {now cutoff : Instant}
    (hdue : m.isClaimable now cutoff = true) : m.status = .pending := by
  rcases isClaimable_iff.mp hdue with ⟨hs, -⟩ | ⟨hs, -⟩
  · exact hs
  · cases h with
    | waiting hs' => exact hs'
    | accepted hs' => cases hs.symm.trans hs'
    | exhausted hs' => cases hs.symm.trans hs'

/-- Being handed over and settled takes a row that waits to the next stand. -/
theorem settle {settings : OutboxSettings} (h : m.Fate settings.maxAttempts.toNat outcomes) (hs : m.status = .pending)
    {t : Instant} {outcome : Except BusError Unit} {c : OutboxCall}
    (hc : Settlement.Call settings (m.claim settings.workerId t) outcome c) :
    ((m.claim settings.workerId t).after c).Fate settings.maxAttempts.toNat (outcomes ++ [outcome]) := by
  obtain ⟨ha, hr, hlt⟩ := h.of_pending hs
  have howned : (m.claim settings.workerId t).isClaimedBy settings.workerId = true :=
    isClaimedBy_iff.mpr ⟨rfl, rfl⟩
  have hnext : (m.attempts + 1).toNat = outcomes.length + 1 := by
    rw [toNat_succ_of_lt (ha.trans_lt hlt), ha]
  have hrefused (e : BusError) : ∀ outcome ∈ outcomes ++ [Except.error e], outcome.isOk = false :=
    List.forall_mem_append.mpr ⟨hr, by simp [Except.isOk, Except.toBool]⟩
  cases hc with
  | processed now =>
    rw [after_markProcessed howned]
    exact .accepted rfl ha hr hlt
  | @failed e hlast =>
    have hle : settings.maxAttempts.toNat ≤ (m.attempts + 1).toNat := UInt32.le_iff_toNat_le.mp hlast
    have hlength : (outcomes ++ [Except.error e]).length = outcomes.length + 1 := List.length_append
    rw [after_markFailed howned]
    exact .exhausted rfl (hnext.trans hlength.symm) (hrefused e) (by omega)
  | @retried e hmore next =>
    have hlt' : (m.attempts + 1).toNat < settings.maxAttempts.toNat := UInt32.lt_iff_toNat_lt.mp hmore
    have hlength : (outcomes ++ [Except.error e]).length = outcomes.length + 1 := List.length_append
    rw [after_markRetry howned]
    exact .waiting rfl (hnext.trans hlength.symm) (hrefused e) (by omega)

end Fate

/-- A row that is done with, by all that the bus said to it: it was accepted by the last offer and no other, or every
offer was refused, as many as there may be. -/
structure Settled (limit : Nat) (m : OutboxMessage) (outcomes : List (Except BusError Unit)) : Prop where
  ended : m.status = .processed ∨ m.status = .failed
  offered : 1 ≤ outcomes.length
  offers : outcomes.length ≤ limit
  processed : m.status = .processed ↔ outcomes.getLast? = some (.ok ())
  accepted : m.status = .processed →
    outcomes.countP Except.isOk = 1 ∧ m.attempts.toNat = outcomes.dropLast.countP fun outcome => !outcome.isOk
  failed : m.status = .failed ↔ (outcomes.countP fun outcome => !outcome.isOk) = limit

/-- A row that does not wait any more is done with. -/
theorem Fate.settled (h : m.Fate limit outcomes) (hlimit : 0 < limit) (hs : m.status ≠ .pending) :
    m.Settled limit outcomes := by
  cases h with
  | waiting hs' => exact absurd hs' hs
  | @accepted refused hs' ha hr hlt =>
    have hcount : (refused.countP fun outcome => !outcome.isOk) = refused.length :=
      List.countP_eq_length.mpr fun outcome ho => by rw [hr outcome ho]; rfl
    have hnone : refused.countP Except.isOk = 0 :=
      List.countP_eq_zero.mpr fun outcome ho => by rw [hr outcome ho]; exact Bool.false_ne_true
    have hlength : (refused ++ [Except.ok ()]).length = refused.length + 1 := List.length_append
    constructor
    case ended => exact .inl hs'
    case offered => omega
    case offers => omega
    case processed => exact iff_of_true hs' List.getLast?_concat
    case accepted =>
      intro _
      rw [List.countP_append, hnone, List.dropLast_concat, hcount]
      exact ⟨rfl, ha⟩
    case failed =>
      rw [List.countP_append, hcount, hs']
      refine iff_of_false (by decide) (Nat.ne_of_lt ?_)
      exact hlt
  | exhausted hs' ha hr hlen =>
    have hcount : (outcomes.countP fun outcome => !outcome.isOk) = outcomes.length :=
      List.countP_eq_length.mpr fun outcome ho => by rw [hr outcome ho]; rfl
    constructor
    case ended => exact .inr hs'
    case offered => omega
    case offers => omega
    case processed =>
      rw [hs']
      refine iff_of_false (by decide) fun hlast => ?_
      cases hr _ (List.mem_of_getLast? hlast)
    case accepted =>
      intro hs''
      cases hs'.symm.trans hs''
    case failed => exact iff_of_true hs' (hcount.trans hlen)

end OutboxMessage

namespace Solo
variable {settings : OutboxSettings} {limit : Nat} {s s' : Solo} (time : Nat → Instant)
  (bus : Nat → Except BusError Unit)

/-- Every row stands by what the bus said to it, and no row was handed over that had no attempt left. -/
structure Tended (limit : Nat) (s : Solo) : Prop where
  fates : ∀ m ∈ s.store.outbox, m.Fate limit (s.outcomes m.id)
  offers : ∀ q ∈ s.log, ∀ topic m, q.call.offer? = some (topic, m) → m.attempts.toNat < limit

/-- How many offers there may still be. -/
def remaining (limit : Nat) (s : Solo) : Nat := (s.store.outbox.map (·.remaining limit)).sum

theorem Tended.start {store : Store} (hids : store.Numbered) (hnew : ∀ m ∈ store.outbox, m.Created)
    (hlimit : 0 < limit) : Tended limit { store, numbered := hids } where
  fates m hm := .start (hnew m hm) hlimit
  offers q hq := by cases hq

theorem Leads.outcomes {made : List Inquiry} (h : s.Leads made s') (id : MessageId) :
    s'.outcomes id = s.outcomes id ++ made.filterMap (Inquiry.outcome? id) := by
  rw [Solo.outcomes, h.log, List.filterMap_append]
  rfl

section batch
variable {t : Instant} {listed : List OutboxMessage} {made : List Inquiry}
  (h : s.Tended settings.maxAttempts.toNat)
  (hmade : Batched settings s t listed made)
include h hmade

/-- A batch takes each row that was listed to its next stand. -/
theorem Tended.of_listed {m : OutboxMessage} (hm : m ∈ listed) :
    (m.afterAll (made.map Inquiry.call)).Fate settings.maxAttempts.toNat
        (s.outcomes m.id ++ made.filterMap (Inquiry.outcome? m.id)) ∧
      (m.afterAll (made.map Inquiry.call)).remaining settings.maxAttempts.toNat <
        m.remaining settings.maxAttempts.toNat := by
  obtain ⟨hin, hdue⟩ := hmade.oldest.claimable m hm
  have hfate := h.fates m hin
  have hpending := hfate.pending_of_isClaimable hdue
  obtain ⟨outcome, c, hcall, hafter, houtcome⟩ := hmade.taken m hm
  rw [hafter, houtcome]
  have hnext := hfate.settle hpending hcall
  obtain ⟨hattempts, -, hlt⟩ := hfate.of_pending hpending
  have hbefore : m.remaining settings.maxAttempts.toNat = settings.maxAttempts.toNat - (s.outcomes m.id).length := by
    rw [OutboxMessage.remaining, if_pos hpending, hattempts]
  have hless := hnext.remaining_le
  rw [List.length_append, List.length_singleton] at hless
  exact ⟨hnext, by omega⟩

theorem Tended.row {m : OutboxMessage} (hm : m ∈ s.store.outbox) :
    (m.afterAll (made.map Inquiry.call)).Fate settings.maxAttempts.toNat
        (s.outcomes m.id ++ made.filterMap (Inquiry.outcome? m.id)) ∧
      (m.afterAll (made.map Inquiry.call)).remaining settings.maxAttempts.toNat ≤
        m.remaining settings.maxAttempts.toNat := by
  by_cases hin : m ∈ listed
  · obtain ⟨hfate, hlt⟩ := h.of_listed hmade hin
    exact ⟨hfate, hlt.le⟩
  · obtain ⟨hafter, hnone⟩ := hmade.left m hm hin
    rw [hafter, hnone, List.append_nil]
    exact ⟨h.fates m hm, le_rfl⟩

theorem Tended.leads (hleads : s.Leads made s') : s'.Tended settings.maxAttempts.toNat where
  fates m' hm' := by
    rw [hleads.outbox] at hm'
    obtain ⟨m, hm, rfl⟩ := List.mem_map.mp hm'
    rw [OutboxMessage.id_afterAll, hleads.outcomes]
    exact (h.row hmade hm).1
  offers q hq topic m hm := by
    rw [hleads.log] at hq
    rcases List.mem_append.mp hq with hq | hq
    · exact h.offers q hq topic m hm
    · obtain ⟨row, hrow, rfl⟩ := hmade.offers q hq topic m hm
      obtain ⟨hin, hdue⟩ := hmade.oldest.claimable row hrow
      have hfate := h.fates row hin
      obtain ⟨hattempts, -, hlt⟩ := hfate.of_pending (hfate.pending_of_isClaimable hdue)
      exact hattempts.trans_lt hlt

/-- A batch uses up an attempt, unless no row is pending. -/
theorem Tended.remaining_leads (hleads : s.Leads made s') (hsize : 0 < settings.batchSize)
    (hdue : ∀ m ∈ s.store.outbox, m.status = .pending → m.nextAttemptAt ≤ t) :
    s'.remaining settings.maxAttempts.toNat ≤ s.remaining settings.maxAttempts.toNat - 1 := by
  have hle : ∀ m ∈ s.store.outbox, (m.afterAll (made.map Inquiry.call)).remaining settings.maxAttempts.toNat ≤
      m.remaining settings.maxAttempts.toNat := fun m hm => (h.row hmade hm).2
  rw [remaining, remaining, hleads.outbox, List.map_map]
  by_cases hsome : ∃ m ∈ s.store.outbox, m.status = .pending
  · obtain ⟨m, hm, hs⟩ := hsome
    have hlisted : ∃ row, row ∈ listed := by
      by_cases hin : m ∈ listed
      · exact ⟨m, hin⟩
      · obtain ⟨hfull, -⟩ := hmade.oldest.others m hm (OutboxMessage.isClaimable_iff.mpr (.inl ⟨hs, hdue m hm hs⟩)) hin
        exact List.exists_mem_of_length_pos (hfull ▸ hsize)
    obtain ⟨row, hrow⟩ := hlisted
    have hlt := List.sum_lt_sum _ _ hle ⟨row, (hmade.oldest.claimable row hrow).1, (h.of_listed hmade hrow).2⟩
    exact Nat.le_sub_one_of_lt hlt
  · have hzero : (s.store.outbox.map (·.remaining settings.maxAttempts.toNat)).sum = 0 := by
      refine List.sum_eq_zero fun n hn => ?_
      obtain ⟨m, hm, rfl⟩ := List.mem_map.mp hn
      exact if_neg fun hs => hsome ⟨m, hm, hs⟩
    have hsum := List.sum_le_sum hle
    rw [hzero] at hsum ⊢
    exact hsum

end batch

theorem Tended.cycles (h : s.Tended settings.maxAttempts.toNat) (orders : Nat → List Nat) (k : Nat) :
    (cycles time bus settings orders s k).Tended settings.maxAttempts.toNat := by
  induction k with
  | zero => exact h
  | succ k ih =>
    let before := Solo.cycles time bus settings orders s k
    obtain ⟨-, made, hleads, hmade⟩ := cycle_batched time bus settings (orders k) before
    exact ih.leads hmade hleads

/-- As long as the clock has come to every row that is pending, each batch uses up an attempt. -/
theorem Tended.remaining_cycles (h : s.Tended settings.maxAttempts.toNat) (hsize : 0 < settings.batchSize)
    (orders : Nat → List Nat) (k : Nat)
    (hdue : ∀ j < k, ∀ m ∈ (Solo.cycles time bus settings orders s j).store.outbox, m.status = .pending →
      m.nextAttemptAt ≤ time (Solo.cycles time bus settings orders s j).log.length) :
    (Solo.cycles time bus settings orders s k).remaining settings.maxAttempts.toNat ≤
      s.remaining settings.maxAttempts.toNat - k := by
  induction k with
  | zero => exact le_rfl
  | succ k ih =>
    let before := Solo.cycles time bus settings orders s k
    obtain ⟨-, made, hleads, hmade⟩ := cycle_batched time bus settings (orders k) before
    have hbefore := ih fun j hj => hdue j (hj.trans k.lt_succ_self)
    have hstep := (h.cycles time bus orders k).remaining_leads hmade hleads hsize (hdue k k.lt_succ_self)
    exact hstep.trans (by omega)

/-- No row comes or goes. -/
theorem contents_cycles (settings : OutboxSettings) (orders : Nat → List Nat) (s : Solo) (k : Nat) :
    (cycles time bus settings orders s k).store.outbox.map OutboxMessage.content =
      s.store.outbox.map OutboxMessage.content := by
  induction k with
  | zero => rfl
  | succ k ih =>
    obtain ⟨-, made, hleads, -⟩ := cycle_batched time bus settings (orders k) (cycles time bus settings orders s k)
    rw [cycles, hleads.outbox, List.map_map, ← ih]
    exact List.map_congr_left fun m _ => m.content_afterAll _

theorem remaining_start {store : Store} (hids : store.Numbered) (hnew : ∀ m ∈ store.outbox, m.Created) :
    remaining limit { store, numbered := hids } = store.outbox.length * limit := by
  have hall : ∀ m ∈ store.outbox, m.remaining limit = limit := by
    intro m hm
    rw [(hnew m hm).eq_pending]
    exact if_pos rfl
  rw [remaining, List.map_congr_left hall, List.map_const', List.sum_replicate_nat]

/-- A lone worker whose clock has always come to every row that is pending settles all rows, in at most as many
batches as there may be offers. Each batch comes to its report, that of the program as it is if its topics take no
turns. No row is lost, and no count of attempts goes beyond its machine word. -/
theorem settles_all {settings : OutboxSettings} (hcheck : settings.check = .ok ()) {store : Store}
    (hids : store.Numbered) (hnew : ∀ m ∈ store.outbox, m.Created) (time : Nat → Instant)
    (bus : Nat → Except BusError Unit) (orders : Nat → List Nat) (k : Nat)
    (hdue : ∀ j < k, let s := cycles time bus settings orders { store, numbered := hids } j
      ∀ m ∈ s.store.outbox, m.status = .pending → m.nextAttemptAt ≤ time s.log.length) :
    let s := cycles time bus settings orders { store, numbered := hids }
    (∀ j, ∃ report, (cycle time bus settings (orders j) (s j)).1 = .ok report ∧
        (orders j = [] → (Deliver.batch settings).run.exec (answer time bus) (s j) = (.ok report, s (j + 1)))) ∧
      (s k).store.outbox.map OutboxMessage.content = store.outbox.map OutboxMessage.content ∧
      (∀ q ∈ (s k).log, ∀ topic m, q.call = .publish topic m → (m.attempts + 1).toNat = m.attempts.toNat + 1) ∧
      (store.outbox.length * settings.maxAttempts.toNat ≤ k →
        ∀ m ∈ (s k).store.outbox, m.Settled settings.maxAttempts.toNat ((s k).outcomes m.id)) := by
  intro s
  obtain ⟨hsize, hlimit⟩ := OutboxSettings.pos_of_check hcheck
  have hstart : Tended settings.maxAttempts.toNat { store, numbered := hids } := .start hids hnew hlimit
  have htended := hstart.cycles time bus orders k
  refine ⟨?_, contents_cycles time bus settings orders _ k, ?_, ?_⟩
  · intro j
    obtain ⟨⟨report, hreport⟩, -⟩ := cycle_batched time bus settings (orders j) (s j)
    refine ⟨report, hreport, fun hturns => ?_⟩
    rw [← cycle_nil, ← hturns]
    exact Prod.ext hreport rfl
  · intro q hq topic m hm
    exact toNat_succ_of_lt (htended.offers q hq topic m (by rw [hm]; rfl))
  · intro hk m hm
    have hnone := hstart.remaining_cycles time bus hsize orders k hdue
    rw [remaining_start hids hnew, Nat.sub_eq_zero_of_le hk] at hnone
    refine (htended.fates m hm).settled hlimit ?_
    intro hs
    obtain ⟨hattempts, -, hlt⟩ := (htended.fates m hm).of_pending hs
    have hle : m.remaining settings.maxAttempts.toNat ≤ 0 :=
      (List.le_sum_of_mem (List.mem_map_of_mem hm)).trans hnone
    rw [OutboxMessage.remaining, if_pos hs] at hle
    omega

/-- A row is refused twice and then accepted, by its last attempt. -/
theorem settles_all_lastAttempt :
    let row : OutboxMessage := .pending ⟨⟨0, 1⟩⟩ "RegistrationConfirmed" .null .newYear2024
    let settings : OutboxSettings := { maxAttempts := 3 }
    let time (n : Nat) : Instant := Instant.newYear2024.after (.ofSeconds n)
    let bus (n : Nat) : Except BusError Unit := if n < 15 then .error (.unavailable "down") else .ok ()
    let start : Solo := { store := { outbox := [row] }, numbered := List.nodup_singleton _ }
    let s := cycles time bus settings (fun _ => []) start
    ((s 2).store.outbox.map fun m => (m.status, m.attempts)) = [(.pending, 2)] ∧
      ((s 3).store.outbox.map fun m => (m.status, m.attempts)) = [(.processed, 2)] ∧
      ∀ m ∈ (s 3).store.outbox, m.Settled 3 ((s 3).outcomes m.id) := by
  intro row settings time bus start s
  have hnew : ∀ m ∈ start.store.outbox, m.Created := List.forall_mem_singleton.mpr (.pending _ _ _ _)
  have hdue : ∀ j < 3, ∀ m ∈ (s j).store.outbox, m.status = .pending → m.nextAttemptAt ≤ time (s j).log.length := by
    intro j hj
    interval_cases j
    · decide +kernel
    · decide +kernel
    · decide +kernel
  obtain ⟨-, -, -, hsettled⟩ := settles_all rfl start.numbered hnew time bus (fun _ => []) 3 hdue
  exact ⟨by decide +kernel, by decide +kernel, hsettled le_rfl⟩

end Solo
end Turnstile
