import Turnstile.Proofs.Outbox.Solo

/-!
When a claim ends. A batch works out from the time that it has read what time claims must be older than. However long
the lease and however far back it reaches, that comes to comparing the lease with the age of the claim, nanosecond by
nanosecond.
-/

namespace Turnstile

namespace OutboxSettings

/-- The call with which a batch that began at `t` lists the rows that are due. -/
abbrev listing (s : OutboxSettings) (t : Instant) : OutboxCall := .claimable s.batchSize t (s.leaseCutoff t)

/-- The call with which it claims one of them. -/
abbrev claiming (s : OutboxSettings) (t : Instant) (id : MessageId) : OutboxCall :=
  .tryClaim id s.workerId t (s.leaseCutoff t)

/-- A claim made at `since` is older than the lease, on a time line without bounds. -/
def Outlived (s : OutboxSettings) (now since : Instant) : Prop := s.leaseTimeout.nanos < now.nanos - since.nanos

instance (s : OutboxSettings) (now since : Instant) : Decidable (s.Outlived now since) :=
  inferInstanceAs (Decidable (_ < _))

/-- The lease is longer than a difference of instants may be, or reaches back before the first instant, or is exactly
as long as the claim is old, or the claim is from the future. -/
inductive Lasting (s : OutboxSettings) (now since : Instant) : Prop
  | beyondShift (h : Instant.maxShift < s.leaseTimeout.nanos)
  | beforeFirst (h : now.nanos - s.leaseTimeout.nanos < Instant.first.nanos)
  | sameAge (h : now.nanos - since.nanos = s.leaseTimeout.nanos)
  | future (h : now < since)

variable {s : OutboxSettings} {now since : Instant}

theorem lt_leaseCutoff_iff (hnow : ¬ now.IsLeap) (hsince : ¬ since.IsLeap) :
    since < s.leaseCutoff now ↔ s.Outlived now since := by
  rw [leaseCutoff, Instant.lt_before_iff hsince hnow, Outlived]
  omega

theorem Lasting.not_outlived (h : s.Lasting now since) (hnow : ¬ now.IsLeap) (hsince : ¬ since.IsLeap) :
    ¬ s.Outlived now since := by
  have hfirst := (Instant.le_iff_nanos (by decide) hsince).mp (Instant.first_le_self since)
  have hlast := (Instant.le_iff_nanos hnow (by decide)).mp (Instant.le_last_of_steady hnow)
  unfold Outlived
  cases h with
  | beyondShift h =>
    have hspan := Instant.span_le
    omega
  | beforeFirst h => omega
  | sameAge h => omega
  | future h =>
    have hlater := (Instant.lt_iff_nanos hnow hsince).mp h
    omega

end OutboxSettings

/-- A row in processing that was claimed at a time outside of leap seconds. -/
structure OutboxMessage.ClaimedSince (m : OutboxMessage) (since : Instant) : Prop where
  processing : m.status = .processing
  claimedAt : m.claimedAt = some since
  steady : ¬ since.IsLeap

theorem OutboxMessage.ClaimedSince.isClaimable_iff {m : OutboxMessage} {since now : Instant} (h : m.ClaimedSince since)
    (hnow : ¬ now.IsLeap) (s : OutboxSettings) :
    m.isClaimable now (s.leaseCutoff now) = true ↔ s.Outlived now since := by
  rw [isClaimable, h.processing, h.claimedAt]
  simp only [Option.any_some, decide_eq_true_eq]
  exact OutboxSettings.lt_leaseCutoff_iff hnow h.steady

namespace OutboxSettings
variable {s : OutboxSettings} {t since : Instant} {w : Moment} {m : OutboxMessage}

theorem Dated.eq_claiming {q : Inquiry} {id : MessageId} (h : s.Dated t q.call) (hq : q.tried? = some id) :
    q = ⟨s.claiming t id, q.moment⟩ := by
  obtain ⟨c, w⟩ := q
  cases c with
  | tryClaim =>
    obtain ⟨rfl, rfl, rfl⟩ := h
    cases hq
    rfl
  | _ => cases hq

theorem mem_listed_iff (hroom : w.store.outbox.countP (·.isClaimable t (s.leaseCutoff t)) ≤ s.batchSize)
    (hm : m ∈ w.store.outbox) (h : m.ClaimedSince since) (ht : ¬ t.IsLeap) :
    m ∈ s.listed w t ↔ s.Outlived t since := by
  rw [listed, Store.mem_claimable_iff hroom, h.isClaimable_iff ht, and_iff_right hm]

theorem reply_claiming (hfault : w.fault = none) (hm : m ∈ w.store.outbox) (h : m.ClaimedSince since)
    (ht : ¬ t.IsLeap) : w.reply (s.claiming t m.id) = .ok (decide (s.Outlived t since)) := by
  have hgrants : w.store.grants (s.claiming t m.id) = decide (s.Outlived t since) := by
    rw [Store.grants_row w.numbered hm rfl, Bool.eq_iff_iff, decide_eq_true_iff, ← h.isClaimable_iff ht]
    simp [OutboxMessage.under]
  rw [Moment.reply_of_faultless hfault]
  exact congrArg Except.ok hgrants

/-- A row whose claim is granted is the worker's from now on, and any other is left as it was. -/
theorem mem_deliver_claiming (hm : m ∈ w.store.outbox) (h : m.ClaimedSince since) (ht : ¬ t.IsLeap) :
    (if s.Outlived t since then m.claim s.workerId t else m) ∈ (w.store.deliver (s.claiming t m.id)).outbox := by
  have hclaimable := h.isClaimable_iff ht s
  apply (Store.mem_deliver w.numbered).mpr
  refine ⟨m, hm, ?_⟩
  rw [OutboxMessage.after, OutboxMessage.under]
  by_cases hold : s.Outlived t since
  · rw [if_pos hold, if_pos ⟨rfl, hclaimable.mpr hold⟩, Option.getD_some]
  · rw [if_neg hold, if_neg fun hc => hold (hclaimable.mp hc.2), Option.getD_none]

theorem claimed?_claiming (hfault : w.fault = none) (hm : m ∈ w.store.outbox) (h : m.ClaimedSince since)
    (ht : ¬ t.IsLeap) :
    Inquiry.claimed? ⟨s.claiming t m.id, w⟩ = if s.Outlived t since then some m.id else none := by
  rw [Inquiry.claimed?, Inquiry.granted, reply_claiming hfault hm h ht]
  by_cases hold : s.Outlived t since
  · rw [decide_eq_true hold, if_pos hold]
    rfl
  · rw [decide_eq_false hold, if_neg hold]
    rfl

end OutboxSettings

namespace Batch
variable {s : OutboxSettings} {log : List Inquiry} {r : Stored BatchReport} {t : Instant}

/-- When claims end in a batch that reads the time `t`. At every moment at which the store does not fail the listing
has, if there is room for all rows that are due, those in processing whose claims have outlived the lease, and it is
those that the worker can claim. So if the store never fails the batch gets them, unless others change them first. -/
structure Expiry (s : OutboxSettings) (log : List Inquiry) (t : Instant) : Prop where
  dated : ∀ q ∈ log, s.Dated t q.call
  claimable : ∀ m since, OutboxMessage.ClaimedSince m since →
    (m.isClaimable t (s.leaseCutoff t) = true ↔ s.Outlived t since)
  listed : ∀ w : Moment, w.fault = none → ∃ rows, w.reply (s.listing t) = .ok rows ∧
    (w.store.outbox.countP (·.isClaimable t (s.leaseCutoff t)) ≤ s.batchSize →
      ∀ m ∈ w.store.outbox, ∀ since, m.ClaimedSince since → (m ∈ rows ↔ s.Outlived t since))
  granted : ∀ w : Moment, w.fault = none → ∀ m ∈ w.store.outbox, ∀ since, m.ClaimedSince since →
    w.reply (s.claiming t m.id) = .ok (decide (s.Outlived t since)) ∧
      (if s.Outlived t since then m.claim s.workerId t else m) ∈ (w.store.deliver (s.claiming t m.id)).outbox
  claimed : (∀ q ∈ log, q.moment.fault = none) → ∃ w, ⟨s.listing t, w⟩ ∈ log ∧
    (w.store.outbox.countP (·.isClaimable t (s.leaseCutoff t)) ≤ s.batchSize →
      ∀ m ∈ w.store.outbox, ∀ since, m.ClaimedSince since →
        (∀ q ∈ log, q.tried? = some m.id → m ∈ q.moment.store.outbox) →
          (m.id ∈ log.filterMap Inquiry.claimed? ↔ s.Outlived t since))
  lasting : ∀ since, ¬ since.IsLeap → s.Lasting t since → ¬ s.Outlived t since

/-- Where the store does not fail rows are listed, and every row that was listed is tried. -/
private theorem Reports.listing (h : Reports s log r) (hdated : ∀ q ∈ log, s.Dated t q.call)
    (hfault : ∀ q ∈ log, q.moment.fault = none) :
    ∃ w, ⟨s.listing t, w⟩ ∈ log ∧ ∀ m ∈ s.listed w t, ∃ q ∈ log, q.tried? = some m.id := by
  cases h with
  | refused hclaims =>
    obtain ⟨_, hok⟩ := Deliver.sturdy_claimDue s log _ hclaims.ran hfault
    cases hok
  | @settled claims offers _ _ _ hclaims hoffers =>
    obtain ⟨w, t', taken, hclaimed, -⟩ := Deliver.claimDue_ran hclaims.ran
    have hin : (⟨s.listing t', w⟩ : Inquiry) ∈ claims := by
      apply List.mem_of_mem_filter (p := Inquiry.lists)
      rw [hclaimed.once]
      exact List.mem_singleton_self _
    obtain ⟨-, rfl, -⟩ := hdated _ (List.mem_append_left offers hin)
    refine ⟨w, List.mem_append_left offers hin, fun m hm => ?_⟩
    have htried : m.id ∈ claims.filterMap Inquiry.tried? := hclaimed.tries ▸ List.mem_map_of_mem hm
    obtain ⟨q, hq, hid⟩ := List.mem_filterMap.mp htried
    exact ⟨q, List.mem_append_left offers hq, hid⟩

private theorem Reports.expiry (h : Reports s log r) (hdated : ∀ q ∈ log, s.Dated t q.call) (ht : ¬ t.IsLeap) :
    Expiry s log t where
  dated := hdated
  claimable _ _ hsince := hsince.isClaimable_iff ht s
  listed w hfault := by
    refine ⟨s.listed w t, Moment.reply_of_faultless hfault _, fun hroom m hm since hsince => ?_⟩
    exact OutboxSettings.mem_listed_iff hroom hm hsince ht
  granted _ hfault _ hm _ hsince :=
    ⟨OutboxSettings.reply_claiming hfault hm hsince ht, OutboxSettings.mem_deliver_claiming hm hsince ht⟩
  claimed hfault := by
    obtain ⟨w, hlisting, htries⟩ := h.listing hdated hfault
    refine ⟨w, hlisting, fun hroom m hm since hsince hstill => ?_⟩
    have hclaimed : ∀ q ∈ log, q.tried? = some m.id →
        q.claimed? = if s.Outlived t since then some m.id else none := by
      intro q hq hid
      rw [(hdated q hq).eq_claiming hid]
      exact OutboxSettings.claimed?_claiming (hfault q hq) (hstill q hq hid) hsince ht
    constructor
    · intro hin
      obtain ⟨q, hq, hid⟩ := List.mem_filterMap.mp hin
      have htried : q.tried? = some m.id := (Option.ite_none_right_eq_some.mp hid).2
      rw [hclaimed q hq htried] at hid
      exact (Option.ite_none_right_eq_some.mp hid).1
    · intro hold
      have hlisted := (OutboxSettings.mem_listed_iff hroom hm hsince ht).mpr hold
      obtain ⟨q, hq, htried⟩ := htries m hlisted
      exact List.mem_filterMap.mpr ⟨q, hq, (hclaimed q hq htried).trans (if_pos hold)⟩
  lasting _ hsince hlasting := hlasting.not_outlived ht hsince

/-- A batch takes over the rows in processing that were claimed longer ago than the lease, to the nanosecond, and no
others. -/
theorem claims_expire (h : Reports s log r) :
    ∃ w rest, log = ⟨.now, w⟩ :: rest ∧ (¬ w.time.IsLeap → Expiry s log w.time) := by
  obtain ⟨w, rest, hlog, hdated⟩ := h.dated
  exact ⟨w, rest, hlog, fun ht => h.expiry hdated ht⟩

/-- Of three rows in processing one has a claim as old as the lease is long, one a claim that is older by a nanosecond,
and one a claim from the future. Only the second is taken over. -/
theorem claims_expire_oneNanosecond :
    let row (id : UInt64) (since : Instant) : OutboxMessage :=
      (OutboxMessage.pending ⟨⟨0, id⟩⟩ "RegistrationConfirmed" .null .newYear2024).claim "a" since
    let expiring := row 1 (Instant.newYear2024.before (.ofSeconds 30))
    let expired := row 2 { second := 1704067169, nano := 999_999_999 }
    let ahead := row 3 (Instant.newYear2024.after (.ofSeconds 1))
    let moment (outbox : List OutboxMessage) (h : (outbox.map OutboxMessage.id).Nodup) : Moment :=
      { store := { outbox }, numbered := h, time := .newYear2024 }
    let world (n : Nat) : Moment :=
      if n < 3 then moment [expiring, expired, ahead] (by decide)
      else moment [expiring, expired.claim "b" .newYear2024, ahead] (by decide)
    let settings : OutboxSettings := { workerId := "b" }
    let log := ((Deliver.batch settings).run.exec (Moment.attend world) []).2
    let report : BatchReport := { claimed := 1, published := 1 }
    Reports settings log (.ok report) ∧ Expiry settings log .newYear2024 ∧
      expiring.id ∉ log.filterMap Inquiry.claimed? ∧ expired.id ∈ log.filterMap Inquiry.claimed? ∧
      ahead.id ∉ log.filterMap Inquiry.claimed? := by
  intro row expiring expired ahead moment world settings log report
  have hreports := Reports.exec settings world
  have hresult : ((Deliver.batch settings).run.exec (Moment.attend world) []).1 = .ok report := by cbv
  rw [hresult] at hreports
  obtain ⟨w, rest, hlog, hexpiry⟩ := claims_expire hreports
  have hall : ((Deliver.batch settings).run.exec (Moment.attend world) []).2 = [⟨.now, world 0⟩,
      ⟨settings.listing .newYear2024, world 1⟩, ⟨settings.claiming .newYear2024 expired.id, world 2⟩,
      ⟨.count .claimed 1, world 3⟩, ⟨.publish expired.messageType (expired.claim "b" .newYear2024), world 4⟩,
      ⟨.now, world 5⟩, ⟨.markProcessed expired.id "b" .newYear2024, world 6⟩, ⟨.count .published 1, world 7⟩] := by cbv
  obtain rfl : w = world 0 := congrArg Inquiry.moment (List.cons.inj (hlog.symm.trans hall)).1
  have hexp : Expiry settings log .newYear2024 := hexpiry (by decide)
  have hfault : ∀ q ∈ log, q.moment.fault = none := by
    simp only [log, hall, List.forall_mem_cons]
    exact ⟨rfl, rfl, rfl, rfl, rfl, rfl, rfl, rfl, by simp⟩
  have hstill : ∀ m ∈ (world 1).store.outbox, ∀ q ∈ log, q.tried? = some m.id → m ∈ q.moment.store.outbox := by
    intro m hm
    simp only [log, hall, List.forall_mem_cons, Inquiry.tried?, reduceCtorEq, false_implies, true_and]
    exact ⟨fun _ => hm, by simp⟩
  obtain ⟨v, hlisting, hclaimed⟩ := hexp.claimed hfault
  obtain rfl : v = world 1 := by
    simp only [log, hall] at hlisting
    simpa using hlisting
  have hage : ∀ m ∈ (world 1).store.outbox, ∀ since, m.ClaimedSince since →
      (m.id ∈ log.filterMap Inquiry.claimed? ↔ settings.Outlived .newYear2024 since) :=
    fun m hm since hsince => hclaimed (by decide) m hm since hsince (hstill m hm)
  refine ⟨hreports, hexp, ?_, ?_, ?_⟩
  · rw [hage expiring (by simp [world, moment]) _ ⟨rfl, rfl, by decide⟩]
    decide
  · rw [hage expired (by simp [world, moment]) _ ⟨rfl, rfl, by decide⟩]
    decide
  · rw [hage ahead (by simp [world, moment]) _ ⟨rfl, rfl, by decide⟩]
    decide

end Batch
end Turnstile
