import Turnstile.Proofs.Outbox.Evidence

/-!
What a lease is good for. As long as every publish is settled before the lease of its claim is over, nobody else
can take the row meanwhile.
-/

namespace Turnstile
variable {ι : Type}

namespace Exchange
variable {lease : Duration} {now now' : Instant} {log : List (Exchange ι)} {x : Exchange ι}

/-- Every publish of a claimed row takes place before the lease of the claim is over, and so does the call that
settles it, for which there may still be time. -/
def InTime (lease : Duration) (now : Instant) : List (Exchange ι) → Prop
  | [] => True
  | e :: rest =>
    (∀ o ∈ e.offer?, ∀ t ∈ o.2.claimedAt, e.time ≤ t.after lease ∧ (now ≤ t.after lease ∨
      ∃ x ∈ rest, x.worker = e.worker ∧ x.settles o.2.id = true ∧ x.time ≤ t.after lease)) ∧
    InTime lease now rest

instance decidableInTime [DecidableEq ι] (lease : Duration) (now : Instant) :
    (log : List (Exchange ι)) → Decidable (InTime lease now log)
  | [] => .isTrue trivial
  | e :: rest =>
    haveI := decidableInTime lease now rest
    inferInstanceAs (Decidable ((∀ o ∈ e.offer?, ∀ t ∈ o.2.claimedAt, e.time ≤ t.after lease ∧ (now ≤ t.after lease ∨
      ∃ x ∈ rest, x.worker = e.worker ∧ x.settles o.2.id = true ∧ x.time ≤ t.after lease)) ∧ InTime lease now rest))

theorem InTime.earlier (h : InTime lease now' log) (hle : now ≤ now') : InTime lease now log := by
  induction log with
  | nil => trivial
  | cons e rest ih =>
    refine ⟨fun o ho t ht => ?_, ih h.2⟩
    obtain ⟨hpublish, hsettle⟩ := h.1 o ho t ht
    exact ⟨hpublish, hsettle.imp hle.trans id⟩

theorem InTime.before (h : InTime lease now (log ++ [x])) (hx : x.time = now) : InTime lease now log := by
  induction log with
  | nil => trivial
  | cons e rest ih =>
    refine ⟨fun o ho t ht => ?_, ih h.2⟩
    obtain ⟨hpublish, hopen | ⟨y, hy, hworker, hsettles, hintime⟩⟩ := h.1 o ho t ht
    · exact ⟨hpublish, .inl hopen⟩
    · rcases List.mem_append.mp hy with hy | hy
      · exact ⟨hpublish, .inr ⟨y, hy, hworker, hsettles, hintime⟩⟩
      · obtain rfl := List.mem_singleton.mp hy
        exact ⟨hpublish, .inl (hx ▸ hintime)⟩

/-- For what is with the bus there is still time. -/
theorem InTime.open (h : InTime lease now log) {i : ι} {o : OutboxMessage × Except BusError Unit}
    (ho : AtBus log i o) {t : Instant} (ht : o.1.claimedAt = some t) : now ≤ t.after lease := by
  obtain ⟨before, time, after, rfl, hafter⟩ := ho
  induction before with
  | nil =>
    obtain ⟨-, hopen | ⟨x, hx, hworker, hsettles, -⟩⟩ := h.1 _ rfl t ht
    · exact hopen
    · exact absurd hsettles (by simp [hafter x hx hworker])
  | cons e rest ih => exact ih h.2

end Exchange

/-- A claim whose lease is not over. -/
def OutboxMessage.Leased (m : OutboxMessage) (lease : Duration) (now : Instant) : Prop :=
  ∃ t, m.claimedAt = some t ∧ now ≤ t.after lease

namespace Scene
variable {sc sc' : Scene ι} {origin : List (MessageId × String × Json × Instant)} {lease : Duration}

/-- During a lease the row is its worker's, and no other worker has a lease of it. -/
structure Exclusive (lease : Duration) (sc : Scene ι) : Prop where
  settings : ∀ i, (sc.settings i).leaseTimeout = lease
  owned : ∀ i, ∀ m ∈ (sc.errands i).held, m.Leased lease sc.clock → ∀ row ∈ sc.store.outbox, row.id = m.id →
    row.status = .processing ∧ row.claimedAt = m.claimedAt ∧ row.claimedBy = some (sc.settings i).workerId
  alone : ∀ i j, ∀ m ∈ (sc.errands i).held, ∀ m' ∈ (sc.errands j).held, m.id = m'.id →
    m.Leased lease sc.clock → m'.Leased lease sc.clock → i = j

theorem exclusive_start {settings : ι → OutboxSettings} (hlease : ∀ i, (settings i).leaseTimeout = lease)
    (store : Store) (clock : Instant) :
    Exclusive lease { settings, store, clock, errands := fun _ => .publishing [], log := [] } where
  settings := hlease
  owned i m hm := by cases hm
  alone i j m hm := by cases hm

theorem Step.inTime [DecidableEq ι] (hs : Step sc sc') (h : Exchange.InTime lease sc'.clock sc'.log) :
    Exchange.InTime lease sc.clock sc.log := by
  cases hs with
  | tick hle => exact h.earlier hle
  | proceed => exact h
  | call => exact h.before rfl

/-- What is with the bus is leased, if everybody is in time. -/
theorem Recorded.leased (h : sc.Recorded) (hsound : sc.Sound origin)
    (hin : Exchange.InTime lease sc.clock sc.log) {i : ι} {o : OutboxMessage × Except BusError Unit}
    (ho : o ∈ (sc.errands i).offered) : o.1.Leased lease sc.clock := by
  obtain ⟨t, ht, -⟩ := (hsound.errands i).claimed o.1 (Errand.held_of_offered ho)
  exact ⟨t, ht, hin.open (h.offered i o ho) ht⟩

/-- A leased row cannot be claimed, even by a worker that looked at the clock long ago. -/
theorem Exclusive.not_claimable (h : sc.Exclusive lease) (hsound : sc.Sound origin) {i j : ι} {t : Instant}
    (ht : (sc.errands i).since? = some t) {m row : OutboxMessage} (hm : m ∈ (sc.errands j).held)
    (hleased : m.Leased lease sc.clock) (hrow : row ∈ sc.store.outbox) (hid : row.id = m.id) :
    row.isClaimable t ((sc.settings i).leaseCutoff t) = false := by
  obtain ⟨hpast, hsteady⟩ := (hsound.errands i).begun t ht
  obtain ⟨u, hu, hin⟩ := hleased
  obtain ⟨hprocessing, hat, -⟩ := h.owned j m hm ⟨u, hu, hin⟩ row hrow hid
  refine Bool.eq_false_iff.mpr fun hclaim => ?_
  rcases OutboxMessage.isClaimable_iff.mp hclaim with ⟨hpending, -⟩ | ⟨-, u', hu', hold⟩
  · rw [hprocessing] at hpending
    cases hpending
  · obtain rfl : u' = u := Option.some_inj.mp (hu'.symm.trans (hat.trans hu))
    obtain ⟨v, hv, hsteady'⟩ := (hsound.errands j).claimed m hm
    obtain rfl : u' = v := Option.some_inj.mp (hu.symm.trans hv)
    rw [OutboxSettings.leaseCutoff, h.settings i] at hold
    have hover := Instant.after_lt_of_lt_before hsteady' hsteady hold
    exact absurd (hin.trans_lt hover) (not_lt.mpr hpast)

/-- A row that was claimed just now nobody had a lease of. -/
private theorem Exclusive.free (h : sc.Exclusive lease) (hsound : sc.Sound origin) {t : Instant} {id : MessageId}
    {i j : ι} (ht : (sc.errands i).since? = some t)
    (hg : sc.store.grants (.tryClaim id (sc.settings i).workerId t ((sc.settings i).leaseCutoff t)) = true)
    {m : OutboxMessage} (hm : m ∈ (sc.errands j).held) (hid : id = m.id) : ¬ m.Leased lease sc.clock := by
  intro hleased
  obtain ⟨row, hrow, hrowid, hclaim⟩ := Store.row_of_tryClaim hsound.numbered hg
  have hnot := h.not_claimable hsound ht hm hleased hrow (hrowid.trans hid)
  rw [hclaim] at hnot
  cases hnot

section call
variable [DecidableEq ι] {i j : ι} {bus : Except BusError Unit} {c : OutboxCall} {e : Errand} {m : OutboxMessage}

private theorem Exclusive.owned_call (h : sc.Exclusive lease) (hsound : sc.Sound origin) (hrec : sc.Recorded)
    (hin : Exchange.InTime lease sc.clock sc.log)
    (hn : (sc.errands i).Next (sc.settings i) sc.store sc.clock bus c e)
    (hm : m ∈ (Function.update sc.errands i e j).held) (hleased : m.Leased lease sc.clock) {row : OutboxMessage}
    (hrow : row ∈ sc.store.outbox) (hid : row.id = m.id) :
    (row.after c).status = .processing ∧ (row.after c).claimedAt = m.claimedAt ∧
      (row.after c).claimedBy = some (sc.settings j).workerId := by
  rcases held_update hn hm with hheld | ⟨rfl, t, -, m₀, -, hc, hg, rfl⟩
  · cases hu : row.under c with
    | none =>
      rw [OutboxMessage.after_of_none hu]
      exact h.owned j m hheld hleased row hrow hid
    | some row' =>
      rcases OutboxMessage.claimed_or_settled hu with ⟨worker, t, cutoff, rfl, hclaim, -⟩ | ⟨worker, hsettled, -, -⟩
      · obtain ⟨ht, -, rfl, -⟩ := hn.of_tryClaim
        rw [h.not_claimable hsound (Errand.since?_of_claiming? ht) hheld hleased hrow hid] at hclaim
        cases hclaim
      · -- Whoever settles the row now has a lease of it, and so is this worker.
        obtain ⟨o, ho, -, hids⟩ := hn.of_settled hsettled
        have hido : m.id = o.1.id := hid.symm.trans (congrArg Prod.fst hids)
        obtain rfl := h.alone j i m hheld o.1 (Errand.held_of_offered ho) hido hleased
          (hrec.leased hsound hin ho)
        rw [Function.update_self] at hm
        exact absurd hid.symm (hn.not_held_of_settled hsettled (hsound.errands j).nodup_held m hm)
  · obtain rfl : c = .tryClaim row.id (sc.settings j).workerId t ((sc.settings j).leaseCutoff t) :=
      hc.trans (congrArg (OutboxCall.tryClaim · _ _ _) hid.symm)
    rw [(Store.after_of_tryClaim hsound.numbered hrow hg).2]
    exact ⟨rfl, rfl, rfl⟩

private theorem Exclusive.alone_call (h : sc.Exclusive lease) (hsound : sc.Sound origin)
    (hn : (sc.errands i).Next (sc.settings i) sc.store sc.clock bus c e) {k : ι} {m' : OutboxMessage}
    (hm : m ∈ (Function.update sc.errands i e j).held) (hm' : m' ∈ (Function.update sc.errands i e k).held)
    (hid : m.id = m'.id) (hleased : m.Leased lease sc.clock) (hleased' : m'.Leased lease sc.clock) :
    j = k := by
  rcases held_update hn hm with hheld | ⟨rfl, t, ht, m₀, -, rfl, hg, rfl⟩
  · rcases held_update hn hm' with hheld' | ⟨rfl, t, ht, m₀, -, rfl, hg, rfl⟩
    · exact h.alone j k m hheld m' hheld' hid hleased hleased'
    · exact absurd hleased (h.free hsound ht hg hheld hid.symm)
  · rcases held_update hn hm' with hheld' | ⟨rfl, -⟩
    · exact absurd hleased' (h.free hsound ht hg hheld' hid)
    · rfl

end call

theorem Exclusive.step [DecidableEq ι] (h : sc.Exclusive lease) (hsound : sc.Sound origin) (hrec : sc.Recorded)
    (hin : Exchange.InTime lease sc.clock sc.log) (hs : Step sc sc') : sc'.Exclusive lease := by
  cases hs with
  | tick hle =>
    have hleased : ∀ {m : OutboxMessage} {now now' : Instant}, now ≤ now' →
        m.Leased lease now' → m.Leased lease now := by
      rintro m now now' hle ⟨t, ht, hin⟩
      exact ⟨t, ht, hle.trans hin⟩
    exact {
      settings := h.settings
      owned := fun i m hm hm' => h.owned i m hm (hleased hle hm')
      alone := fun i j m hm m' hm' hid h₁ h₂ => h.alone i j m hm m' hm' hid (hleased hle h₁) (hleased hle h₂) }
  | proceed i hp =>
    exact {
      settings := h.settings
      owned := fun j m hm => h.owned j m ((hp.all j).held_perm.mem_iff.mp hm)
      alone := fun j k m hm m' hm' =>
        h.alone j k m ((hp.all j).held_perm.mem_iff.mp hm) m' ((hp.all k).held_perm.mem_iff.mp hm') }
  | @call i bus c e hn =>
    refine ⟨h.settings, fun j m hm hleased row hrow hid => ?_, fun j k m hm m' hm' hid => ?_⟩
    · obtain ⟨row, hrow', rfl⟩ := (Store.mem_deliver hsound.numbered).mp hrow
      rw [OutboxMessage.id_after] at hid
      exact h.owned_call hsound hrec hin hn hm hleased hrow' hid
    · exact h.alone_call hsound hn hm hm' hid

end Scene

end Turnstile
