import Turnstile.Proofs.Outbox.LifeCycle
import Turnstile.Proofs.Outbox.Retries

/-!
How far the rows count their failed publishes. The number that a worker writes down is one more than the number it
saw when it listed the due rows, so no failure is counted twice, and one is lost exactly when the row was sent
back to wait between the list and the claim.
-/

namespace Turnstile
variable {ι : Type}

namespace Exchange
variable {log : List (Exchange ι)} {x : Exchange ι} {id : MessageId}

/-- The failed publishes of a row that were written down. -/
def failures (log : List (Exchange ι)) (id : MessageId) : Nat := log.countP (·.recordsFailure id)

theorem failures_concat : failures (log ++ [x]) id = failures log id + if x.recordsFailure id = true then 1 else 0 := by
  rw [failures, List.countP_append, List.countP_singleton, failures]

theorem failures_le_concat : failures log id ≤ failures (log ++ [x]) id := by
  rw [failures_concat]
  exact Nat.le_add_right _ _

end Exchange

namespace Scene
variable {sc sc' : Scene ι} {origin : List (MessageId × String × Json × Instant)}

/-- No number of attempts, on a row or in the hands of a worker, is more than the failures written down. -/
structure Bounded (sc : Scene ι) : Prop where
  rows : ∀ row ∈ sc.store.outbox, row.attempts.toNat ≤ Exchange.failures sc.log row.id
  copies : ∀ i, ∀ m ∈ (sc.errands i).held ++ (sc.errands i).todo, m.attempts.toNat ≤ Exchange.failures sc.log m.id

theorem bounded_start {store : Store} (hnew : ∀ m ∈ store.outbox, m.Created) (settings : ι → OutboxSettings)
    (clock : Instant) : Bounded { settings, store, clock, errands := fun _ => .publishing [], log := [] } where
  rows row hrow := by
    rw [(hnew row hrow).eq_pending]
    exact Nat.zero_le _
  copies i m hm := by cases hm

section call
variable {i : ι} {bus : Except BusError Unit} {c : OutboxCall} {e : Errand} {m row : OutboxMessage}

/-- Where the numbers in the hands of a worker come from. -/
private theorem copies_call (hn : (sc.errands i).Next (sc.settings i) sc.store sc.clock bus c e)
    (hm : m ∈ e.held ++ e.todo) : m ∈ sc.store.outbox ∨
      ∃ m₀ ∈ (sc.errands i).held ++ (sc.errands i).todo, m₀.id = m.id ∧ m₀.attempts = m.attempts := by
  rcases List.mem_append.mp hm with hm | hm
  · rcases hn.held_cases hm with hm | ⟨t, -, m₀, hm₀, -, -, rfl⟩
    · exact .inr ⟨m, List.mem_append_left _ hm, rfl, rfl⟩
    · exact .inr ⟨m₀, List.mem_append_right _ hm₀, rfl, rfl⟩
  · rcases hn.todo_cases hm with hm | ⟨hm, -⟩
    · exact .inr ⟨m, List.mem_append_right _ hm, rfl, rfl⟩
    · exact .inl hm

private theorem toNat_succ_le (n : UInt32) : (n + 1).toNat ≤ n.toNat + 1 := by
  rw [UInt32.toNat_add]
  exact Nat.mod_le _ _

private theorem toNat_succ {n : UInt32} (h : n.toNat + 1 < UInt32.size) : (n + 1).toNat = n.toNat + 1 := by
  rw [UInt32.toNat_add]
  exact Nat.mod_eq_of_lt h

private theorem Bounded.rows_call (h : sc.Bounded) (hids : sc.store.Numbered)
    (hn : (sc.errands i).Next (sc.settings i) sc.store sc.clock bus c e) (hrow : row ∈ sc.store.outbox) :
    (row.after c).attempts.toNat ≤
      Exchange.failures (sc.log ++ [sc.store.exchange i sc.clock bus c]) row.id := by
  rw [Exchange.failures_concat]
  rcases failure_cases hids hn hrow with ⟨hnone, hsame⟩ | ⟨hfailure, -, -, o, ho, hid, hattempts, -⟩
  · rw [hsame, hnone]
    exact h.rows row hrow
  · have hcopy := h.copies i o.1 (List.mem_append_left _ (Errand.held_of_offered ho))
    rw [hid] at hcopy
    rw [hattempts, if_pos hfailure]
    exact Nat.le_trans (toNat_succ_le _) (Nat.succ_le_succ hcopy)

end call

theorem Bounded.step [DecidableEq ι] (h : sc.Bounded) (hids : sc.store.Numbered) (hs : Step sc sc') : sc'.Bounded := by
  cases hs with
  | tick => exact ⟨h.rows, h.copies⟩
  | proceed i hp =>
    refine ⟨h.rows, fun j m hm => h.copies j m ?_⟩
    rcases List.mem_append.mp hm with hm | hm
    · exact List.mem_append_left _ ((hp.all j).held_perm.mem_iff.mp hm)
    · rcases (hp.all j).todo_cases with hsame | ⟨htodo, -⟩
      · exact List.mem_append_right _ (hsame ▸ hm)
      · rw [htodo] at hm
        cases hm
  | @call i bus c e hn =>
    refine ⟨fun row hrow => ?_, fun j m hm => ?_⟩
    · obtain ⟨row, hrow', rfl⟩ := (Store.mem_deliver hids).mp hrow
      rw [OutboxMessage.id_after]
      exact h.rows_call hids hn hrow'
    · refine Nat.le_trans ?_ Exchange.failures_le_concat
      by_cases hj : j = i
      · subst hj
        simp only [Function.update_self] at hm
        rcases copies_call hn hm with hm | ⟨m₀, hm₀, hid, hattempts⟩
        · exact h.rows m hm
        · exact hid ▸ hattempts ▸ h.copies j m₀ hm₀
      · simp only [Function.update_of_ne hj] at hm
        exact h.copies j m hm

variable [DecidableEq ι]

/-- Every row counts its failures. What its owner has in hand agrees with the row, and so does what a worker is about
to claim, unless the row was sent back to wait meanwhile. -/
structure Exact (sc : Scene ι) : Prop where
  workers : Function.Injective fun i => (sc.settings i).workerId
  rows : ∀ row ∈ sc.store.outbox, row.attempts.toNat = Exchange.failures sc.log row.id
  room : ∀ row ∈ sc.store.outbox, row.Ended ∨ row.attempts.toNat + 1 < UInt32.size
  held : ∀ i, ∀ m ∈ (sc.errands i).held, ∀ row ∈ sc.store.outbox, row.id = m.id → row.status = .processing →
    row.claimedBy = some (sc.settings i).workerId → m.attempts = row.attempts
  todo : ∀ i, ∀ m ∈ (sc.errands i).todo, ∀ row ∈ sc.store.outbox, row.id = m.id →
    m.attempts = row.attempts ∨ row.Ended ∨ ∃ x ∈ Exchange.sinceListing i sc.log, x.retries row.id = true
  retried : ∀ before e after, sc.log = before ++ e :: after → ∀ id, e.retries id = true →
    Exchange.failures before id + 1 < (sc.settings e.worker).maxAttempts.toNat

theorem exact_start {store : Store} (hnew : ∀ m ∈ store.outbox, m.Created) {settings : ι → OutboxSettings}
    (hworkers : Function.Injective fun i => (settings i).workerId) (clock : Instant) :
    Exact { settings, store, clock, errands := fun _ => .publishing [], log := [] } where
  workers := hworkers
  rows row hrow := by
    rw [(hnew row hrow).eq_pending]
    rfl
  room row hrow := by
    rw [(hnew row hrow).eq_pending]
    exact .inr (show 0 + 1 < UInt32.size by decide)
  held i m hm := by cases hm
  todo i m hm := by cases hm
  retried before e after hlog := by simp at hlog

section call
variable {i j : ι} {bus : Except BusError Unit} {c : OutboxCall} {e : Errand} {m row : OutboxMessage}

/-- Who writes down a failure knows how many there were. -/
private theorem Exact.failure (h : sc.Exact) (hids : sc.store.Numbered)
    (hn : (sc.errands i).Next (sc.settings i) sc.store sc.clock bus c e) (hrow : row ∈ sc.store.outbox) :
    let x := sc.store.exchange i sc.clock bus c
    (x.recordsFailure row.id = false ∧ (row.after c).attempts = row.attempts) ∨
      (x.recordsFailure row.id = true ∧ (row.after c).attempts.toNat = row.attempts.toNat + 1 ∧
        ((row.after c).Ended ∧ x.retries row.id = false ∨
          (row.after c).attempts.toNat < (sc.settings i).maxAttempts.toNat ∧ x.retries row.id = true)) := by
  refine (failure_cases hids hn hrow).imp_right ?_
  rintro ⟨hfailure, hs, hw, o, ho, hid, hattempts, hend⟩
  have hcopy := h.held i o.1 (Errand.held_of_offered ho) row hrow hid.symm hs hw
  have hroom : row.attempts.toNat + 1 < UInt32.size := by
    refine (h.room row hrow).resolve_left fun hended => ?_
    simp [OutboxMessage.Ended, hs] at hended
  rw [hcopy] at hattempts hend
  refine ⟨hfailure, by rw [hattempts, toNat_succ hroom], ?_⟩
  rcases hend with hended | ⟨hlt, -, hdeed⟩
  · exact .inl hended
  · rw [hattempts]
    exact .inr ⟨hlt, Exchange.retries_of_deed? hdeed⟩

private theorem Exact.rows_call (h : sc.Exact) (hids : sc.store.Numbered)
    (hn : (sc.errands i).Next (sc.settings i) sc.store sc.clock bus c e) (hrow : row ∈ sc.store.outbox) :
    (row.after c).attempts.toNat =
      Exchange.failures (sc.log ++ [sc.store.exchange i sc.clock bus c]) row.id := by
  rw [Exchange.failures_concat, ← h.rows row hrow]
  rcases h.failure hids hn hrow with ⟨hnone, hsame⟩ | ⟨hfailure, hmore, -⟩
  · rw [hsame, hnone]
    rfl
  · rw [hmore, if_pos hfailure]

private theorem Exact.room_call (h : sc.Exact) (hids : sc.store.Numbered)
    (hn : (sc.errands i).Next (sc.settings i) sc.store sc.clock bus c e) (hrow : row ∈ sc.store.outbox) :
    (row.after c).Ended ∨ (row.after c).attempts.toNat + 1 < UInt32.size := by
  rcases h.failure hids hn hrow with ⟨-, hsame⟩ | ⟨-, -, ⟨hended, -⟩ | ⟨hlt, -⟩⟩
  · rw [hsame]
    refine (h.room row hrow).imp_left fun hended => ?_
    exact (Store.ended_after_iff hids hrow i sc.clock bus c).mpr (.inl hended)
  · exact .inl hended
  · exact .inr (Nat.lt_of_le_of_lt hlt (UInt32.toNat_lt_size _))

private theorem Exact.held_call (h : sc.Exact) (hsound : sc.Sound origin)
    (hn : (sc.errands i).Next (sc.settings i) sc.store sc.clock bus c e)
    (hfresh : Exchange.NoStaleClaim (sc.log ++ [sc.store.exchange i sc.clock bus c]))
    (hm : m ∈ (Function.update sc.errands i e j).held) (hrow : row ∈ sc.store.outbox) (hid : row.id = m.id)
    (hs : (row.after c).status = .processing) (hw : (row.after c).claimedBy = some (sc.settings j).workerId) :
    m.attempts = (row.after c).attempts := by
  rcases held_update hn hm with hheld | ⟨rfl, t, -, m₀, hm₀, hc, hg, rfl⟩
  · cases hu : row.under c with
    | none =>
      rw [OutboxMessage.after_of_none hu] at hs hw ⊢
      exact h.held j m hheld row hrow hid hs hw
    | some row' =>
      rw [OutboxMessage.after_of_under hu] at hs hw
      rcases OutboxMessage.under_cases hu with ⟨worker, t, cutoff, rfl, -, rfl⟩ |
        ⟨_, -, -, ⟨_, -, rfl⟩ | ⟨_, _, _, -, rfl⟩ | ⟨_, _, -, rfl⟩⟩
      · -- No worker claims a row that it has in hand already.
        obtain ⟨-, rfl, -, m₀, hm₀, hid₀⟩ := hn.of_tryClaim
        obtain rfl : i = j := h.workers (Option.some_inj.mp hw)
        exact absurd (hid.symm.trans hid₀.symm) ((hsound.errands i).held_ne_todo hheld hm₀)
      · cases hs
      · cases hs
      · cases hs
  · obtain rfl : c = .tryClaim row.id (sc.settings j).workerId t ((sc.settings j).leaseCutoff t) :=
      hc.trans (congrArg (OutboxCall.tryClaim · _ _ _) hid.symm)
    obtain ⟨hclaim, hafter⟩ := Store.after_of_tryClaim hsound.numbered hrow hg
    rw [hafter]
    rcases h.todo j m₀ hm₀ row hrow hid with hsame | hended | ⟨x, hx, hretry⟩
    · exact hsame
    · rcases OutboxMessage.isClaimable_iff.mp hclaim with ⟨hs, -⟩ | ⟨hs, -⟩ <;>
        simp [OutboxMessage.Ended, hs] at hended
    · have hnot := hfresh sc.log _ [] rfl row.id (Store.claims_of_grants hg) x hx
      rw [hretry] at hnot
      cases hnot

private theorem Exact.todo_call (h : sc.Exact) (hsound : sc.Sound origin)
    (hn : (sc.errands i).Next (sc.settings i) sc.store sc.clock bus c e)
    (hm : m ∈ (Function.update sc.errands i e j).todo) (hrow : row ∈ sc.store.outbox) (hid : row.id = m.id) :
    m.attempts = (row.after c).attempts ∨ (row.after c).Ended ∨
      ∃ x ∈ Exchange.sinceListing j (sc.log ++ [sc.store.exchange i sc.clock bus c]), x.retries row.id = true := by
  have hcases : (m ∈ (sc.errands j).todo ∧ ¬ (i = j ∧ c.lists = true)) ∨ m ∈ sc.store.outbox ∧ c.lists = true := by
    by_cases hj : j = i
    · subst hj
      rw [Function.update_self] at hm
      refine (hn.todo_cases hm).imp_left fun hm => ⟨hm, fun hlists => ?_⟩
      rw [hn.todo_of_lists hlists.2] at hm
      cases hm
    · rw [Function.update_of_ne hj] at hm
      exact .inl ⟨hm, fun hlists => hj hlists.1.symm⟩
  rcases hcases with ⟨hm, hlists⟩ | ⟨hm, hlists⟩
  · have hsince : Exchange.sinceListing j (sc.log ++ [sc.store.exchange i sc.clock bus c]) =
        sc.store.exchange i sc.clock bus c :: Exchange.sinceListing j sc.log :=
      Exchange.sinceListing_concat.trans (if_neg hlists)
    rw [hsince]
    rcases h.todo j m hm row hrow hid with hsame | hended | ⟨x, hx, hretry⟩
    · rw [hsame]
      rcases h.failure hsound.numbered hn hrow with ⟨-, hkept⟩ | ⟨-, -, ⟨hended, -⟩ | ⟨-, hretry⟩⟩
      · exact .inl hkept.symm
      · exact .inr (.inl hended)
      · exact .inr (.inr ⟨_, List.mem_cons_self, hretry⟩)
    · exact .inr (.inl ((Store.ended_after_iff hsound.numbered hrow i sc.clock bus c).mpr (.inl hended)))
    · exact .inr (.inr ⟨x, List.mem_cons_of_mem _ hx, hretry⟩)
  · obtain rfl := hsound.numbered.eq_of_id hrow hm hid
    have hu : row.under c = none := by
      cases c <;> first | rfl | cases hlists
    exact .inl (by rw [OutboxMessage.after_of_none hu])

private theorem Exact.retried_call (h : sc.Exact) (hsound : sc.Sound origin)
    (hn : (sc.errands i).Next (sc.settings i) sc.store sc.clock bus c e) {id : MessageId}
    (hretry : (sc.store.exchange i sc.clock bus c).retries id = true) :
    Exchange.failures sc.log id + 1 < (sc.settings i).maxAttempts.toNat := by
  obtain ⟨next, hdeed⟩ := Exchange.deed?_of_retries hretry
  obtain ⟨row, hrow, rfl⟩ := Store.row_of_deed? hsound.numbered hdeed
  rcases h.failure hsound.numbered hn hrow with ⟨hnone, -⟩ | ⟨-, hmore, ⟨-, hnone⟩ | ⟨hlt, -⟩⟩
  · rw [Exchange.recordsFailure, hretry] at hnone
    cases hnone
  · rw [hretry] at hnone
    cases hnone
  · rwa [← h.rows row hrow, ← hmore]

end call

theorem Exact.step (h : sc.Exact) (hsound : sc.Sound origin) (hs : Step sc sc')
    (hfresh : Exchange.NoStaleClaim sc'.log) : sc'.Exact := by
  cases hs with
  | tick => exact ⟨h.workers, h.rows, h.room, h.held, h.todo, h.retried⟩
  | proceed i hp =>
    refine ⟨h.workers, h.rows, h.room, fun j m hm => ?_, fun j m hm => ?_, h.retried⟩
    · exact h.held j m ((hp.all j).held_perm.mem_iff.mp hm)
    · rcases (hp.all j).todo_cases with hsame | ⟨htodo, -⟩
      · exact h.todo j m (hsame ▸ hm)
      · rw [htodo] at hm
        cases hm
  | @call i bus c e hn =>
    refine ⟨h.workers, fun row hrow => ?_, fun row hrow => ?_, fun j m hm row hrow hid hs hw => ?_,
      fun j m hm row hrow hid => ?_, fun before x after hlog id hretry => ?_⟩
    · obtain ⟨row₀, hrow₀, rfl⟩ := (Store.mem_deliver hsound.numbered).mp hrow
      rw [OutboxMessage.id_after]
      exact h.rows_call hsound.numbered hn hrow₀
    · obtain ⟨row₀, hrow₀, rfl⟩ := (Store.mem_deliver hsound.numbered).mp hrow
      exact h.room_call hsound.numbered hn hrow₀
    · obtain ⟨row₀, hrow₀, rfl⟩ := (Store.mem_deliver hsound.numbered).mp hrow
      rw [OutboxMessage.id_after] at hid
      exact h.held_call hsound hn hfresh hm hrow₀ hid hs hw
    · obtain ⟨row₀, hrow₀, rfl⟩ := (Store.mem_deliver hsound.numbered).mp hrow
      rw [OutboxMessage.id_after] at hid ⊢
      exact h.todo_call hsound hn hm hrow₀ hid
    · rcases Exchange.split_concat hlog with ⟨rfl, rfl, -⟩ | ⟨after', rfl, hlog'⟩
      · exact h.retried_call hsound hn hretry
      · exact h.retried before x after' hlog' id hretry

/-- What holds along every run of the workers, along those that write down every retry in advance, and along those
without stale claims. -/
theorem counting_facts (hrun : Relation.ReflTransGen Step sc sc') (hsound : sc.Sound origin) (hbounded : sc.Bounded)
    (hpostponed : sc.Postponed) (hexact : sc.Exact) : sc'.Sound origin ∧ sc'.Bounded ∧
      ((∀ x ∈ sc'.log, x.inAdvance = true) → sc'.Postponed) ∧ (Exchange.NoStaleClaim sc'.log → sc'.Exact) := by
  induction hrun with
  | refl => exact ⟨hsound, hbounded, fun _ => hpostponed, fun _ => hexact⟩
  | tail _ hs ih =>
    obtain ⟨hsound, hbounded, hpostponed, hexact⟩ := ih
    refine ⟨hsound.step hs, hbounded.step hsound.numbered hs, fun hadvance => ?_, fun hfresh => ?_⟩
    · refine (hpostponed fun x hx => hadvance x ?_).step hsound hs hadvance
      rcases hs.log_eq with hlog | ⟨y, hlog⟩
      · rwa [hlog]
      · rw [hlog]
        exact List.mem_append_left _ hx
    · refine (hexact ?_).step hsound hs hfresh
      rcases hs.log_eq with hlog | ⟨y, hlog⟩
      · rwa [hlog] at hfresh
      · rw [hlog] at hfresh
        exact hfresh.before

end Scene

namespace Fleet

/-- On a clock that shows no leap second no row counts a failure that was not written down. Where no worker claims a
row that was sent back to wait since it listed the row, every row counts all of them, and none is sent back to wait
once it has failed often enough. There is no such claim where every retry is written down before it is due. -/
theorem attempts_counted [DecidableEq ι] {settings : ι → OutboxSettings} {store : Store} (hids : store.Numbered)
    (hnew : ∀ m ∈ store.outbox, m.Created) (hworkers : Function.Injective fun i => (settings i).workerId)
    {clock : Instant} (hclock : ¬ clock.IsLeap) {acts : List (Act ι)} (hticks : ∀ t, .tick t ∈ acts → ¬ t.IsLeap) :
    let f := ({ settings, store, clock } : Fleet ι).run acts
    (∀ row ∈ f.store.outbox, row.attempts.toNat ≤ Exchange.failures f.log row.id) ∧
      ((∀ x ∈ f.log, x.inAdvance = true) → Exchange.NoStaleClaim f.log) ∧
      (Exchange.NoStaleClaim f.log →
        (∀ row ∈ f.store.outbox, row.attempts.toNat = Exchange.failures f.log row.id) ∧
          ∀ before e after, f.log = before ++ e :: after → ∀ id, e.retries id = true →
            Exchange.failures before id + 1 < (settings e.worker).maxAttempts.toNat) := by
  intro f
  have hstart : At { settings, store, clock } fun _ : ι => .publishing [] := fun i => Batch.at_idle (settings i)
  obtain ⟨errands, hrun, -⟩ := hstart.run hticks
  obtain ⟨-, hbounded, hpostponed, hexact⟩ := Scene.counting_facts hrun (Scene.sound_start hids settings hclock)
    (Scene.bounded_start hnew settings clock) (Scene.postponed_start settings store clock)
    (Scene.exact_start hnew hworkers clock)
  have hsettings : f.settings = settings := settings_run _ acts
  refine ⟨hbounded.rows, fun hadvance => (hpostponed hadvance).fresh, fun hfresh => ⟨(hexact hfresh).rows, ?_⟩⟩
  rw [← hsettings]
  exact (hexact hfresh).retried

/-- Two workers fail to publish a row, one after the other. -/
theorem attempts_counted_twice :
    let store : Store := { outbox := [.pending ⟨⟨0, 1⟩⟩ "RegistrationConfirmed" .null .newYear2024] }
    let settings : Bool → OutboxSettings := fun i => { workerId := if i then "b" else "a" }
    let clock := Instant.newYear2024
    let later := clock.after (.ofSeconds 1)
    let call (i : Bool) : Act Bool := .call i 0 (.error (.unavailable "down"))
    let batch (i : Bool) := [.proceed i, call i, call i, call i, call i, .proceed i, call i, call i, call i]
    let f := ({ settings, store, clock } : Fleet Bool).run (batch false ++ .tick later :: batch true)
    Exchange.failures f.log ⟨⟨0, 1⟩⟩ = 2 ∧
      ∀ row ∈ f.store.outbox, row.attempts.toNat = Exchange.failures f.log row.id := by
  intro store settings clock later call batch f
  have hids : store.Numbered := List.nodup_singleton _
  have hnew : ∀ m ∈ store.outbox, m.Created := by
    intro m hm
    obtain rfl := List.mem_singleton.mp hm
    exact .pending _ _ _ _
  have hworkers : Function.Injective fun i => (settings i).workerId := by
    unfold Function.Injective
    decide
  have hadvance : ∀ x ∈ f.log, x.inAdvance = true := by decide +kernel
  have hclock : ¬ clock.IsLeap := by decide
  have hticks : ∀ t, .tick t ∈ batch false ++ .tick later :: batch true → ¬ t.IsLeap := by
    intro t ht
    obtain rfl : t = later := by simpa [batch, call] using ht
    decide
  obtain ⟨-, hfresh, hcounted⟩ := attempts_counted hids hnew hworkers hclock hticks
  exact ⟨by decide +kernel, (hcounted (hfresh hadvance)).1⟩

/-- A worker lists a row, another fails to publish it and sends it back without delay, and the first then claims it and
fails as well. The row counts one failure of two. -/
theorem attempts_lost :
    let store : Store := { outbox := [.pending ⟨⟨0, 1⟩⟩ "RegistrationConfirmed" .null .newYear2024] }
    let settings : Bool → OutboxSettings :=
      fun i => { workerId := if i then "b" else "a", retryBaseDelay := .ofMillis 0 }
    let clock := Instant.newYear2024
    let call (i : Bool) : Act Bool := .call i 0 (.error (.unavailable "down"))
    let listed := [.proceed false, call false, call false]
    let meanwhile :=
      [.proceed true, call true, call true, call true, call true, .proceed true, call true, call true, call true]
    let claimed := [call false, call false, .proceed false, call false, call false, call false]
    let f := ({ settings, store, clock } : Fleet Bool).run (listed ++ meanwhile ++ claimed)
    store.Numbered ∧ (∀ m ∈ store.outbox, m.Created) ∧ (Function.Injective fun i => (settings i).workerId) ∧
      (∀ i, (settings i).check = .ok ()) ∧
      ¬ ∀ row ∈ f.store.outbox, row.attempts.toNat = Exchange.failures f.log row.id := by
  intro store settings clock call listed meanwhile claimed f
  have hids : store.Numbered := List.nodup_singleton _
  have hnew : ∀ m ∈ store.outbox, m.Created := by
    intro m hm
    obtain rfl := List.mem_singleton.mp hm
    exact .pending _ _ _ _
  have hworkers : Function.Injective fun i => (settings i).workerId := by
    unfold Function.Injective
    decide
  have hlost : ∃ row ∈ f.store.outbox, row.attempts.toNat = 1 ∧ Exchange.failures f.log row.id = 2 := by
    decide +kernel
  refine ⟨hids, hnew, hworkers, by decide, fun hcounted => ?_⟩
  obtain ⟨row, hrow, hone, htwo⟩ := hlost
  have hboth := hcounted row hrow
  omega

end Fleet

end Turnstile
