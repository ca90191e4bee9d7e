import Turnstile.Proofs.Outbox.Evidence

/-!
Rows that one worker sends back to wait after another has listed them. The other can claim such a row on the
strength of its old list only if the new waiting time had run out before it was written down.
-/

namespace Turnstile
variable {ι : Type}

namespace Exchange
variable [DecidableEq ι] {log : List (Exchange ι)} {e x : Exchange ι} {i : ι} {id : MessageId}

/-- What happened since a worker last listed the due rows, the latest first. -/
def sinceListing (i : ι) (log : List (Exchange ι)) : List (Exchange ι) :=
  log.reverse.takeWhile fun x => !(x.worker = i && x.call.lists)

/-- No worker claims a row that was sent back to wait since the worker listed the due rows. -/
def NoStaleClaim (log : List (Exchange ι)) : Prop :=
  ∀ before e after, log = before ++ e :: after → ∀ id, e.claims id = true →
    ∀ x ∈ sinceListing e.worker before, x.retries id = false

omit [DecidableEq ι] in
/-- The next try of a row was not yet due when it was written down. -/
def inAdvance (e : Exchange ι) : Bool :=
  match e.deed? with
  | some (_, .retried next) => e.time < next
  | _ => true

theorem sinceListing_concat : sinceListing i (log ++ [x]) =
    if x.worker = i ∧ x.call.lists = true then [] else x :: sinceListing i log := by
  rw [sinceListing, List.reverse_append, List.reverse_singleton, List.singleton_append, List.takeWhile_cons]
  by_cases hx : x.worker = i ∧ x.call.lists = true <;> simp [hx, sinceListing]

theorem NoStaleClaim.before (h : NoStaleClaim (log ++ [x])) : NoStaleClaim log := by
  intro before e after hlog
  exact h before e (after ++ [x]) (by rw [hlog, List.append_assoc, List.cons_append])

omit [DecidableEq ι] in
theorem deed?_of_retries (h : e.retries id = true) : ∃ next, e.deed? = some (id, .retried next) := by
  unfold retries at h
  split at h
  · next m next hdeed =>
    obtain rfl := of_decide_eq_true h
    exact ⟨next, hdeed⟩
  · cases h

omit [DecidableEq ι] in
theorem retries_of_deed? {next : Instant} (h : e.deed? = some (id, .retried next)) : e.retries id = true := by
  rw [retries, h]
  exact decide_eq_true rfl

end Exchange

namespace OutboxMessage
variable {m : OutboxMessage} {t : Instant}

/-- Nobody that goes by this time or an earlier one can claim the row. -/
def OutOfReach (m : OutboxMessage) (t : Instant) : Prop :=
  m.Ended ∨ (m.status = .pending ∧ t < m.nextAttemptAt) ∨
    (m.status = .processing ∧ ∃ u, m.claimedAt = some u ∧ t < u)

/-- Only a later time reaches such a row. -/
theorem OutOfReach.lt_of_isClaimable (h : m.OutOfReach t) {t' : Instant} (ht' : ¬ t'.IsLeap) {d : Duration}
    (hclaim : m.isClaimable t' (t'.before d) = true) : t < t' := by
  rcases isClaimable_iff.mp hclaim with ⟨hs, hdue⟩ | ⟨hs, u, hu, hold⟩
  · rcases h with hended | ⟨-, hwait⟩ | ⟨hs', -⟩
    · simp [Ended, hs] at hended
    · exact hwait.trans_le hdue
    · simp [hs] at hs'
  · rcases h with hended | ⟨hs', -⟩ | ⟨-, u', hu', hlater⟩
    · simp [Ended, hs] at hended
    · simp [hs] at hs'
    · obtain rfl : u' = u := Option.some_inj.mp (hu'.symm.trans hu)
      exact (hlater.trans hold).trans_le (Instant.before_le ht' d)

end OutboxMessage

namespace Scene
variable {sc sc' : Scene ι} {origin : List (MessageId × String × Json × Instant)} {i j : ι} {bus : Except BusError Unit}
  {c : OutboxCall} {e : Errand} {row : OutboxMessage}

/-- A call leaves the number of failed attempts of a row alone, or it is made by the owner of the row, which writes
down one more than it had seen. -/
theorem failure_cases (hids : sc.store.Numbered)
    (hn : (sc.errands i).Next (sc.settings i) sc.store sc.clock bus c e) (hrow : row ∈ sc.store.outbox) :
    let x := sc.store.exchange i sc.clock bus c
    (x.recordsFailure row.id = false ∧ (row.after c).attempts = row.attempts) ∨
      (x.recordsFailure row.id = true ∧ row.status = .processing ∧ row.claimedBy = some (sc.settings i).workerId ∧
        ∃ o ∈ (sc.errands i).offered, o.1.id = row.id ∧ (row.after c).attempts = o.1.attempts + 1 ∧
          ((row.after c).Ended ∧ x.retries row.id = false ∨
            o.1.attempts + 1 < (sc.settings i).maxAttempts ∧ (row.after c).status = .pending ∧
              x.deed? = some (row.id, .retried (row.after c).nextAttemptAt))) := by
  intro x
  cases hu : row.under c with
  | none =>
    have hnone : ∀ d, x.deed? ≠ some (row.id, d) := Store.deed?_of_none hids hrow hu
    refine .inl ⟨Bool.eq_false_iff.mpr fun hfailure => ?_, by rw [OutboxMessage.after_of_none hu]⟩
    rcases (Bool.or_eq_true _ _).mp hfailure with hretry | hfail
    · obtain ⟨next, hdeed⟩ := Exchange.deed?_of_retries hretry
      exact hnone _ hdeed
    · exact hnone _ (of_decide_eq_true hfail)
  | some row' =>
    have hdeed : x.deed? = c.deed? := Store.deed?_of_under hids hrow hu
    rw [OutboxMessage.after_of_under hu, Exchange.recordsFailure, Exchange.retries, Exchange.fails, hdeed]
    rcases OutboxMessage.under_cases hu with ⟨_, _, _, rfl, -, rfl⟩ |
      ⟨_, hs, hw, ⟨_, rfl, rfl⟩ | ⟨_, _, _, rfl, rfl⟩ | ⟨_, _, rfl, rfl⟩⟩
    · exact .inl ⟨by simp [OutboxCall.deed?], rfl⟩
    · exact .inl ⟨by simp [OutboxCall.deed?], rfl⟩
    · obtain ⟨⟨m, outcome⟩, ho, hcall, hsame⟩ := hn.of_settled rfl
      obtain ⟨hid, rfl⟩ := Prod.mk.inj hsame
      obtain ⟨rfl, hroom⟩ := hcall.of_markRetry
      exact .inr ⟨by simp [OutboxCall.deed?], hs, hw, (m, outcome), ho, hid.symm, rfl, .inr ⟨hroom, rfl, rfl⟩⟩
    · obtain ⟨⟨m, outcome⟩, ho, hcall, hsame⟩ := hn.of_settled rfl
      obtain ⟨hid, rfl⟩ := Prod.mk.inj hsame
      obtain rfl := hcall.of_markFailed
      refine .inr ⟨by simp [OutboxCall.deed?], hs, hw, (m, outcome), ho, hid.symm, rfl, .inl ⟨.inr rfl, ?_⟩⟩
      simp [OutboxCall.deed?]

/-- A row that is sent back to wait is out of reach for all who looked at the clock before. -/
theorem outOfReach_of_retries (hids : sc.store.Numbered)
    (hn : (sc.errands i).Next (sc.settings i) sc.store sc.clock bus c e) (hrow : row ∈ sc.store.outbox)
    (hx : (sc.store.exchange i sc.clock bus c).retries row.id = true)
    (hadvance : (sc.store.exchange i sc.clock bus c).inAdvance = true) {t : Instant} (ht : t ≤ sc.clock) :
    (row.after c).OutOfReach t := by
  rcases failure_cases hids hn hrow with ⟨hnone, -⟩ | ⟨-, -, -, o, -, -, -, ⟨-, hnone⟩ | ⟨-, hs, hdeed⟩⟩
  · rw [Exchange.recordsFailure, hx] at hnone
    cases hnone
  · rw [hx] at hnone
    cases hnone
  · rw [Exchange.inAdvance, hdeed] at hadvance
    exact .inr (.inl ⟨hs, ht.trans_lt (of_decide_eq_true hadvance)⟩)

/-- No call brings a row within reach again. -/
theorem outOfReach_after (hsound : sc.Sound origin)
    (hn : (sc.errands i).Next (sc.settings i) sc.store sc.clock bus c e) (hrow : row ∈ sc.store.outbox)
    (hadvance : (sc.store.exchange i sc.clock bus c).inAdvance = true) {t : Instant} (ht : t ≤ sc.clock)
    (h : row.OutOfReach t) : (row.after c).OutOfReach t := by
  cases hu : row.under c with
  | none => rwa [OutboxMessage.after_of_none hu]
  | some row' =>
    have hdeed : (sc.store.exchange i sc.clock bus c).deed? = c.deed? :=
      Store.deed?_of_under hsound.numbered hrow hu
    rcases OutboxMessage.under_cases hu with ⟨worker, t', cutoff, rfl, hclaim, rfl⟩ |
      ⟨_, -, -, ⟨_, rfl, rfl⟩ | ⟨_, _, next, rfl, rfl⟩ | ⟨_, _, rfl, rfl⟩⟩
    · obtain ⟨ht', -, rfl, -⟩ := hn.of_tryClaim
      obtain ⟨-, hsteady⟩ := (hsound.errands i).begun t' (Errand.since?_of_claiming? ht')
      rw [OutboxMessage.after_of_under hu]
      exact .inr (.inr ⟨rfl, t', rfl, h.lt_of_isClaimable hsteady hclaim⟩)
    · rw [OutboxMessage.after_of_under hu]
      exact .inl (.inl rfl)
    · exact outOfReach_of_retries hsound.numbered hn hrow (Exchange.retries_of_deed? hdeed) hadvance ht
    · rw [OutboxMessage.after_of_under hu]
      exact .inl (.inr rfl)

variable [DecidableEq ι]

/-- What was sent back to wait since a worker listed the due rows is out of its reach. -/
structure Postponed (sc : Scene ι) : Prop where
  waits : ∀ i t, (sc.errands i).claiming? = some t → ∀ x ∈ Exchange.sinceListing i sc.log, ∀ row ∈ sc.store.outbox,
    x.retries row.id = true → row.OutOfReach t
  fresh : Exchange.NoStaleClaim sc.log

theorem postponed_start (settings : ι → OutboxSettings) (store : Store) (clock : Instant) :
    Postponed { settings, store, clock, errands := fun _ => .publishing [], log := [] } where
  waits i t ht := by cases ht
  fresh before e after hlog := by simp at hlog

private theorem Postponed.waits_call (h : sc.Postponed) (hsound : sc.Sound origin)
    (hn : (sc.errands i).Next (sc.settings i) sc.store sc.clock bus c e)
    (hadvance : (sc.store.exchange i sc.clock bus c).inAdvance = true) {t : Instant}
    (ht : (Function.update sc.errands i e j).claiming? = some t) {y : Exchange ι}
    (hy : y ∈ Exchange.sinceListing j (sc.log ++ [sc.store.exchange i sc.clock bus c]))
    (hrow : row ∈ sc.store.outbox) (hretry : y.retries row.id = true) : (row.after c).OutOfReach t := by
  rw [Exchange.sinceListing_concat] at hy
  split at hy
  · cases hy
  · next hlists =>
    have ht₀ : (sc.errands j).claiming? = some t := by
      by_cases hj : j = i
      · subst hj
        rw [Function.update_self] at ht
        exact (hn.claiming_cases ht).resolve_right fun hc => hlists ⟨rfl, hc⟩
      · rwa [Function.update_of_ne hj] at ht
    obtain ⟨hpast, -⟩ := (hsound.errands j).begun t (Errand.since?_of_claiming? ht₀)
    rcases List.mem_cons.mp hy with rfl | hy
    · exact outOfReach_of_retries hsound.numbered hn hrow hretry hadvance hpast
    · exact outOfReach_after hsound hn hrow hadvance hpast (h.waits j t ht₀ y hy row hrow hretry)

private theorem Postponed.fresh_call (h : sc.Postponed) (hsound : sc.Sound origin)
    (hn : (sc.errands i).Next (sc.settings i) sc.store sc.clock bus c e) :
    Exchange.NoStaleClaim (sc.log ++ [sc.store.exchange i sc.clock bus c]) := by
  intro before x after hlog id hclaims y hy
  rcases Exchange.split_concat hlog with ⟨rfl, rfl, -⟩ | ⟨after', rfl, hlog'⟩
  · refine Bool.eq_false_iff.mpr fun hretry => ?_
    obtain ⟨worker, t, cutoff, rfl, hg⟩ := Store.call_of_claims hclaims
    obtain ⟨ht, -, rfl, -⟩ := hn.of_tryClaim
    obtain ⟨row, hrow, rfl, hclaim⟩ := Store.row_of_tryClaim hsound.numbered hg
    obtain ⟨-, hsteady⟩ := (hsound.errands i).begun t (Errand.since?_of_claiming? ht)
    have hwaits := h.waits i t ht y hy row hrow hretry
    exact lt_irrefl t (hwaits.lt_of_isClaimable hsteady hclaim)
  · exact h.fresh before x after' hlog' id hclaims y hy

theorem Postponed.step (h : sc.Postponed) (hsound : sc.Sound origin) (hs : Step sc sc')
    (hadvance : ∀ x ∈ sc'.log, x.inAdvance = true) : sc'.Postponed := by
  cases hs with
  | tick => exact ⟨h.waits, h.fresh⟩
  | proceed i hp =>
    refine ⟨fun j t ht => ?_, h.fresh⟩
    rcases (hp.all j).todo_cases with hsame | ⟨-, hsince⟩
    · exact h.waits j t (hsame ▸ ht)
    · rw [Errand.since?_of_claiming? ht] at hsince
      cases hsince
  | @call i bus c e hn =>
    refine ⟨fun j t ht y hy row hrow hretry => ?_, h.fresh_call hsound hn⟩
    obtain ⟨row, hrow', rfl⟩ := (Store.mem_deliver hsound.numbered).mp hrow
    rw [OutboxMessage.id_after] at hretry
    exact h.waits_call hsound hn (hadvance _ (List.mem_append_right _ List.mem_cons_self)) ht hy hrow' hretry

end Scene

end Turnstile
