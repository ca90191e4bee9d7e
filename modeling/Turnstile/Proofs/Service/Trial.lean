import Turnstile.Proofs.Allocation.Invariant
import Turnstile.Proofs.Allocation.Once
import Turnstile.Proofs.Allocation.Recording
import Turnstile.Service

/-!
Commands of the service while any commit, any enqueuing and any handler may fail, each for itself. What a command
recorded is read off the stored registrations, call by call.
-/

namespace Turnstile
open scoped List

/-- What the dispatcher turned to with an event, and what it was told. -/
inductive Contact (η : Type) where
  | enqueued (event : QueuedEvent) (reply : Except DispatchError Unit)
  | handled (handler : η) (event : QueuedEvent) (reply : Except HandlerError Unit)

/-- A session with surroundings in which every attempt has an outcome of its own. -/
structure Trial (η : Type) where
  session : Session
  /-- The errors of the commits, and `none` for those that succeed. -/
  commits : Supply (Option StoreError)
  queue : Supply (Except DispatchError Unit) := .constant (.ok ())
  handlers : Supply (Except HandlerError Unit) := .constant (.ok ())
  contacts : List (Contact η) := []

namespace Session

/-- The session while all commits are made to fail, or none. -/
def failing (s : Session) (failing : Bool) : Session := { s with store := { s.store with failOnCommit := failing } }

variable {s s' : Session} {c : AllocatorCall}

theorem Idle.failing (h : s.Idle) (failing : Bool) : (s.failing failing).Idle := ⟨h.tx, h.locked⟩

theorem lawful_failing {failing : Bool} : (s.failing failing).store.Lawful ↔ s.store.Lawful :=
  ⟨fun h => ⟨h.events_keyed, h.keyed, fun id e he => (h.sound id e he).congr rfl⟩,
    fun h => ⟨h.events_keyed, h.keyed, fun id e he => (h.sound id e he).congr rfl⟩⟩

private theorem store_of_failing {failing : Bool} (h : (s'.failing failing).store = (s.failing failing).store)
    (hf : s'.store.failOnCommit = s.store.failOnCommit) : s'.store = s.store := by
  obtain ⟨⟨⟩, _, _, _, _⟩ := s
  obtain ⟨⟨⟩, _, _, _, _⟩ := s'
  simp_all [Session.failing]

private theorem answer_failing (hc : c ≠ .tx .commit) (s : Session) (failing : Bool) :
    Session.answer c (s.failing failing) = ((Session.answer c s).1, (Session.answer c s).2.failing failing) := by
  cases c with
  | tx c =>
    cases c with
    | commit => exact absurd rfl hc
    | lockEvent event =>
      by_cases hh : s.tx.holds event = true
      · simp [answer, answerTx, lockEvent, Session.failing, hh]
        rfl
      · by_cases hl : event ∈ s.store.locked <;> simp [answer, answerTx, lockEvent, Session.failing, hh, hl]
        rfl
    | insertRegistration r =>
      have h : (s.failing failing).tx.insertRegistration (s.failing failing).store r =
          s.tx.insertRegistration s.store r := rfl
      simp only [answer, answerTx, stage, h]
      cases s.tx.insertRegistration s.store r <;> rfl
    | updateRegistration r =>
      have h : (s.failing failing).tx.updateRegistration (s.failing failing).store r =
          s.tx.updateRegistration s.store r := rfl
      simp only [answer, answerTx, stage, h]
      cases s.tx.updateRegistration s.store r <;> rfl
    | _ => rfl
  | _ => rfl

/-- Until the commit only locks are written. -/
theorem answer_store (hc : c ≠ .tx .commit) (s : Session) :
    ∃ locked, (Session.answer c s).2.store = { s.store with locked } := by
  cases c with
  | tx c =>
    cases c with
    | commit => exact absurd rfl hc
    | lockEvent event =>
      by_cases hh : s.tx.holds event = true
      · exact ⟨s.store.locked, by simp [answer, answerTx, lockEvent, hh]⟩
      · by_cases hl : event ∈ s.store.locked
        · exact ⟨s.store.locked, by simp [answer, answerTx, lockEvent, hh, hl]⟩
        · exact ⟨event :: s.store.locked, by simp [answer, answerTx, lockEvent, hh, hl]⟩
    | insertRegistration r =>
      refine ⟨s.store.locked, ?_⟩
      simp only [answer, answerTx, stage]
      split <;> rfl
    | updateRegistration r =>
      refine ⟨s.store.locked, ?_⟩
      simp only [answer, answerTx, stage]
      split <;> rfl
    | rollback => exact ⟨_, rfl⟩
    | drop => exact ⟨_, rfl⟩
    | _ => exact ⟨s.store.locked, rfl⟩
  | _ => exact ⟨s.store.locked, rfl⟩

end Session

namespace Trial
variable {η α : Type} {t : Trial η}

/-- Ends the open transaction as the next commit does. -/
def commit (t : Trial η) : Stored Unit × Trial η :=
  match t.commits.next with
  | some e => (.error e, { t with session := t.session.drop, commits := t.commits.skip 1 })
  | none => (.ok (), { t with
      session := { t.session with store := t.session.store.apply t.session.tx }.drop
      commits := t.commits.skip 1 })

def answerAllocator : (c : AllocatorCall) → Trial η → Option c.Reply × Trial η
  | .tx .commit, t => (some t.commit.1, t.commit.2)
  | c, t => ((Session.answer c t.session).1, { t with session := (Session.answer c t.session).2 })

def answerDispatch : (c : DispatchCall η) → Trial η → Option c.Reply × Trial η
  | .freshId, t => (some t.session.ids.next, { t with session := t.session.drawing 1 })
  | .count counter, t =>
    (some (), { t with session := { t.session with metrics := t.session.metrics.add counter 1 } })
  | .enqueue e, t =>
    (some t.queue.next, { t with
      queue := t.queue.skip 1, contacts := t.contacts ++ [.enqueued e t.queue.next] })
  | .handle h e, t =>
    (some t.handlers.next, { t with
      handlers := t.handlers.skip 1, contacts := t.contacts ++ [.handled h e t.handlers.next] })

def answer : (c : ServiceCall η) → Trial η → Option c.Reply × Trial η
  | .allocate c, t => t.answerAllocator c
  | .dispatch c, t => t.answerDispatch c

/-- The events that a change of the stored registrations calls for. -/
def changes (t t' : Trial η) : List RegistrationEvent :=
  RegistrationEvent.changes t.session.store.registrations t'.session.store.registrations

/-- `t'` is `t` after calls of the allocator, `n` of which were commits. -/
structure Allocated (t t' : Trial η) (n : Nat) : Prop where
  trial : t' = { t with session := t'.session, commits := t.commits.skip n }
  failOnCommit : t'.session.store.failOnCommit = t.session.store.failOnCommit

theorem Allocated.refl (t : Trial η) : t.Allocated t 0 := ⟨rfl, rfl⟩

theorem Allocated.trans {t' t'' : Trial η} {m n : Nat} (h : t.Allocated t' m) (h' : t'.Allocated t'' n) :
    t.Allocated t'' (m + n) where
  trial := by
    rw [h'.trial, h.trial, Supply.skip_skip]
  failOnCommit := h'.failOnCommit.trans h.failOnCommit

theorem answerAllocator_other {c : AllocatorCall} (hc : c ≠ .tx .commit) (t : Trial η) :
    answerAllocator c t = ((Session.answer c t.session).1, { t with session := (Session.answer c t.session).2 }) := by
  unfold answerAllocator
  split
  · exact absurd rfl hc
  · rfl

private theorem watch_other {c : AllocatorCall} (hc : c ≠ .tx .commit) (t : Trial η) (log : List RegistrationEvent) :
    ∃ reply t', Program.watch answerAllocator changes c (t, log) = (reply, t', log) ∧ t.Allocated t' 0 ∧
      t'.session.store.registrations = t.session.store.registrations ∧
      ∀ failing, Session.answer c (t.session.failing failing) = (reply, t'.session.failing failing) := by
  obtain ⟨locked, hstore⟩ := Session.answer_store hc t.session
  refine ⟨_, { t with session := (Session.answer c t.session).2 }, ?_, ⟨rfl, ?_⟩, ?_, Session.answer_failing hc _⟩
  · have hlog : changes t { t with session := (Session.answer c t.session).2 } = [] := by
      simp only [changes, hstore]
      exact RegistrationEvent.changes_self _
    rw [Program.watch, answerAllocator_other hc]
    exact Prod.ext rfl (Prod.ext rfl ((congrArg (log ++ ·) hlog).trans (List.append_nil log)))
  · simp only [hstore]
  · simp only [hstore]

private theorem run_asks {q : Program AllocatorCall.Reply α} (h : q.Asks (· ≠ .tx .commit)) (t : Trial η)
    (log : List RegistrationEvent) :
    ∃ reply t', q.run (Program.watch answerAllocator changes) (t, log) = (reply, t', log) ∧ t.Allocated t' 0 ∧
      t'.session.store.registrations = t.session.store.registrations ∧
      ∀ failing, q.run Session.answer (t.session.failing failing) = (reply, t'.session.failing failing) := by
  induction q generalizing t with
  | done a => exact ⟨some a, t, rfl, .refl t, rfl, fun _ => rfl⟩
  | ask c next ih =>
    obtain ⟨reply, t₁, hwatch, hstep, hregs, hfail⟩ := watch_other h.1 t log
    simp only [Program.run, hwatch, hfail]
    cases reply with
    | none => exact ⟨none, t₁, rfl, hstep, hregs, fun _ => rfl⟩
    | some r =>
      obtain ⟨reply, t', hrun, hall, hregs', hfail'⟩ := ih r (h.2 r) t₁
      exact ⟨reply, t', hrun, hstep.trans hall, hregs'.trans hregs, hfail'⟩

/-- One who commits once gets what a session gives in which that commit fails or not. -/
private theorem run_once {q : Program AllocatorCall.Reply (Except AllocationError α)} (h : CommitsOnce q)
    (t : Trial η) (log : List RegistrationEvent) :
    ∃ reply t' n, q.run (Program.watch answerAllocator changes) (t, log) = (reply, t', log ++ changes t t') ∧
      t.Allocated t' n ∧ ∀ failing, (0 < n → failing = t.commits.next.isSome) →
        (q.run Session.answer (t.session.failing failing)).1.map Except.toOption = reply.map Except.toOption ∧
          (q.run Session.answer (t.session.failing failing)).2 = t'.session.failing failing := by
  induction h generalizing t with
  | done x =>
    refine ⟨some x, t, 0, ?_, .refl t, fun _ _ => ⟨rfl, rfl⟩⟩
    rw [changes, RegistrationEvent.changes_self, List.append_nil]
    rfl
  | @other c next hc _ ih =>
    obtain ⟨reply, t₁, hwatch, hstep, hregs, hfail⟩ := watch_other hc t log
    simp only [Program.run, hwatch, hfail]
    cases reply with
    | none =>
      refine ⟨none, t₁, 0, ?_, hstep, fun _ _ => ⟨rfl, rfl⟩⟩
      rw [changes, hregs, RegistrationEvent.changes_self, List.append_nil]
    | some r =>
      obtain ⟨reply, t', n, hrun, hall, hfail'⟩ := ih r t₁
      refine ⟨reply, t', 0 + n, ?_, hstep.trans hall, fun failing hn => hfail' failing fun hlt => ?_⟩
      · rw [changes, ← hregs]
        exact hrun
      · rw [hn (by omega), hstep.trial]
        rfl
  | @commit next herror hok =>
    have hwatch : Program.watch answerAllocator changes (.tx .commit) (t, log) =
        (some t.commit.1, t.commit.2, log ++ changes t t.commit.2) := rfl
    simp only [Program.run, hwatch]
    cases hnext : t.commits.next with
    | some e =>
      have hcommit : t.commit = (.error e, { t with session := t.session.drop, commits := t.commits.skip 1 }) := by
        rw [commit, hnext]
      rw [hcommit]
      simp only [herror, Program.run]
      refine ⟨_, _, 1, rfl, ⟨rfl, rfl⟩, fun failing hn => ?_⟩
      obtain rfl : failing = true := hn Nat.one_pos
      have hfail : Session.answer (.tx .commit) (t.session.failing true) =
          (some (.error (.unavailable "injected commit failure")), t.session.drop.failing true) := rfl
      simp only [hfail, herror, Program.run]
      exact ⟨rfl, trivial⟩
    | none =>
      let t₁ : Trial η := { t with
        session := { t.session with store := t.session.store.apply t.session.tx }.drop, commits := t.commits.skip 1 }
      have hcommit : t.commit = (.ok (), t₁) := by rw [commit, hnext]
      rw [hcommit]
      obtain ⟨reply, t', hrun, hall, hregs, hfail⟩ := run_asks hok t₁ (log ++ changes t t₁)
      have hstep : t.Allocated t₁ 1 := ⟨rfl, rfl⟩
      refine ⟨reply, t', 1 + 0, ?_, hstep.trans hall, fun failing hn => ?_⟩
      · rw [show changes t t' = changes t t₁ by rw [changes, changes, hregs]]
        exact hrun
      · obtain rfl : failing = false := hn Nat.one_pos
        have hok : Session.answer (.tx .commit) (t.session.failing false) =
            (some (.ok ()), t₁.session.failing false) := rfl
        simp only [hok, hfail]
        exact ⟨trivial, trivial⟩

/-- No commit among the next `n` succeeds. -/
def Refused (t : Trial η) (n : Nat) : Prop :=
  ∀ k, t.commits.drawn ≤ k → k < t.commits.drawn + n → t.commits.item k ≠ none

/-- Every commit among the next `n` succeeds. -/
def Granted (t : Trial η) (n : Nat) : Prop :=
  ∀ k, t.commits.drawn ≤ k → k < t.commits.drawn + n → t.commits.item k = none

theorem Refused.split {m n : Nat} (h : t.Refused (m + n)) {t' : Trial η} (ht : t.Allocated t' m) :
    t.Refused m ∧ t'.Refused n := by
  refine ⟨fun k hk hlt => h k hk (by omega), fun k hk hlt => ?_⟩
  rw [ht.trial] at hk hlt ⊢
  simp only [Supply.skip] at hk hlt ⊢
  exact h k (by omega) (by omega)

theorem Granted.split {m n : Nat} (h : t.Granted (m + n)) {t' : Trial η} (ht : t.Allocated t' m) :
    t.Granted m ∧ t'.Granted n := by
  refine ⟨fun k hk hlt => h k hk (by omega), fun k hk hlt => ?_⟩
  rw [ht.trial] at hk hlt ⊢
  simp only [Supply.skip] at hk hlt ⊢
  exact h k (by omega) (by omega)

end Trial

theorem Store.Extends.knows {s s' : Store} (h : s'.Extends s) {event : EventId} (he : (s.events.get? event).isSome) :
    (s'.events.get? event).isSome := by
  obtain ⟨e, he⟩ := Option.isSome_iff_exists.mp he
  obtain ⟨e', he', -⟩ := h.capacity event e he
  exact Option.isSome_iff_exists.mpr ⟨e', he'⟩

namespace Decision
variable {α : Type} {d : Decision α} {s : Session}

private theorem enact_failing (h : s.store.failOnCommit = true) : (d.enact s).2.store = s.store := by
  cases d <;> simp [enact, h, Session.drawing]

/-- What is given once it is carried out. -/
def result? : Decision α → Option α
  | refuse _ => none
  | leave a | write _ _ _ a | raise _ _ a => some a

private theorem result?_of_enact {a : α} (ha : (d.enact s).1 = .ok a) : d.result? = some a := by
  cases d with
  | refuse cause => cases ha
  | leave b => exact congrArg some (Except.ok.inj ha)
  | write fresh rows counted b =>
    rw [enact] at ha
    split at ha
    · cases ha
    · exact congrArg some (Except.ok.inj ha)
  | raise event capacity b =>
    rw [enact] at ha
    split at ha
    · cases ha
    · exact congrArg some (Except.ok.inj ha)

private theorem refuse_of_enact (h : s.store.failOnCommit = false) {e : AllocationError} (he : (d.enact s).1 = .error e) :
    d = .refuse e := by
  cases d with
  | refuse cause => exact congrArg refuse (Except.error.inj he)
  | leave a => cases he
  | write fresh rows counted a => simp [enact, h] at he
  | raise event capacity a => simp [enact, h] at he

/-- No step on a known event is refused. -/
private theorem promoteStep_ne_refuse {s : Store} {event : EventId} {now : Instant} {cause : AllocationError}
    (he : (s.events.get? event).isSome) : promoteStep s event now ≠ .refuse cause := by
  obtain ⟨e, he⟩ := Option.isSome_iff_exists.mp he
  rw [promoteStep, he]
  dsimp only
  split
  · simp
  split <;> simp

private theorem raiseCapacity_result? {s : Store} {event event' : EventId} {capacity : UInt32}
    (h : (raiseCapacity s event capacity).result? = some event') :
    event' = event ∧ (s.events.get? event).isSome := by
  unfold raiseCapacity at h
  split at h
  · cases h
  · next e he =>
    refine ⟨?_, Option.isSome_iff_exists.mpr ⟨e, he⟩⟩
    split at h
    · cases h
    split at h <;> exact (Option.some.inj h).symm

end Decision

/-- How many identifiers a command draws for somebody new. -/
def Command.fresh (s : Session) : Command → Nat
  | .register event registrant => (Decision.register s.store event registrant s.clock.next ⟨s.ids.next⟩).fresh
  | _ => 0

namespace Trial
variable {η α : Type} {t : Trial η}

/-- How a command ended, with what it recorded: if no commit succeeded nothing was, and the store is as before. -/
structure Ended (t t' : Trial η) (recorded : List RegistrationEvent) (n : Nat) : Prop where
  allocated : t.Allocated t' n
  refused : t.Refused n → t'.session.store = t.session.store ∧ recorded = []
  keeps : t'.session.store.Extends t.session.store
  idle : t'.session.Idle
  lawful : t'.session.store.Lawful

theorem Ended.refl (hi : t.session.Idle) (hl : t.session.store.Lawful) : t.Ended t [] 0 where
  allocated := .refl t
  refused _ := ⟨rfl, rfl⟩
  keeps := .refl _
  idle := hi
  lawful := hl

/-- Goes on where another command ended. -/
theorem Ended.trans {t' t'' : Trial η} {recorded recorded' : List RegistrationEvent} {m n : Nat}
    (h : t.Ended t' recorded m) (h' : t'.Ended t'' recorded' n) : t.Ended t'' (recorded ++ recorded') (m + n) where
  allocated := h.allocated.trans h'.allocated
  refused href := by
    obtain ⟨hstore, rfl⟩ := h.refused (href.split h.allocated).1
    obtain ⟨hstore', rfl⟩ := h'.refused (href.split h.allocated).2
    exact ⟨hstore'.trans hstore, rfl⟩
  keeps := h'.keeps.trans h.keeps
  idle := h'.idle
  lawful := h'.lawful

private theorem eq_ok_of_toOption {ε : Type} {x : Except ε α} {a : α} (h : x.toOption = some a) : x = .ok a := by
  cases x with
  | error e => cases h
  | ok b => exact congrArg Except.ok (Option.some.inj h)

private theorem eq_error_of_toOption {ε : Type} {x : Except ε α} (h : x.toOption = none) : ∃ e, x = .error e := by
  cases x with
  | error e => exact ⟨e, rfl⟩
  | ok b => cases h

/-- How a transaction ended that carries out a decision: it told what it recorded, or it failed and nothing was. If all
commits succeed it only fails by decision. -/
structure Carried {α : Type} (t t' : Trial η) (d : Decision α) (told : α → List RegistrationEvent)
    (recorded : List RegistrationEvent) (n : Nat) (reply : Except AllocationError α) : Prop
    extends t.Ended t' recorded n where
  told : ∀ a, reply = .ok a → recorded ~ told a
  result : ∀ a, reply = .ok a → d.result? = some a
  unchanged : ∀ e, reply = .error e → t'.session.store = t.session.store ∧ recorded = []
  decided : ∀ e, reply = .error e → t.Granted n → ∃ cause, d = .refuse cause

private theorem unchanged_of_failing {t' : Trial η} {n : Nat} {failing : Bool} (h : t.Allocated t' n)
    (hs : (t'.session.failing failing).store = (t.session.failing failing).store) :
    t'.session.store = t.session.store ∧ changes t t' = [] := by
  have hsame : t'.session.store = t.session.store := Session.store_of_failing hs h.failOnCommit
  refine ⟨hsame, ?_⟩
  rw [changes, hsame]
  exact RegistrationEvent.changes_self _

/-- A program that commits once and does on sessions what a decision says carries out that decision. -/
theorem run_decision (d : Decision α) (s₁ : Session) (id : RegistrationId) {p : Allocate α} (hp : p.Once)
    {told : α → List RegistrationEvent}
    (hrun : ∀ failing, p.on (t.session.failing failing) = d.outcome (s₁.failing failing))
    (hs : s₁.store = t.session.store) (htx : s₁.tx = t.session.tx) (hi : t.session.Idle)
    (hl : t.session.store.Lawful) (hm : ∀ failing, d.Moving (s₁.failing failing).store id)
    (hr : ∀ failing, d.Recorded (s₁.failing failing).store told) (log : List RegistrationEvent) :
    ∃ reply t' recorded n, p.run.run (Program.watch answerAllocator changes) (t, log) =
        (some reply, t', log ++ recorded) ∧ t.Carried t' d told recorded n reply := by
  obtain ⟨reply, t', n, hwatch, hall, hfail⟩ := run_once hp t log
  have hend (failing : Bool) (hf : 0 < n → failing = t.commits.next.isSome) :
      reply.map Except.toOption = some (d.enact (s₁.failing failing)).1.toOption ∧
        t'.session.failing failing = (d.enact (s₁.failing failing)).2 := by
    obtain ⟨hreply, hstate⟩ := hfail failing hf
    rw [show p.run.run Session.answer (t.session.failing failing) = _ from hrun failing] at hreply hstate
    exact ⟨hreply.symm, hstate.symm⟩
  have hstore (failing : Bool) : (s₁.failing failing).store = (t.session.failing failing).store := by
    rw [Session.failing, hs]
    rfl
  obtain ⟨hreply, hstate⟩ := hend t.commits.next.isSome fun _ => rfl
  have hrec := (hr t.commits.next.isSome).changes
  have hlawful : (s₁.failing t.commits.next.isSome).store.Lawful := Session.lawful_failing.mpr (hs ▸ hl)
  have hstep := (hm t.commits.next.isSome).step
  rw [← hstate] at hrec hstep
  cases reply with
  | none => cases hreply
  | some reply =>
    refine ⟨reply, t', changes t t', n, hwatch, ⟨hall, ?refused, ?keeps, ⟨?tx, ?locked⟩, ?lawful⟩, ?told, ?result,
      ?unchanged, ?decided⟩
    case refused =>
      intro href
      have hnext (hn : 0 < n) : true = t.commits.next.isSome :=
        (Option.isSome_iff_ne_none.mpr (href _ (Nat.le_refl _) (Nat.lt_add_of_pos_right hn))).symm
      have htrue := congrArg Session.store (hend true hnext).2
      exact unchanged_of_failing hall ((htrue.trans (Decision.enact_failing rfl)).trans (hstore true))
    case keeps =>
      have hext := hstep.extends hlawful
      rw [← hs]
      exact ⟨hext.capacity, hext.registration⟩
    case tx =>
      rw [← hi.tx, ← htx]
      exact (congrArg Session.tx hstate).trans Decision.enact_tx
    case locked =>
      rw [← hi.locked, ← hs]
      exact (congrArg (fun s => s.store.locked) hstate).trans Decision.enact_locked
    case lawful => exact Session.lawful_failing.mp (hstep.lawful hlawful)
    case told =>
      rintro a rfl
      rw [eq_ok_of_toOption (Option.some.inj hreply).symm] at hrec
      rw [changes, ← hs]
      exact hrec
    case result =>
      rintro a rfl
      exact Decision.result?_of_enact (eq_ok_of_toOption (Option.some.inj hreply).symm)
    case unchanged =>
      rintro e rfl
      obtain ⟨e', he'⟩ := eq_error_of_toOption (Option.some.inj hreply).symm
      rw [he'] at hrec
      exact unchanged_of_failing hall (hrec.trans (hstore _))
    case decided =>
      rintro e rfl hgranted
      have hnext (hn : 0 < n) : false = t.commits.next.isSome := by
        rw [Supply.next, hgranted _ (Nat.le_refl _) (Nat.lt_add_of_pos_right hn)]
        rfl
      obtain ⟨cause, hcause⟩ := eq_error_of_toOption (Option.some.inj (hend false hnext).1).symm
      exact ⟨cause, Decision.refuse_of_enact rfl hcause⟩

section
variable (hi : t.session.Idle) (hl : t.session.store.Lawful)
include hi hl

theorem run_single {c : Command} (hc : c.Single)
    (hid : 0 < c.fresh t.session → t.session.store.registrations.get? ⟨t.session.ids.next⟩ = none)
    (log : List RegistrationEvent) :
    ∃ (d : Decision Allocation) (reply : Except AllocationError Allocation) (t' : Trial η)
      (recorded : List RegistrationEvent) (n : Nat),
      (Allocate.command c).run.run (Program.watch answerAllocator changes) (t, log) =
        (some reply, t', log ++ recorded) ∧ t.Carried t' d Allocation.events recorded n reply := by
  have hl' (failing : Bool) : (t.session.failing failing).store.Lawful := Session.lawful_failing.mpr hl
  have hi' (failing : Bool) : (t.session.failing failing).Idle := hi.failing failing
  cases c with
  | register event registrant =>
    exact ⟨_, run_decision (.register t.session.store event registrant t.session.clock.next ⟨t.session.ids.next⟩) t.session.tick
      ⟨t.session.ids.next⟩ (Allocate.once_register event registrant)
      (fun failing => Allocate.on_register (hi' failing) (hl' failing) event registrant) rfl rfl hi hl
      (fun failing => Decision.moving_register (s := (t.session.failing failing).store) (hl' failing) hid)
      (fun failing => Decision.recorded_register (s := (t.session.failing failing).store) hid) log⟩
  | cancel registration =>
    exact ⟨_, run_decision (.cancel t.session.store registration t.session.clock.next) t.session.tick
      ⟨t.session.ids.next⟩ (Allocate.once_cancel registration)
      (fun failing => Allocate.on_cancel (hi' failing) (hl' failing) registration) rfl rfl hi hl
      (fun failing => Decision.moving_cancel (hl' failing)) (fun failing => Decision.recorded_cancel (hl' failing)) log⟩
  | promote event =>
    exact ⟨_, run_decision (.promote t.session.store event t.session.clock.next) t.session.tick
      ⟨t.session.ids.next⟩ (Allocate.once_promote event)
      (fun failing => Allocate.on_promote (hi' failing) (hl' failing) event) rfl rfl hi hl
      (fun failing => Decision.moving_promote (hl' failing)) (fun failing => Decision.recorded_promote (hl' failing)) log⟩
  | confirm registration =>
    exact ⟨_, run_decision (.confirm t.session.store registration t.session.clock.next) t.session.tick
      ⟨t.session.ids.next⟩ (Allocate.once_confirm registration)
      (fun failing => Allocate.on_confirm (hi' failing) (hl' failing) registration) rfl rfl hi hl
      (fun failing => Decision.moving_confirm (hl' failing)) (fun failing => Decision.recorded_confirm (hl' failing)) log⟩
  | increaseCapacity event capacity => exact hc.elim

theorem run_promoteStep (event : EventId) (log : List RegistrationEvent) :
    ∃ reply t' recorded n, (Allocate.promoteStep event).run.run (Program.watch answerAllocator changes) (t, log) =
        (some reply, t', log ++ recorded) ∧
      t.Carried t' (Decision.promoteStep t.session.store event t.session.clock.next)
        (fun changed? => (changed?.getD []).flatMap Tracked.pending) recorded n reply := by
  have hl' (failing : Bool) : (t.session.failing failing).store.Lawful := Session.lawful_failing.mpr hl
  exact run_decision (.promoteStep t.session.store event t.session.clock.next) t.session.tick ⟨t.session.ids.next⟩
    (Allocate.once_promoteStep event)
    (fun failing => Allocate.on_promoteStep (hi.failing failing) (hl' failing) event) rfl rfl hi hl
    (fun failing => Decision.moving_promoteStep (hl' failing))
    (fun failing => Decision.recorded_promoteStep (hl' failing)) log

theorem run_raiseCapacity (event : EventId) (capacity : UInt32) (log : List RegistrationEvent) :
    ∃ reply t' recorded n,
      (Allocate.raiseCapacity event capacity).run.run (Program.watch answerAllocator changes) (t, log) =
        (some reply, t', log ++ recorded) ∧
      t.Carried t' (Decision.raiseCapacity t.session.store event capacity) (fun _ => []) recorded n reply := by
  have hl' (failing : Bool) : (t.session.failing failing).store.Lawful := Session.lawful_failing.mpr hl
  exact run_decision _ t.session ⟨t.session.ids.next⟩ (Allocate.once_raiseCapacity event capacity)
    (fun failing => Allocate.on_raiseCapacity (hi.failing failing) (hl' failing) event capacity) rfl rfl hi hl
    (fun failing => Decision.moving_raiseCapacity) (fun failing => Decision.recorded_raiseCapacity _ event capacity) log

end

/-- What was recorded so far and by the steps to come is what is told in the end. The steps do not fail as long as the
commits succeed. -/
theorem run_promoteAll (event : EventId) (limit : Nat) (done : List Tracked) (hi : t.session.Idle)
    (hl : t.session.store.Lawful) (he : (t.session.store.events.get? event).isSome) (log : List RegistrationEvent) :
    ∃ reply t' recorded n,
      (Allocate.promoteAll event limit done).run.run (Program.watch answerAllocator changes) (t, log) =
        (some reply, t', log ++ recorded) ∧ t.Ended t' recorded n ∧
      match reply with
      | .ok all => done.flatMap Tracked.pending ++ recorded ~ all.flatMap Tracked.pending
      | .error _ => ¬ t.Granted n := by
  induction limit generalizing t done log with
  | zero => exact ⟨.ok done, t, [], 0, by simp [Allocate.promoteAll]; rfl, .refl hi hl, by simp⟩
  | succ limit ih =>
    obtain ⟨reply, t₁, first, m, hrun, hstep⟩ := run_promoteStep hi hl event log
    rw [Allocate.promoteAll, Program.run_except_bind, hrun]
    rcases reply with e | _ | changed
    · refine ⟨.error e, t₁, first, m, rfl, hstep.toEnded, fun hgranted => ?_⟩
      obtain ⟨cause, hcause⟩ := hstep.decided e rfl hgranted
      exact Decision.promoteStep_ne_refuse he hcause
    · obtain rfl := (hstep.told none rfl).eq_nil
      exact ⟨.ok done, t₁, [], m, rfl, hstep.toEnded, by simp⟩
    · obtain ⟨reply, t', others, n, hrun', hend, hreply⟩ :=
        ih (done ++ changed) hstep.idle hstep.lawful (hstep.keeps.knows he) (log ++ first)
      refine ⟨reply, t', first ++ others, m + n, hrun'.trans (by rw [List.append_assoc]), hstep.toEnded.trans hend, ?_⟩
      cases reply with
      | error e => exact fun hgranted => hreply (hgranted.split hstep.allocated).2
      | ok all =>
        rw [List.flatMap_append] at hreply
        rw [← List.append_assoc]
        exact (((hstep.told (some changed) rfl).append_left _).append_right _).trans hreply

/-- A command tells all that it recorded. If it fails without a commit that succeeded, or in one transaction, the
store is as before; and if it fails without a commit that failed, nothing was recorded. -/
theorem run_command (c : Command) (hi : t.session.Idle) (hl : t.session.store.Lawful)
    (hid : 0 < c.fresh t.session → t.session.store.registrations.get? ⟨t.session.ids.next⟩ = none)
    (log : List RegistrationEvent) :
    ∃ reply t' recorded n, (Allocate.command c).run.run (Program.watch answerAllocator changes) (t, log) =
        (some reply, t', log ++ recorded) ∧ t.Ended t' recorded n ∧
      match reply with
      | .ok a => recorded ~ a.events
      | .error _ => (c.Single → t'.session.store = t.session.store) ∧ (t.Granted n → recorded = []) := by
  by_cases hc : c.Single
  · obtain ⟨d, reply, t', recorded, n, hrun, hend⟩ := run_single hi hl hc hid log
    refine ⟨reply, t', recorded, n, hrun, hend.toEnded, ?_⟩
    cases reply with
    | ok a => exact hend.told a rfl
    | error e => exact ⟨fun _ => (hend.unchanged e rfl).1, fun _ => (hend.unchanged e rfl).2⟩
  cases c with
  | increaseCapacity event capacity =>
    obtain ⟨reply, t₁, first, m, hrun, hraise⟩ := run_raiseCapacity hi hl event capacity log
    rw [Allocate.command, Allocate.increaseCapacity, Program.run_except_bind, hrun]
    generalize Allocate.maxWaitlist = limit
    rcases reply with e | event'
    · exact ⟨.error e, t₁, first, m, rfl, hraise.toEnded, fun h => absurd h hc, fun _ => (hraise.unchanged e rfl).2⟩
    · obtain rfl := (hraise.told event' rfl).eq_nil
      obtain ⟨rfl, he⟩ := Decision.raiseCapacity_result? (hraise.result event' rfl)
      obtain ⟨reply, t', others, n, hrun', hend, hreply⟩ :=
        run_promoteAll event' limit [] hraise.idle hraise.lawful (hraise.keeps.knows he) log
      simp only [List.append_nil, Program.run_except_bind, hrun']
      have hall := hraise.toEnded.trans hend
      rw [List.nil_append] at hall
      rcases reply with e | all
      · exact ⟨.error e, t', others, m + n, rfl, hall, fun h => absurd h hc,
          fun hgranted => absurd (hgranted.split hraise.allocated).2 hreply⟩
      · exact ⟨.ok { affected := all }, t', others, m + n, rfl, hall, hreply⟩
  | _ => exact absurd trivial hc

end Trial
end Turnstile
