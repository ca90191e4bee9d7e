import Turnstile.Proofs.Sql.Steps

/-!
Every command sends its statements as it should, whatever the database answers.
-/

namespace Turnstile.Sql

section
variable {α : Type} {c : Command} {log : List Answered}

private theorem obeys_begin (h : Outside c log) : Obeys c (Allocate.stored (Allocate.ask .begin)) log fun _ log' =>
    Begun c log' ∧ ∃ response, log' = log ++ [⟨.begin, .ok response⟩] := by
  refine ⟨h.allows_begin, fun reply => ?_⟩
  cases reply with
  | error refusal => exact (h.not_begun refusal).stopped
  | ok response => exact ⟨h.begun response, response, rfl⟩

/-- If a commit is refused the transaction is rolled back, and nothing was committed. -/
private theorem obeys_commit {read : List Registration} {written : List Tracked}
    (h : Working c log read written (announced written)) :
    Obeys c (Allocate.stored (Allocate.tx .commit)) log fun _ log' => opened log' = none ∧ log <+: log' := by
  refine ⟨h.allows_commit, fun reply => ?_⟩
  cases reply with
  | error refusal =>
    have hout := h.not_committed refusal
    exact ⟨hout.stopped.allows_rollback, fun reply' => (hout.stopped.rollback reply').stopped⟩
  | ok response => exact ⟨by simp [opened_concat, Answered.after], List.prefix_append log _⟩

private theorem obeys_rollback (h : Stopped c log) :
    Obeys c (Allocate.stored (Allocate.tx .rollback)) log fun _ log' => opened log' = none ∧ log <+: log' := by
  refine ⟨h.allows_rollback, fun reply => ?_⟩
  cases reply with
  | error refusal =>
    have hout := h.rollback (.error refusal)
    exact ⟨hout.stopped.allows_rollback, fun reply' => (hout.stopped.rollback reply').stopped⟩
  | ok response => exact ⟨(h.rollback _).closed, List.prefix_append log _⟩

private theorem obeys_drop (h : Stopped c log) :
    Obeys c (Allocate.lift (Allocate.tx .drop)) log fun _ log' => Stopped c log' :=
  ⟨h.allows_rollback, fun reply => (h.rollback reply).stopped⟩

/-- The failure of a body is caught. -/
private theorem obeys_attempt {p : Allocate α} {post : α → List Answered → Prop} (hp : Obeys c p log post) :
    Obeys c (Allocate.lift p.run) log fun r log' => match r with
      | .ok a => post a log'
      | .error _ => Stopped c log' := by
  have hrelay : Store.allocate (Allocate.lift p.run) = (Store.allocate p).bind fun r => .done (.ok r) :=
    Program.relay_bind _ _ _
  show Follows _ _ (Store.allocate (Allocate.lift p.run)) log
  rw [hrelay]
  refine Follows.bind hp fun r log' hr => ?_
  cases r <;> exact hr

/-- Where the body of a transaction has to end: what it wrote is announced, unless it is to be rolled back. -/
private def Concluded (c : Command) (post : α → List Answered → Prop) : Verdict α → List Answered → Prop
  | .commit a, log => (∃ read written, Working c log read written (announced written)) ∧ post a log
  | .rollback a, log => Stopped c log ∧ post a log

private theorem obeys_transact {body : Allocate (Verdict α)} (post : α → List Answered → Prop) (h : Outside c log)
    (hbody : ∀ response, Begun c (log ++ [⟨.begin, .ok response⟩]) →
      Obeys c body (log ++ [⟨.begin, .ok response⟩]) (Concluded c post)) :
    Obeys c (Allocate.transact body) log fun a log' => opened log' = none ∧ ∃ log₁, post a log₁ ∧ log₁ <+: log' := by
  refine (obeys_begin h).bind fun _ log' hlog => ?_
  obtain ⟨hbegun, response, rfl⟩ := hlog
  refine (obeys_attempt (hbody response hbegun)).bind fun r log₁ hr => ?_
  rcases r with e | a | a
  · exact (obeys_drop hr).bind fun _ log' hlog => obeys_throw e hlog
  · obtain ⟨⟨read, written, hworking⟩, hpost⟩ := hr
    exact (obeys_commit hworking).bind fun _ log' hlog => obeys_pure ⟨hlog.1, log₁, hpost, hlog.2⟩
  · exact (obeys_rollback hr.1).bind fun _ log' hlog => obeys_pure ⟨hlog.1, log₁, hr.2, hlog.2⟩

/-- The event of a registration, as it was looked up first. -/
private theorem obeys_eventOf (h : Outside c []) (id : RegistrationId) :
    Obeys c (Allocate.eventOf id) [] fun event log' => Outside c log' ∧ ∃ response r,
      response.rows.head?.mapM registrationOfRow = .ok (some r) ∧ event = r.eventId ∧
        log' = [⟨.selectRegistration id, .ok response⟩] := by
  have hread : Ensures c (Store.getRegistration id) [] fun r log' => Outside c log' ∧ ∃ response,
      response.rows.head?.mapM registrationOfRow = .ok r ∧ log' = [⟨.selectRegistration id, .ok response⟩] := by
    refine ⟨h.allows (Statement.Lookup.selectRegistration id), fun reply => ?_⟩
    cases reply with
    | error refusal => exact (h.query _).stopped
    | ok response =>
      refine Ensures.imp (ensures_lift (h.query (.ok response)).stopped _) fun r log' hr => ?_
      exact ⟨hr.1 ▸ h.query _, response, hr.2, hr.1⟩
  have hlookup : Obeys c (Allocate.getRegistration id) [] _ := obeys_stored (w := Store.getRegistration id) rfl hread
  refine hlookup.bind fun r log' hlog => ?_
  obtain ⟨hout, response, hr, rfl⟩ := hlog
  cases r with
  | none => exact obeys_throw _ hout.stopped
  | some r => exact obeys_pure ⟨hout, response, r, hr, rfl, rfl⟩

end

section
variable {c : Command} {log : List Answered} {read : List Registration} {written : List Tracked}

/-- Somebody new is written and announced. -/
private theorem obeys_enter (h : Working c log read [] []) {t : Tracked} (ht : t.Recorded (· ∈ read)) :
    Obeys c (do
      Allocate.Tx.insertRegistration t.registration
      Allocate.stage [t]
      pure (.commit t)) log (Concluded c fun _ _ => True) := by
  refine (obeys_insertRegistration h ht).bind fun _ log₁ h₁ => ?_
  refine (obeys_stage h₁ [t]).bind fun _ log₂ h₂ => ?_
  exact obeys_pure ⟨⟨read, [t], h₂⟩, trivial⟩

/-- What was written is announced, the first row before the others. -/
private theorem obeys_report {α : Type} {t : Tracked} {moved : List Tracked} (h : Working c log read (t :: moved) [])
    (a : α) :
    Obeys c (do
      Allocate.stage [t]
      Allocate.stage moved
      pure (.commit a)) log (Concluded c fun _ _ => True) := by
  refine (obeys_stage h [t]).bind fun _ log₁ h₁ => ?_
  refine (obeys_stage h₁ moved).bind fun _ log₂ h₂ => ?_
  rw [List.nil_append, ← announced_append] at h₂
  exact obeys_pure ⟨⟨read, t :: moved, h₂⟩, trivial⟩

private theorem obeys_register (event : EventId) (registrant : RegistrantId)
    (h : Outside (.register event registrant) []) :
    Obeys (.register event registrant) (Allocate.register event registrant) [] fun _ _ => True := by
  refine obeys_now.bind fun now log hlog => ?_
  subst hlog
  refine (obeys_transact (fun _ _ => True) h fun response hbegun => ?_).bind fun created log' _ =>
    (obeys_count _).bind fun _ _ _ => obeys_pure trivial
  refine (obeys_lockExisting hbegun (.register event registrant _)).bind fun e log₁ h₁ => ?_
  refine (obeys_registrantExists h₁.1 registrant).bind fun known log₂ h₂ => ?_
  dsimp only
  split
  · exact obeys_throw _ h₂.stopped
  refine (obeys_findActive h₂ event registrant).bind fun active log₃ h₃ => ?_
  split
  · exact obeys_throw _ h₃.stopped
  split
  · exact obeys_throw _ h₃.stopped
  refine (obeys_countConfirmed h₃ e.id).bind fun seated log₄ h₄ => ?_
  split
  · refine obeys_freshId.bind fun id log' hlog => ?_
    subst hlog
    rw [pure_bind]
    exact obeys_enter h₄ (.confirmed e.id registrant now id)
  · refine (obeys_waitlist h₄ e.id).bind fun queue log₅ h₅ => ?_
    refine (obeys_checked h₅.stopped _).bind fun create log' hcreate => ?_
    obtain ⟨rfl, hcreate⟩ := hcreate
    refine obeys_freshId.bind fun id log' hlog => ?_
    subst hlog
    rw [pure_bind]
    exact obeys_enter h₅ (.waitlisted hcreate id)

private theorem obeys_cancel (id : RegistrationId) (h : Outside (.cancel id) []) :
    Obeys (.cancel id) (Allocate.cancel id) [] fun _ _ => True := by
  refine obeys_now.bind fun now log hlog => ?_
  subst hlog
  refine (obeys_eventOf h id).bind fun event log hlog => ?_
  obtain ⟨hout, response, found, hfound, rfl, rfl⟩ := hlog
  refine (obeys_transact (fun _ _ => True) hout fun response hbegun => ?_).bind fun x log' _ => ?_
  · refine (obeys_lockExisting hbegun (.cancel id hfound _)).bind fun e log₁ h₁ => ?_
    refine (obeys_lockedRegistration h₁.1 id).bind fun r log₂ h₂ => ?_
    split
    · exact obeys_pure ⟨h₂.stopped, trivial⟩
    · next released cancelled hcancel =>
      have hrecorded : cancelled.Recorded (· ∈ [] ++ [r]) := .cancelled (by simp) hcancel
      refine (obeys_updateRegistration h₂ hrecorded).bind fun _ log₃ h₃ => ?_
      dsimp only
      split
      · refine (obeys_closeGap h₃ _ _).bind fun moved log₄ h₄ => ?_
        obtain ⟨read, h₄⟩ := h₄
        exact obeys_report h₄ _
      split
      · refine (obeys_promoteIfFree h₃ e).bind fun moved log₄ h₄ => ?_
        obtain ⟨read, h₄⟩ := h₄
        exact obeys_report h₄ _
      · exact obeys_report h₃ _
  · obtain ⟨allocation, released | released⟩ := x
    · exact obeys_pure trivial
    · refine (obeys_count _).bind fun _ _ _ => ?_
      split
      · exact (obeys_count _).bind fun _ _ _ => obeys_pure trivial
      · exact obeys_pure trivial

private theorem obeys_promote (event : EventId) (h : Outside (.promote event) []) :
    Obeys (.promote event) (Allocate.promote event) [] fun _ _ => True := by
  refine obeys_now.bind fun now log hlog => ?_
  subst hlog
  refine (obeys_transact (fun _ _ => True) h fun response hbegun => ?_).bind fun x log' _ => ?_
  · refine (obeys_lockExisting hbegun (.promote event _)).bind fun e log₁ h₁ => ?_
    refine (obeys_waitlist h₁.1 e.id).bind fun queue log₂ h₂ => ?_
    dsimp only
    split
    · exact obeys_pure ⟨h₂.stopped, trivial⟩
    refine (obeys_countConfirmed h₂ e.id).bind fun seated log₃ h₃ => ?_
    split
    · exact obeys_throw _ h₃.stopped
    · refine (obeys_promoteHead h₃ e.id).bind fun changed log₄ h₄ => ?_
      obtain ⟨read, h₄⟩ := h₄
      refine (obeys_stage h₄ changed).bind fun _ log₅ h₅ => ?_
      exact obeys_pure ⟨⟨read, changed, h₅⟩, trivial⟩
  · rcases x with _ | _ | _
    · exact obeys_pure trivial
    · exact (obeys_count _).bind fun _ _ _ => obeys_pure trivial
    · exact (obeys_count _).bind fun _ _ _ => obeys_pure trivial

private theorem obeys_confirm (id : RegistrationId) (h : Outside (.confirm id) []) :
    Obeys (.confirm id) (Allocate.confirm id) [] fun _ _ => True := by
  refine obeys_now.bind fun now log hlog => ?_
  subst hlog
  refine (obeys_eventOf h id).bind fun event log hlog => ?_
  obtain ⟨hout, response, found, hfound, rfl, rfl⟩ := hlog
  refine (obeys_transact (fun _ _ => True) hout fun response hbegun => ?_).bind fun a log' _ =>
    (obeys_count _).bind fun _ _ _ => obeys_pure trivial
  refine (obeys_lockExisting hbegun (.confirm id hfound _)).bind fun e log₁ h₁ => ?_
  refine (obeys_lockedRegistration h₁.1 id).bind fun r log₂ h₂ => ?_
  refine (obeys_checked h₂.stopped _).bind fun x log' hx => ?_
  obtain ⟨rfl, hx⟩ := hx
  refine (obeys_countConfirmed h₂ e.id).bind fun seated log₃ h₃ => ?_
  dsimp only
  split
  · exact obeys_throw _ h₃.stopped
  · have hrecorded : x.2.Recorded (· ∈ [] ++ [r]) := .promoted (by simp) hx
    refine (obeys_updateRegistration h₃ hrecorded).bind fun _ log₄ h₄ => ?_
    refine (obeys_closeGap h₄ e.id _).bind fun moved log₅ h₅ => ?_
    obtain ⟨read, h₅⟩ := h₅
    exact obeys_report h₅ _

end

section
variable {event next : EventId} {capacity : UInt32} {log : List Answered}

/-- From now on the transactions of a command are about one event. -/
private def Names (c : Command) (event : EventId) (log : List Answered) : Prop :=
  ∀ more, Concerns c (log ++ more) event

private theorem Names.grows {c : Command} (h : Names c event log) {log' : List Answered} (hpre : log <+: log') :
    Names c event log' := by
  obtain ⟨rest, rfl⟩ := hpre
  intro more
  rw [List.append_assoc]
  exact h (rest ++ more)

/-- Between the transactions of a command that runs in several there is nothing to watch for. -/
private theorem outside_of_opened (h : opened log = none) : Outside (.increaseCapacity event capacity) log :=
  ⟨h, False.elim⟩

private theorem obeys_raiseCapacity (event : EventId) (capacity : UInt32) :
    Obeys (.increaseCapacity event capacity) (Allocate.raiseCapacity event capacity) [] fun next log' =>
      opened log' = none ∧ Names (.increaseCapacity event capacity) next log' := by
  refine Ensures.imp (obeys_transact (Names (.increaseCapacity event capacity)) (outside_of_opened rfl)
    fun response hbegun => ?_) fun next log' hlog => ?_
  · refine (obeys_lockExisting hbegun (.raise event capacity _)).bind fun e log₁ h₁ => ?_
    obtain ⟨hworking, x, response', rfl, he⟩ := h₁
    have hnames : Names (.increaseCapacity event capacity) e.id
        ([] ++ [⟨.begin, .ok response⟩] ++ [x, ⟨.selectEvent event, .ok response'⟩]) :=
      fun more => .fill event capacity _ x he more
    dsimp only
    split
    · exact obeys_throw _ hworking.stopped
    split
    · refine Obeys.bind (Ensures.grows (obeys_updateCapacity hworking e.id capacity)) fun _ log₂ h₂ => ?_
      exact obeys_pure ⟨⟨[], [], h₂.1⟩, hnames.grows h₂.2⟩
    · exact obeys_pure ⟨hworking.stopped, hnames⟩
  · obtain ⟨hclosed, log₁, hnames, hpre⟩ := hlog
    exact ⟨hclosed, hnames.grows hpre⟩

private theorem obeys_promoteStep (hclosed : opened log = none)
    (hnames : Names (.increaseCapacity event capacity) next log) :
    Obeys (.increaseCapacity event capacity) (Allocate.promoteStep next) log fun _ log' =>
      opened log' = none ∧ Names (.increaseCapacity event capacity) next log' := by
  have hstep : Obeys (.increaseCapacity event capacity) (Allocate.promoteStep next) log fun _ log' =>
      opened log' = none := by
    refine obeys_now.bind fun now log hlog => ?_
    subst hlog
    refine (obeys_transact (fun _ _ => True) (outside_of_opened hclosed) fun response hbegun => ?_).bind
      fun changed log' hlog => ?_
    · refine (obeys_lockExisting hbegun (hnames _)).bind fun e log₁ h₁ => ?_
      refine (obeys_promoteIfFree h₁.1 e).bind fun changed log₂ h₂ => ?_
      obtain ⟨read, h₂⟩ := h₂
      cases changed with
      | nil => exact obeys_pure ⟨h₂.stopped, trivial⟩
      | cons t rest =>
        refine (obeys_stage h₂ (t :: rest)).bind fun _ log₃ h₃ => ?_
        exact obeys_pure ⟨⟨read, t :: rest, h₃⟩, trivial⟩
    · split
      · refine (obeys_count _).bind fun _ log'' hlog' => ?_
        subst hlog'
        exact obeys_pure hlog.1
      · exact obeys_pure hlog.1
  exact (Ensures.grows hstep).imp fun _ log' hlog => ⟨hlog.1, hnames.grows hlog.2⟩

private theorem obeys_promoteAll (hclosed : opened log = none)
    (hnames : Names (.increaseCapacity event capacity) next log) (limit : Nat) (done : List Tracked) :
    Obeys (.increaseCapacity event capacity) (Allocate.promoteAll next limit done) log fun _ _ => True := by
  induction limit generalizing log done with
  | zero => exact obeys_pure trivial
  | succ limit ih =>
    refine (obeys_promoteStep hclosed hnames).bind fun changed log' hlog => ?_
    cases changed with
    | none => exact obeys_pure trivial
    | some changed => exact ih hlog.1 hlog.2 _

private theorem obeys_increaseCapacity (event : EventId) (capacity : UInt32) :
    Obeys (.increaseCapacity event capacity) (Allocate.increaseCapacity event capacity) [] fun _ _ => True := by
  refine (obeys_raiseCapacity event capacity).bind fun next log hlog => ?_
  refine (obeys_promoteAll hlog.1 hlog.2 _ _).bind fun _ log' _ => ?_
  exact obeys_pure trivial

end

private theorem obeys_command (c : Command) : Obeys c (Allocate.command c) [] fun _ _ => True := by
  have h : Outside c [] := ⟨rfl, fun _ => nofun⟩
  cases c with
  | register event registrant => exact obeys_register event registrant h
  | cancel id => exact obeys_cancel id h
  | promote event => exact obeys_promote event h
  | confirm id => exact obeys_confirm id h
  | increaseCapacity event capacity => exact obeys_increaseCapacity event capacity

/-- Without a transaction that begins none is open. -/
private theorem opened_of_no_begin {log between : List Answered} (h : opened log = none)
    (hb : ∀ z ∈ between, z.statement ≠ .begin) : opened (log ++ between) = none := by
  induction between generalizing log with
  | nil => rwa [List.append_nil]
  | cons x between ih =>
    obtain ⟨hx, hb⟩ := List.forall_mem_cons.mp hb
    rw [List.append_cons]
    refine ih ?_ hb
    rw [opened_concat, h]
    rcases x with ⟨_ | _ | _ | _, _ | _⟩
    all_goals first | rfl | exact absurd rfl hx

private theorem commitsApart_of_allowed {c : Command} {log : List Answered}
    (h : ∀ before x after, log = before ++ x :: after → Allowed c before x.statement) : CommitsApart log := by
  intro before between after x y hlog hx hy
  by_contra hnone
  have hb : ∀ z ∈ between, z.statement ≠ .begin := fun z hz hbegin => hnone ⟨z, hz, hbegin⟩
  have hclosed : opened (before ++ [x]) = none := by
    obtain ⟨statement, reply⟩ := x
    obtain rfl : statement = .commit := hx
    simp [opened_concat, Answered.after]
  have hopen := (h (before ++ x :: between) y after hlog).commits hy
  obtain ⟨body, written, hbody, -⟩ := hopen
  rw [List.append_cons, opened_of_no_begin hclosed hb] at hbody
  cases hbody

/-- Whatever a database answers, and whatever the rest of the world, a command locks its event before anything else,
changes rows in transactions only, commits what went well and was announced, and fails without a commit. A database
that answers by a script is one of these: the command comes to its end, and that is said of all that was sent. -/
theorem allocate_disciplined (c : Command) :
    (∀ (σ : Type) (answer : (call : Call) → σ → call.Reply × σ) (s : σ),
      Disciplined c (answered answer (Store.allocate (Allocate.command c)) s)
        ((Store.allocate (Allocate.command c)).exec answer s).1) ∧
    ∀ d : Simulation.Database,
      let log := answered Simulation.Database.reply (Store.allocate (Allocate.command c)) d
      ∃ result d', d.run (Store.allocate (Allocate.command c)) = (some result, d') ∧
        d'.sent = d.sent ++ log.map Answered.statement ∧ Disciplined c log result := by
  have hall {σ : Type} (answer : (call : Call) → σ → call.Reply × σ) (s : σ) :
      Disciplined c (answered answer (Store.allocate (Allocate.command c)) s)
        ((Store.allocate (Allocate.command c)).exec answer s).1 := by
    obtain ⟨hallowed, hpost⟩ := Follows.run (obeys_command c) answer s
    refine ⟨hallowed, commitsApart_of_allowed hallowed, fun hs e he => ?_⟩
    rw [ExceptT.run_mk, he] at hpost
    exact hpost.uncommitted hs
  refine ⟨fun σ => hall, fun d => ?_⟩
  obtain ⟨hrun, hsent⟩ := Simulation.Database.run_eq_exec d (Store.allocate (Allocate.command c))
  exact ⟨_, _, hrun, hsent, hall Simulation.Database.reply d⟩

end Turnstile.Sql
