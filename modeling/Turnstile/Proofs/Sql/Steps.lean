import Turnstile.Proofs.Sql.Progress

/-!
What each part of a command sends, and where it leaves the transaction.
-/

namespace Turnstile.Sql

/-- A part of a command that goes on from a log sends what the command may send. If it comes to an end the log is as
it says, and if it fails nothing was committed. -/
def Ensures {ε α : Type} (c : Command) (p : ExceptT ε (Program Call.Reply) α) (log : List Answered)
    (post : α → List Answered → Prop) : Prop :=
  Follows (Allowed c) (fun r log' => match r with
    | .ok a => post a log'
    | .error _ => Stopped c log') p.run log

namespace Ensures
variable {ε α β : Type} {c : Command} {log : List Answered} {p : ExceptT ε (Program Call.Reply) α}
  {post : α → List Answered → Prop}

theorem imp {post' : α → List Answered → Prop} (h : Ensures c p log post)
    (hpost : ∀ a log', post a log' → post' a log') : Ensures c p log post' := by
  refine Follows.imp h fun r log' hr => ?_
  cases r with
  | ok a => exact hpost a log' hr
  | error e => exact hr

theorem bind {f : α → ExceptT ε (Program Call.Reply) β} {post' : β → List Answered → Prop} (hp : Ensures c p log post)
    (hf : ∀ a log', post a log' → Ensures c (f a) log' post') : Ensures c (p >>= f) log post' := by
  refine Follows.bind hp fun r log' hr => ?_
  cases r with
  | ok a => exact hf a log' hr
  | error e => exact hr

theorem grows (h : Ensures c p log post) : Ensures c p log fun a log' => post a log' ∧ log <+: log' := by
  refine (Follows.grows h).imp fun r log' hr => ?_
  cases r with
  | ok a => exact hr
  | error e => exact hr.1

end Ensures

section
variable {α : Type} {c : Command} {log : List Answered} {read : List Registration} {written : List Tracked}
  {told : List RegistrationEvent} {text : String} {params : List Cell} {post : α → List Answered → Prop}

theorem ensures_lift (h : Stopped c log) (r : Stored α) :
    Ensures c (Work.lift r) log fun a log' => log' = log ∧ r = .ok a := by
  cases r with
  | ok a => exact ⟨rfl, rfl⟩
  | error e => exact h

theorem ensures_execute (h : Working c log read written told) (text : String) (params : List Cell) :
    Ensures c (Work.execute text params) log fun response log' =>
      log' = log ++ [⟨.query text params, .ok response⟩] := by
  refine ⟨h.allows, fun reply => ?_⟩
  cases reply with
  | error refusal => exact h.stopped.query _
  | ok response => rfl

theorem ensures_rows (h : Working c log read written told) {decode : Row → Stored α}
    {post : List α → List Answered → Prop} (hpost : ∀ response as, response.rows.mapM decode = .ok as →
      post as (log ++ [⟨.query text params, .ok response⟩])) : Ensures c (Work.rows text params decode) log post := by
  refine (ensures_execute h text params).bind fun response log' hlog => ?_
  subst hlog
  refine (ensures_lift (h.stopped.query _) _).imp fun as log' has => ?_
  rw [has.1]
  exact hpost response as has.2

theorem ensures_row? (h : Working c log read written told) {decode : Row → Stored α}
    {post : Option α → List Answered → Prop} (hpost : ∀ response a, response.rows.head?.mapM decode = .ok a →
      post a (log ++ [⟨.query text params, .ok response⟩])) : Ensures c (Work.row? text params decode) log post := by
  refine (ensures_execute h text params).bind fun response log' hlog => ?_
  subst hlog
  refine (ensures_lift (h.stopped.query _) _).imp fun a log' ha => ?_
  rw [ha.1]
  exact hpost response a ha.2

theorem ensures_row (h : Working c log read written told) {decode : Row → Stored α}
    (hpost : ∀ response row more a, response.rows = row :: more → decode row = .ok a →
      post a (log ++ [⟨.query text params, .ok response⟩])) : Ensures c (Work.row text params decode) log post := by
  refine (ensures_execute h text params).bind fun response log' hlog => ?_
  subst hlog
  cases hrows : response.rows with
  | nil => exact h.stopped.query _
  | cons row more =>
    refine (ensures_lift (h.stopped.query _) _).imp fun a log' ha => ?_
    rw [ha.1]
    exact hpost response row more a hrows ha.2

end

/-- What `Ensures` says, of a part of a command over this store. -/
def Obeys {α : Type} (c : Command) (p : Allocate α) (log : List Answered) (post : α → List Answered → Prop) : Prop :=
  Ensures c (ExceptT.mk (Store.allocate p)) log post

section
variable {α β : Type} {c : Command} {log : List Answered} {post : α → List Answered → Prop}

theorem Obeys.bind {p : Allocate α} {f : α → Allocate β} {post' : β → List Answered → Prop} (hp : Obeys c p log post)
    (hf : ∀ a log', post a log' → Obeys c (f a) log' post') : Obeys c (p >>= f) log post' := by
  have hrelay : Store.allocate (p >>= f) =
      (Store.allocate p).bind fun r => (ExceptT.bindCont (fun a => f a) r).relay Store.allocator :=
    Program.relay_bind _ _ _
  show Follows _ _ (Store.allocate (p >>= f)) log
  rw [hrelay]
  refine Follows.bind hp fun r log' hr => ?_
  cases r with
  | ok a => exact hf a log' hr
  | error e => exact hr

theorem obeys_pure {a : α} (h : post a log) : Obeys c (pure a) log post := h

theorem obeys_throw (e : AllocationError) (h : Stopped c log) : Obeys c (throw e : Allocate α) log post := h

theorem obeys_checked (h : Stopped c log) (r : Except RegistrationError α) :
    Obeys c (Allocate.checked r) log fun a log' => log' = log ∧ r = .ok a := by
  cases r with
  | ok a => exact ⟨rfl, rfl⟩
  | error e => exact h

theorem obeys_now : Obeys c Allocate.now log fun _ log' => log' = log := fun _ => rfl

theorem obeys_freshId {kind : IdKind} : Obeys c (Allocate.freshId : Allocate (Id kind)) log fun _ log' => log' = log :=
  fun _ => rfl

theorem obeys_count (counter : Counter) : Obeys c (Allocate.count counter) log fun _ log' => log' = log := fun _ => rfl

/-- A question to the store is answered by work on the database. -/
theorem obeys_stored {p : Allocate α} {w : Work α}
    (hp : Store.allocate p = w.run.bind fun r => .done (r.mapError AllocationError.ofStore))
    (hw : Ensures c w log post) : Obeys c p log post := by
  show Follows _ _ (Store.allocate p) log
  rw [hp]
  refine Follows.bind hw fun r log' hr => ?_
  cases r with
  | ok a => exact hr
  | error e => exact hr

end

section
variable {c : Command} {log : List Answered} {read : List Registration} {written : List Tracked}
  {told : List RegistrationEvent}

theorem obeys_registrantExists (h : Working c log read written told) (registrant : RegistrantId) :
    Obeys c (Allocate.Tx.registrantExists registrant) log fun _ log' => Working c log' read written told := by
  refine obeys_stored (w := Store.registrantExists registrant) rfl
    (ensures_row h fun response row more known hrows hknown => ?_)
  exact h.passes (.registrantExists registrant hrows hknown) (Statement.Lookup.registrantExists registrant).plain

theorem obeys_findActive (h : Working c log read written told) (event : EventId) (registrant : RegistrantId) :
    Obeys c (Allocate.Tx.findActive event registrant) log fun _ log' => Working c log' read written told := by
  refine obeys_stored (w := Store.findActive event registrant) rfl (ensures_row? h fun response r hr => ?_)
  exact h.passes (.selectActive event registrant hr) (Statement.Lookup.selectActive event registrant).plain

theorem obeys_countConfirmed (h : Working c log read written told) (event : EventId) :
    Obeys c (Allocate.Tx.countConfirmed event) log fun _ log' => Working c log' read written told := by
  have hcount : Ensures c (Work.row
      "SELECT COUNT(*) FROM registrations WHERE event_id = $1 AND status = 'Confirmed'" [.id event] Row.soleInt8) log
      fun n log' => Stopped c log' ∧ (0 ≤ n ∧ n < UInt32.size → Working c log' read written told) :=
    ensures_row h fun response row more n hrows hn => ⟨h.stopped.query _, fun hsize =>
      h.passes (.countConfirmed event hrows hn hsize) (Statement.Lookup.countConfirmed event).plain⟩
  refine obeys_stored (w := Store.countConfirmed event) rfl (hcount.bind fun n log' hlog => ?_)
  split
  · next hsize => exact hlog.2 hsize
  · exact hlog.1

theorem obeys_getRegistration (h : Working c log read written told) (id : RegistrationId) :
    Obeys c (Allocate.Tx.getRegistration id) log fun r log' => Working c log' (read ++ r.toList) written told := by
  refine obeys_stored (w := Store.getRegistration id) rfl (ensures_row? h fun response r hr => ?_)
  refine h.selects (.selectRegistration id hr) (fun x hx => ?_) (Statement.Lookup.selectRegistration id)
  obtain rfl := Option.mem_toList.mp hx
  exact .of_head? hr

theorem obeys_waitlist (h : Working c log read written told) (event : EventId) :
    Obeys c (Allocate.Tx.waitlist event) log fun queue log' => Working c log' (read ++ queue) written told := by
  refine obeys_stored (w := Store.waitlist event) rfl (ensures_rows h fun response queue hqueue => ?_)
  exact h.selects (.selectWaitlist event hqueue) (fun r hr => .of_mapM hqueue hr)
    (Statement.Lookup.selectWaitlist event)

theorem obeys_insertRegistration (h : Working c log read written told) {t : Tracked} (ht : t.Recorded (· ∈ read)) :
    Obeys c (Allocate.Tx.insertRegistration t.registration) log fun _ log' =>
      Working c log' read (written ++ [t]) told := by
  refine obeys_stored (w := Store.insertRegistration t.registration) rfl
    ((ensures_lift h.stopped _).bind fun params log' hlog => ?_)
  obtain ⟨rfl, hparams⟩ := hlog
  refine ⟨h.allows, fun reply => ?_⟩
  cases reply with
  | error refusal => exact h.stopped.query _
  | ok response =>
    exact h.writes (.insertRegistration params response) (.insert hparams) ht
      (Statement.writesRegistration_insertRegistration params)

theorem obeys_updateRegistration (h : Working c log read written told) {t : Tracked} (ht : t.Recorded (· ∈ read)) :
    Obeys c (Allocate.Tx.updateRegistration t.registration) log fun _ log' =>
      Working c log' read (written ++ [t]) told := by
  refine obeys_stored (w := Store.updateRegistration t.registration) rfl
    ((ensures_lift h.stopped _).bind fun params log' hlog => ?_)
  obtain ⟨rfl, hparams⟩ := hlog
  refine (ensures_execute h _ params).bind fun response log' hlog => ?_
  subst hlog
  split
  · exact h.stopped.query _
  · next hchanged =>
    exact h.writes (.updateRegistration params hchanged) (.update hparams) ht
      (Statement.writesRegistration_updateRegistration params)

theorem obeys_updateCapacity (h : Working c log read written told) (event : EventId) (capacity : UInt32) :
    Obeys c (Allocate.Tx.updateCapacity event capacity) log fun _ log' => Working c log' read written told := by
  refine obeys_stored (w := Store.updateCapacity event capacity) rfl
    ((ensures_lift h.stopped _).bind fun n log' hlog => ?_)
  obtain ⟨rfl, -⟩ := hlog
  refine ⟨h.allows, fun reply => ?_⟩
  cases reply with
  | error refusal => exact h.stopped.query _
  | ok response =>
    exact h.passes (.updateCapacity event n response) (Statement.writesRegistration_updateCapacity event n)

theorem obeys_insertMessage (h : Working c log read written told) {m : OutboxMessage} {e : RegistrationEvent}
    (hm : m.Announces e) :
    Obeys c (Allocate.Tx.insertMessage m) log fun _ log' => Working c log' read written (told ++ [e]) := by
  refine obeys_stored (w := Store.insertMessage m) rfl
    ((ensures_lift h.stopped _).bind fun params log' hlog => ?_)
  obtain ⟨rfl, hparams⟩ := hlog
  refine ⟨h.allows, fun reply => ?_⟩
  cases reply with
  | error refusal => exact h.stopped.query _
  | ok response =>
    exact h.announces (.insertMessage params response) ⟨m, params, hm, hparams, rfl⟩
      (Statement.writesMessage_insertMessage params)

theorem obeys_lockEvent (h : Begun c log) {event : EventId} (hc : Concerns c log event) :
    Obeys c (Allocate.Tx.lockEvent event) log fun e log' => Working c log' [] [] [] ∧
      ∃ x response, log' = log ++ [x, ⟨.selectEvent event, .ok response⟩] ∧
        response.rows.head?.mapM eventOfRow = .ok e := by
  refine obeys_stored (w := Store.lockEvent event) rfl ⟨hc.allows_lock, fun reply => ?_⟩
  cases reply with
  | error refusal => exact h.refused refusal
  | ok response =>
    have hworking := h.locked event response
    have hread : Ensures c (Store.getEvent event) (log ++ [⟨.lock event, .ok response⟩]) fun e log' =>
        Working c log' [] [] [] ∧ ∃ x response, log' = log ++ [x, ⟨.selectEvent event, .ok response⟩] ∧
          response.rows.head?.mapM eventOfRow = .ok e :=
      ensures_row? hworking fun response' e he =>
        ⟨hworking.passes (.selectEvent event he) (Statement.Lookup.selectEvent event).plain,
          ⟨.lock event, .ok response⟩, response', List.append_assoc log _ _, he⟩
    exact hread

theorem obeys_lockExisting (h : Begun c log) {event : EventId} (hc : Concerns c log event) :
    Obeys c (Allocate.lockExisting event) log fun e log' => Working c log' [] [] [] ∧
      ∃ x response, log' = log ++ [x, ⟨.selectEvent event, .ok response⟩] ∧
        response.rows.head?.mapM eventOfRow = .ok (some e) := by
  refine (obeys_lockEvent h hc).bind fun e log' hlog => ?_
  cases e with
  | none => exact obeys_throw _ hlog.1.stopped
  | some e => exact obeys_pure hlog

end

section
variable {c : Command} {log : List Answered} {read : List Registration} {written : List Tracked}
  {told : List RegistrationEvent} {now : Instant}

theorem obeys_lockedRegistration (h : Working c log read written told) (id : RegistrationId) :
    Obeys c (Allocate.lockedRegistration id) log fun r log' => Working c log' (read ++ [r]) written told := by
  refine (obeys_getRegistration h id).bind fun r log' hlog => ?_
  cases r with
  | none => exact obeys_throw _ hlog.stopped
  | some r => exact obeys_pure hlog

private theorem obeys_stageEvent (h : Working c log read written told) (e : RegistrationEvent) :
    Obeys c (Allocate.stageEvent e.record) log fun _ log' =>
      Working c log' read written (told ++ [e].filter RegistrationEvent.isIntegration) := by
  cases he : e.isIntegration with
  | false =>
    rw [Allocate.stageEvent, if_neg (by simp [RegistrationEvent.record, he]), List.filter_cons_of_neg (by simp [he]),
      List.filter_nil, List.append_nil]
    exact obeys_pure h
  | true =>
    have hi : e.record.integration = true := he
    rw [Allocate.stageEvent, if_pos hi, List.filter_cons_of_pos he, List.filter_nil]
    refine obeys_freshId.bind fun id log' hlog => ?_
    subst hlog
    exact obeys_insertMessage h ⟨rfl, ⟨rfl, rfl⟩, rfl, rfl, rfl, rfl, rfl⟩

private theorem obeys_forM {ι : Type} {p : ι → Allocate Unit} {tells : ι → List RegistrationEvent}
    (hp : ∀ x {log told}, Working c log read written told →
      Obeys c (p x) log fun _ log' => Working c log' read written (told ++ tells x))
    (h : Working c log read written told) (xs : List ι) :
    Obeys c (xs.forM p) log fun _ log' => Working c log' read written (told ++ xs.flatMap tells) := by
  induction xs generalizing log told with
  | nil =>
    refine obeys_pure ?_
    rwa [List.flatMap_nil, List.append_nil]
  | cons x xs ih =>
    refine (hp x h).bind fun _ log' hlog => (ih hlog).imp fun _ log'' hlog' => ?_
    rwa [List.append_assoc] at hlog'

theorem obeys_stage (h : Working c log read written told) (ts : List Tracked) :
    Obeys c (Allocate.stage ts) log fun _ log' => Working c log' read written (told ++ announced ts) := by
  have hevents (t : Tracked) {log : List Answered} {told : List RegistrationEvent}
      (h : Working c log read written told) : Obeys c (t.pending.forM fun e => Allocate.stageEvent e.record) log
        fun _ log' => Working c log' read written (told ++ t.pending.filter RegistrationEvent.isIntegration) := by
    have hall := obeys_forM (fun e {_ _} hlog => obeys_stageEvent hlog e) h t.pending
    rwa [← List.filter_flatMap, List.flatMap_singleton'] at hall
  have hall := obeys_forM (fun t {_ _} hlog => hevents t hlog) h ts
  rwa [← List.filter_flatMap] at hall

theorem obeys_shiftUp (h : Working c log read written told) {rs : List Registration} (hrs : ∀ r ∈ rs, r ∈ read) :
    Obeys c (Allocate.shiftUp now rs) log fun moved log' => Working c log' read (written ++ moved) told := by
  induction rs generalizing log written with
  | nil =>
    refine obeys_pure ?_
    rwa [List.append_nil]
  | cons r rs ih =>
    obtain ⟨hr, hrs⟩ := List.forall_mem_cons.mp hrs
    refine (obeys_checked h.stopped _).bind fun x log' hx => ?_
    obtain ⟨rfl, hx⟩ := hx
    refine (obeys_updateRegistration h (.movedUp hr hx)).bind fun _ log' hlog => ?_
    refine (ih hlog hrs).bind fun moved log' hlog => obeys_pure ?_
    rwa [List.append_assoc] at hlog

theorem obeys_closeGap (h : Working c log read written told) (event : EventId) (released : UInt32) :
    Obeys c (Allocate.closeGap event released now) log fun moved log' =>
      ∃ read', Working c log' read' (written ++ moved) told := by
  refine (obeys_waitlist h event).bind fun queue log' hlog => ?_
  have hqueue : ∀ r ∈ queue.filter fun r => r.position.any fun p => released < p, r ∈ read ++ queue :=
    fun r hr => List.mem_append_right _ (List.mem_of_mem_filter hr)
  exact (obeys_shiftUp hlog hqueue).imp fun moved log' hlog => ⟨_, hlog⟩

theorem obeys_promoteHead (h : Working c log read written told) (event : EventId) :
    Obeys c (Allocate.promoteHead event now) log fun changed log' =>
      ∃ read', Working c log' read' (written ++ changed) told := by
  refine (obeys_waitlist h event).bind fun queue log' hlog => ?_
  cases queue with
  | nil =>
    refine obeys_pure ⟨read ++ [], ?_⟩
    rwa [List.append_nil written]
  | cons r rest =>
    have hmem : ∀ x ∈ r :: rest, x ∈ read ++ r :: rest := fun x hx => List.mem_append_right _ hx
    refine (obeys_checked hlog.stopped _).bind fun x log'' hx => ?_
    obtain ⟨rfl, hx⟩ := hx
    refine (obeys_updateRegistration hlog (.promoted (hmem r List.mem_cons_self) hx)).bind fun _ log' hlog => ?_
    refine (obeys_shiftUp hlog fun x hx => hmem x (List.mem_cons_of_mem _ hx)).bind fun moved log' hlog => ?_
    rw [List.append_assoc] at hlog
    exact obeys_pure ⟨_, hlog⟩

theorem obeys_promoteIfFree (h : Working c log read written told) (e : ScheduledEvent) :
    Obeys c (Allocate.promoteIfFree e now) log fun changed log' =>
      ∃ read', Working c log' read' (written ++ changed) told := by
  refine (obeys_countConfirmed h e.id).bind fun n log' hlog => ?_
  split
  · exact obeys_promoteHead hlog e.id
  · refine obeys_pure ⟨read, ?_⟩
    rwa [List.append_nil]

end

end Turnstile.Sql
