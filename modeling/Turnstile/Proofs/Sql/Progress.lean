import Turnstile.Proofs.Sql.Rules

/-!
Where a log leaves its transaction: none is open, one was just begun, everything went well in it, or nothing more
may be sent but its end.
-/

namespace Turnstile

theorem Tracked.Recorded.imp {read read' : Registration → Prop} {t : Tracked} (h : t.Recorded read)
    (hr : ∀ r, read r → read' r) : t.Recorded read' := by
  cases h with
  | confirmed event registrant now id => exact .confirmed event registrant now id
  | waitlisted h id => exact .waitlisted h id
  | cancelled hread h => exact .cancelled (hr _ hread) h
  | promoted hread h => exact .promoted (hr _ hread) h
  | movedUp hread h => exact .movedUp (hr _ hread) h

namespace Sql

namespace Statement

/-- The statements that change nothing. -/
inductive Lookup : Statement → Prop
  | lock (event : EventId) : Lookup (.lock event)
  | selectEvent (event : EventId) : Lookup (.selectEvent event)
  | selectRegistration (id : RegistrationId) : Lookup (.selectRegistration id)
  | registrantExists (registrant : RegistrantId) : Lookup (.registrantExists registrant)
  | selectActive (event : EventId) (registrant : RegistrantId) : Lookup (.selectActive event registrant)
  | countConfirmed (event : EventId) : Lookup (.countConfirmed event)
  | selectWaitlist (event : EventId) : Lookup (.selectWaitlist event)

theorem Lookup.writes {s : Statement} (h : s.Lookup) : s.writes = false := by
  cases h
  all_goals
    simp only [Statement.writes, writesRegistration, writesMessage, startsWith, Statement.lock,
      Statement.selectEvent, Statement.selectRegistration, Statement.registrantExists, Statement.selectActive,
      Statement.countConfirmed, Statement.selectWaitlist]
    decide +kernel

theorem Lookup.plain {s : Statement} (h : s.Lookup) : s.writesRegistration = false ∧ s.writesMessage = false := by
  have hw := h.writes
  simp only [Statement.writes, Bool.or_eq_false_iff] at hw
  exact ⟨hw.1.1, hw.2⟩

theorem writesRegistration_insertRegistration (params : List Cell) :
    (insertRegistration params).writesRegistration = true ∧ (insertRegistration params).writesMessage = false := by
  simp only [writesRegistration, writesMessage, startsWith, insertRegistration]
  decide +kernel

theorem writesRegistration_updateRegistration (params : List Cell) :
    (updateRegistration params).writesRegistration = true ∧ (updateRegistration params).writesMessage = false := by
  simp only [writesRegistration, writesMessage, startsWith, updateRegistration]
  decide +kernel

theorem writesRegistration_updateCapacity (event : EventId) (capacity : Int) :
    (updateCapacity event capacity).writesRegistration = false ∧
      (updateCapacity event capacity).writesMessage = false := by
  simp only [writesRegistration, writesMessage, startsWith, updateCapacity]
  decide +kernel

theorem writesMessage_insertMessage (params : List Cell) :
    (insertMessage params).writesRegistration = false ∧ (insertMessage params).writesMessage = true := by
  simp only [writesRegistration, writesMessage, startsWith, insertMessage]
  decide +kernel

end Statement

variable {c : Command} {log : List Answered} {text : String} {params : List Cell}

theorem opened_concat (log : List Answered) (x : Answered) : opened (log ++ [x]) = x.after (opened log) := by
  rw [opened, List.foldl_append]
  rfl

theorem Uncommitted.concat (h : Uncommitted log) {x : Answered}
    (hx : x.statement = .commit → ∃ refusal, x.reply = .error refusal) : Uncommitted (log ++ [x]) := by
  intro y hy
  rcases List.mem_append.mp hy with hy | hy
  · exact h y hy
  · obtain rfl := List.mem_singleton.mp hy
    exact hx

private theorem mem_of_mapM {rows : List Row} {rs : List Registration} (h : rows.mapM registrationOfRow = .ok rs)
    {r : Registration} (hr : r ∈ rs) : ∃ row ∈ rows, registrationOfRow row = .ok r := by
  induction rows generalizing rs with
  | nil =>
    obtain rfl : [] = rs := Except.ok.inj h
    cases hr
  | cons row rows ih =>
    rw [List.mapM_cons] at h
    cases hrow : registrationOfRow row with
    | error e => simp [hrow, bind, Except.bind] at h
    | ok x =>
      cases hrows : rows.mapM registrationOfRow with
      | error e => simp [hrow, hrows, bind, Except.bind] at h
      | ok xs =>
        obtain rfl : x :: xs = rs := by simpa [hrow, hrows, bind, Except.bind, pure, Except.pure] using h
        rcases List.mem_cons.mp hr with rfl | hr
        · exact ⟨row, List.mem_cons_self, hrow⟩
        · obtain ⟨row', hmem, hrow'⟩ := ih hrows hr
          exact ⟨row', List.mem_cons_of_mem _ hmem, hrow'⟩

theorem Answered.Gave.of_mapM {s : Statement} {response : Response} {rs : List Registration} {r : Registration}
    (h : response.rows.mapM registrationOfRow = .ok rs) (hr : r ∈ rs) : Gave ⟨s, .ok response⟩ r := by
  obtain ⟨row, hmem, hrow⟩ := mem_of_mapM h hr
  exact ⟨response, row, rfl, hmem, hrow⟩

theorem Answered.Gave.of_head? {s : Statement} {response : Response} {r : Registration}
    (h : response.rows.head?.mapM registrationOfRow = .ok (some r)) : Gave ⟨s, .ok response⟩ r := by
  cases hrows : response.rows with
  | nil => simp [hrows, pure, Except.pure] at h
  | cons row more =>
    cases hrow : registrationOfRow row with
    | error e => simp [hrows, hrow, Functor.map, Except.map] at h
    | ok x =>
      obtain rfl : x = r := by simpa [hrows, hrow, Functor.map, Except.map] using h
      exact ⟨response, row, rfl, by simp [hrows], hrow⟩

/-- No transaction was just begun, and nothing was committed by a command that runs in one. -/
structure Stopped (c : Command) (log : List Answered) : Prop where
  locked : opened log ≠ some []
  uncommitted : c.Single → Uncommitted log

/-- No transaction is open, and nothing was committed by a command that runs in one. -/
structure Outside (c : Command) (log : List Answered) : Prop where
  closed : opened log = none
  uncommitted : c.Single → Uncommitted log

/-- A transaction was just begun. -/
structure Begun (c : Command) (log : List Answered) : Prop where
  opened : opened log = some []
  uncommitted : c.Single → Uncommitted log

/-- All went well in the open transaction. It read registrations, wrote some, and announced events. -/
structure Working (c : Command) (log : List Answered) (read : List Registration) (written : List Tracked)
    (told : List RegistrationEvent) : Prop where
  progress : ∃ body, opened log = some body ∧ body ≠ [] ∧ Progress body written told ∧
    ∀ r ∈ read, ∃ x ∈ body, x.Gave r
  uncommitted : c.Single → Uncommitted log

theorem Concerns.allows_lock {event : EventId} (h : Concerns c log event) : Allowed c log (.lock event) where
  begins := nofun
  locks _ := ⟨event, h, rfl⟩
  inside hw := by simp [(Statement.Lookup.lock event).writes] at hw
  commits := nofun

namespace Begun

theorem refused (h : Begun c log) (refusal : Refusal) : Stopped c (log ++ [⟨.query text params, .error refusal⟩]) where
  locked := by simp [opened_concat, h.opened, Answered.after]
  uncommitted hs := (h.uncommitted hs).concat nofun

theorem locked (h : Begun c log) (event : EventId) (response : Response) :
    Working c (log ++ [⟨.lock event, .ok response⟩]) [] [] [] := by
  obtain ⟨hw, ha⟩ := (Statement.Lookup.lock event).plain
  refine ⟨⟨[⟨.lock event, .ok response⟩], ?_, by simp, ⟨?_, ?_, by simp, ?_⟩, by simp⟩, fun hs => ?_⟩
  · simp [opened_concat, h.opened, Answered.after, Statement.lock]
  · intro x hx
    obtain rfl := List.mem_singleton.mp hx
    exact ⟨response, rfl, .lock event response⟩
  · simp [hw]
  · simp [ha]
  · exact (h.uncommitted hs).concat nofun

end Begun

theorem Outside.stopped (h : Outside c log) : Stopped c log := ⟨by simp [h.closed], h.uncommitted⟩

theorem Outside.allows_begin (h : Outside c log) : Allowed c log .begin where
  begins _ := h.closed
  locks hb := by simp [h.closed] at hb
  inside := nofun
  commits := nofun

theorem Outside.begun (h : Outside c log) (response : Response) : Begun c (log ++ [⟨.begin, .ok response⟩]) where
  opened := by simp [opened_concat, Answered.after]
  uncommitted hs := (h.uncommitted hs).concat nofun

theorem Outside.not_begun (h : Outside c log) (refusal : Refusal) :
    Outside c (log ++ [⟨.begin, .error refusal⟩]) where
  closed := by simp [opened_concat, Answered.after]
  uncommitted hs := (h.uncommitted hs).concat nofun

/-- Outside a transaction a command may look something up. -/
theorem Outside.allows (h : Outside c log) (hs : (Statement.query text params).Lookup) :
    Allowed c log (.query text params) where
  begins := nofun
  locks hb := by simp [h.closed] at hb
  inside hw := by simp [hs.writes] at hw
  commits := nofun

theorem Outside.query (h : Outside c log) (reply : Except Refusal Response) :
    Outside c (log ++ [⟨.query text params, reply⟩]) where
  closed := by simp [opened_concat, h.closed, Answered.after]
  uncommitted hs := (h.uncommitted hs).concat nofun

namespace Stopped

theorem query (h : Stopped c log) (reply : Except Refusal Response) :
    Stopped c (log ++ [⟨.query text params, reply⟩]) where
  locked := by cases hlog : opened log <;> simp [opened_concat, hlog, Answered.after]
  uncommitted hs := (h.uncommitted hs).concat nofun

theorem allows_rollback (h : Stopped c log) : Allowed c log .rollback where
  begins := nofun
  locks hb := absurd hb h.locked
  inside := nofun
  commits := nofun

theorem rollback (h : Stopped c log) (reply : Except Refusal Response) : Outside c (log ++ [⟨.rollback, reply⟩]) where
  closed := by simp [opened_concat, Answered.after]
  uncommitted hs := (h.uncommitted hs).concat nofun

end Stopped

namespace Working
variable {read : List Registration} {written : List Tracked} {told : List RegistrationEvent}

theorem stopped (h : Working c log read written told) : Stopped c log := by
  obtain ⟨body, hbody, hne, -, -⟩ := h.progress
  exact ⟨by simp [hbody, hne], h.uncommitted⟩

/-- Once everything written is announced the transaction may be committed. -/
theorem allows_commit (h : Working c log read written (announced written)) : Allowed c log .commit := by
  obtain ⟨body, hbody, hne, hp, -⟩ := h.progress
  refine ⟨nofun, fun hb => ?_, nofun, fun _ => ⟨body, written, hbody, hp⟩⟩
  rw [hbody] at hb
  exact absurd (Option.some.inj hb) hne

theorem not_committed (h : Working c log read written told) (refusal : Refusal) :
    Outside c (log ++ [⟨.commit, .error refusal⟩]) where
  closed := by simp [opened_concat, Answered.after]
  uncommitted hs := (h.uncommitted hs).concat fun _ => ⟨refusal, rfl⟩

/-- In a transaction that has its lock any query may be sent. -/
theorem allows (h : Working c log read written told) : Allowed c log (.query text params) := by
  obtain ⟨body, hbody, hne, -, -⟩ := h.progress
  refine ⟨nofun, fun hb => ?_, fun _ => by simp [hbody], nofun⟩
  rw [hbody] at hb
  exact absurd (Option.some.inj hb) hne

private theorem query (h : Working c log read written told) {response : Response}
    (hu : Understood (.query text params) response) (given : List Registration)
    (hg : ∀ r ∈ given, Answered.Gave ⟨.query text params, .ok response⟩ r) (ts : List Tracked)
    (hw : List.Forall₂ (fun (x : Answered) t => x.statement.Writes t.registration)
      ([⟨.query text params, .ok response⟩].filter fun x => x.statement.writesRegistration) ts)
    (hr : ∀ t ∈ ts, t.Recorded (· ∈ read)) (es : List RegistrationEvent)
    (ha : List.Forall₂ (fun (x : Answered) e => x.statement.Announces e)
      ([⟨.query text params, .ok response⟩].filter fun x => x.statement.writesMessage) es) :
    Working c (log ++ [⟨.query text params, .ok response⟩]) (read ++ given) (written ++ ts) (told ++ es) := by
  obtain ⟨body, hbody, hne, hp, hread⟩ := h.progress
  have hold {r : Registration} (hgave : ∃ x ∈ body, x.Gave r) :
      ∃ x ∈ body ++ [⟨.query text params, .ok response⟩], x.Gave r := by
    obtain ⟨x, hx, hxr⟩ := hgave
    exact ⟨x, List.mem_append_left _ hx, hxr⟩
  refine ⟨⟨body ++ [⟨.query text params, .ok response⟩], ?_, by simp, ⟨?_, ?_, ?_, ?_⟩, ?_⟩, fun hs => ?_⟩
  · simp [opened_concat, hbody, Answered.after]
  · intro x hx
    rcases List.mem_append.mp hx with hx | hx
    · exact hp.went x hx
    · obtain rfl := List.mem_singleton.mp hx
      exact ⟨response, rfl, hu⟩
  · rw [List.filter_append]
    exact List.rel_append hp.writes hw
  · intro t ht
    rcases List.mem_append.mp ht with ht | ht
    · exact (hp.recorded t ht).imp fun r hgave => hold hgave
    · exact (hr t ht).imp fun r hin => hold (hread r hin)
  · rw [List.filter_append]
    exact List.rel_append hp.announces ha
  · intro r hin
    rcases List.mem_append.mp hin with hin | hin
    · exact hold (hread r hin)
    · exact ⟨_, List.mem_append_right _ (List.mem_singleton_self _), hg r hin⟩
  · exact (h.uncommitted hs).concat nofun

/-- A query that writes no registration and announces nothing. -/
theorem passes (h : Working c log read written told) {response : Response}
    (hu : Understood (.query text params) response)
    (hs : (Statement.query text params).writesRegistration = false ∧
      (Statement.query text params).writesMessage = false) :
    Working c (log ++ [⟨.query text params, .ok response⟩]) read written told := by
  have hnext := h.query hu [] (by simp) [] (by simp [hs.1]) (by simp) [] (by simp [hs.2])
  simpa using hnext

/-- A query that reads registrations. -/
theorem selects (h : Working c log read written told) {response : Response}
    (hu : Understood (.query text params) response) {given : List Registration}
    (hg : ∀ r ∈ given, Answered.Gave ⟨.query text params, .ok response⟩ r)
    (hs : (Statement.query text params).Lookup) :
    Working c (log ++ [⟨.query text params, .ok response⟩]) (read ++ given) written told := by
  have hnext := h.query hu given hg [] (by simp [hs.plain.1]) (by simp) [] (by simp [hs.plain.2])
  simpa using hnext

theorem writes (h : Working c log read written told) {response : Response}
    (hu : Understood (.query text params) response) {t : Tracked}
    (hw : (Statement.query text params).Writes t.registration) (hr : t.Recorded (· ∈ read))
    (hs : (Statement.query text params).writesRegistration = true ∧
      (Statement.query text params).writesMessage = false) :
    Working c (log ++ [⟨.query text params, .ok response⟩]) read (written ++ [t]) told := by
  have hnext := h.query hu [] (by simp) [t] (by simp [hs.1, hw]) (by simpa using hr) [] (by simp [hs.2])
  simpa using hnext

theorem announces (h : Working c log read written told) {response : Response}
    (hu : Understood (.query text params) response) {e : RegistrationEvent}
    (ha : (Statement.query text params).Announces e)
    (hs : (Statement.query text params).writesRegistration = false ∧
      (Statement.query text params).writesMessage = true) :
    Working c (log ++ [⟨.query text params, .ok response⟩]) read written (told ++ [e]) := by
  have hnext := h.query hu [] (by simp) [] (by simp [hs.1]) (by simp) [e] (by simp [hs.2, ha])
  simpa using hnext

end Working

end Sql
end Turnstile
