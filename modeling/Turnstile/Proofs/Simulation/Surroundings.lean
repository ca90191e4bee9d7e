import Turnstile.Proofs.Notification
import Turnstile.Proofs.Queue
import Turnstile.Proofs.Service.Recorded
import Turnstile.Proofs.Service.Run
import Turnstile.Simulation.Handling

/-!
A simulated world without faults as the surroundings of the service: what it answers to the allocator, to the
dispatcher and to whoever handles queued events.
-/

namespace Turnstile
open scoped List

/-- Whether the registrant is told before the command returns. -/
def RegistrationEvent.isUrgent : RegistrationEvent → Bool
  | cancelled .. => true
  | _ => false

namespace Simulation.World
variable {w w' w'' : World} {α : Type} {m n : Nat}

/-- The notifier takes all events, and nothing is made to fail. -/
structure Wired (w : World) : Prop where
  dispatcher : w.dispatcher = defaultDispatcher
  faults : w.faults = []
  requests : w.failingDequeues = 0

/-- `w'` is `w` but for the queue, the notices, the clock and the like, after `n` identifiers were drawn. -/
structure Leads (w w' : World) (n : Nat) : Prop where
  dispatcher : w'.dispatcher = w.dispatcher
  faults : w'.faults = w.faults
  requests : w'.failingDequeues = w.failingDequeues
  store : w'.session.store = w.session.store
  tx : w'.session.tx = w.session.tx
  ids : w'.session.ids = w.session.ids.skip n

theorem Leads.refl (w : World) : w.Leads w 0 := ⟨rfl, rfl, rfl, rfl, rfl, rfl⟩

theorem Leads.trans (h : w.Leads w' m) (h' : w'.Leads w'' n) : w.Leads w'' (m + n) where
  dispatcher := h'.dispatcher.trans h.dispatcher
  faults := h'.faults.trans h.faults
  requests := h'.requests.trans h.requests
  store := h'.store.trans h.store
  tx := h'.tx.trans h.tx
  ids := by rw [h'.ids, h.ids, Supply.skip_skip]

theorem Leads.wired (h : w.Leads w' n) (hw : w.Wired) : w'.Wired :=
  ⟨h.dispatcher.trans hw.dispatcher, h.faults.trans hw.faults, h.requests.trans hw.requests⟩

theorem Leads.consistent (h : w.Leads w' n) (hc : w.session.Consistent) : w'.session.Consistent where
  idle := ⟨h.tx.trans hc.idle.tx, (congrArg Store.locked h.store).trans hc.idle.locked⟩
  lawful := h.store ▸ hc.lawful
  drawn := by
    intro id hid
    rw [h.store] at hid
    obtain ⟨k, hk, rfl⟩ := hc.drawn id hid
    rw [h.ids]
    exact ⟨k, Nat.lt_add_right n hk, rfl⟩

theorem leads_access (w : World) (k : Nat) : w.Leads (w.access k) 0 := ⟨rfl, rfl, rfl, rfl, rfl, rfl⟩

theorem leads_count (w : World) (c : Counter) (k : Nat) : w.Leads (w.count c k) 0 := ⟨rfl, rfl, rfl, rfl, rfl, rfl⟩

/-- The events that a change of the stored registrations calls for. -/
def changes (w w' : World) : List RegistrationEvent := w.session.changes w'.session

theorem Leads.changes (h : w.Leads w' n) : w.changes w' = [] := by
  rw [World.changes, Session.changes, h.store]
  exact RegistrationEvent.changes_self _

section
variable (hf : w.faults = [])
include hf

private theorem answerAllocator_eq (c : AllocatorCall) :
    ∃ spent, w.answerAllocator c =
      ((Session.answer c w.session).1, { w with session := (Session.answer c w.session).2, spent }) := by
  have hstrike : w.strike (StoreCall.ofAllocator? c) = (none, w) := by
    cases StoreCall.ofAllocator? c with
    | none => rfl
    | some call =>
      have hsame : { w with faults := [] } = w := by rw [← hf]
      simp only [strike, hf, Fault.strike, Option.map_none, hsame]
  rw [answerAllocator, hstrike]
  simp only [Option.bind_none]
  split <;> exact ⟨_, rfl⟩

/-- The allocator finds its session, whatever else there is. -/
theorem run_allocator (p : Program AllocatorCall.Reply α) (log : List RegistrationEvent) :
    ∃ spent, p.run (Program.watch answerAllocator changes) (w, log) =
      ((p.run (Program.watch Session.answer Session.changes) (w.session, log)).1,
        { w with session := (p.run (Program.watch Session.answer Session.changes) (w.session, log)).2.1, spent },
        (p.run (Program.watch Session.answer Session.changes) (w.session, log)).2.2) := by
  have hanswer (c : AllocatorCall) (u : World) (s : Session) (h : ∃ spent, u = { w with session := s, spent }) :
      (u.answerAllocator c).1 = (Session.answer c s).1 ∧
        ∃ spent, (u.answerAllocator c).2 = { w with session := (Session.answer c s).2, spent } := by
    obtain ⟨spent, rfl⟩ := h
    obtain ⟨spent', heq⟩ := answerAllocator_eq (w := { w with session := s, spent }) hf c
    rw [heq]
    exact ⟨rfl, spent', rfl⟩
  have hnote (u u' : World) (s s' : Session) (h : ∃ spent, u = { w with session := s, spent })
      (h' : ∃ spent, u' = { w with session := s', spent }) : u.changes u' = s.changes s' := by
    obtain ⟨spent, rfl⟩ := h
    obtain ⟨spent', rfl⟩ := h'
    rfl
  obtain ⟨hreply, ⟨spent, hworld⟩, hlog⟩ :=
    Program.run_watch_related (fun c u s h => hanswer c u s h) hnote p (s := w) ⟨w.spent, rfl⟩ log
  exact ⟨spent, Prod.ext hreply (Prod.ext hworld hlog)⟩

end

/-! What the dispatcher is told, while the log of the stored registrations goes on. -/

section
variable {e : RegistrationEvent} {log : List RegistrationEvent}

private def dispatching (c : DispatchCall HandlerRef) (s : World × List RegistrationEvent) :
    Option c.Reply × World × List RegistrationEvent :=
  Program.watch answerService changes (.dispatch c) s

private theorem dispatching_eq {c : DispatchCall HandlerRef} {r : Option c.Reply} (h : w.answerDispatch c = (r, w'))
    (hl : w.Leads w' n) : dispatching c (w, log) = (r, w', log) := by
  have hwatch : dispatching c (w, log) =
      ((w.answerDispatch c).1, (w.answerDispatch c).2, log ++ changes w (w.answerDispatch c).2) := rfl
  rw [hwatch, h, hl.changes, List.append_nil]

private theorem run_ask {c : DispatchCall HandlerRef} {r : c.Reply} (h : w.answerDispatch c = (some r, w'))
    (hl : w.Leads w' n) (f : c.Reply → Dispatch HandlerRef α) :
    (Dispatcher.ask c >>= f).run dispatching (w, log) = (f r).run dispatching (w', log) :=
  Program.run_call_bind (dispatching_eq h hl) f

private theorem inline_get? (e : RegistrationEvent) :
    defaultDispatcher.inline.get? e.typeName = if e.isUrgent then some .notifier else none := by
  cases e <;> rfl

private theorem queued_get? (e : RegistrationEvent) :
    defaultDispatcher.queued.get? e.typeName = if e.isUrgent then none else some .notifier := by
  cases e <;> rfl

/-- The world once the notifier was handed an event. -/
def noticed (w : World) (n : Notification) : World :=
  { w with notifications := w.notifications.record n }.access 1

theorem leads_noticed (w : World) (n : Notification) : w.Leads (w.noticed n) 0 := ⟨rfl, rfl, rfl, rfl, rfl, rfl⟩

theorem handle_queued (w : World) (e : RegistrationEvent) (id : MessageId) :
    w.handle .notifier (e.queued id) = (some (.ok ()), w.noticed (e.notice id)) := by
  simp [handle, notify, NotificationLog.handle_queued, noticed]

/-- An event was handed on: its notice was given, or it waits in the queue. -/
structure HandedOn (w : World) (e : RegistrationEvent) (w' : World) : Prop where
  leads : w.Leads w' 1
  whither :
    w'.notifications = w.notifications.record (e.notice ⟨w.session.ids.next⟩) ∧ w'.queue.events = w.queue.events ∨
      e.isUrgent = false ∧ w'.notifications = w.notifications ∧
        w'.queue.events = w.queue.events ++ [e.queued ⟨w.session.ids.next⟩]

private theorem run_handled (route : Route) (e : RegistrationEvent) (id : MessageId) (w : World)
    (log : List RegistrationEvent) :
    (Dispatcher.ask (.handle .notifier (e.queued id)) >>= fun r => pure (Dispatched.handled route r)).run dispatching
        (w, log) =
      (some ⟨some route, none⟩, w.noticed (e.notice id), log) := by
  rw [run_ask (c := .handle .notifier (e.queued id)) (handle_queued w e id) (leads_noticed w _)]
  rfl

/-- No event is dropped and no handler fails. -/
theorem run_dispatchEvent (e : RegistrationEvent) (w : World) (log : List RegistrationEvent) :
    ∃ route w', (defaultDispatcher.dispatchEvent e.record).run dispatching (w, log) =
      (some ⟨some route, none⟩, w', log) ∧ route ≠ .dropped ∧ w.HandedOn e w' := by
  let drawn : World := { w with session := w.session.drawing 1 }
  have hdrawn : w.Leads drawn 1 := ⟨rfl, rfl, rfl, rfl, rfl, rfl⟩
  rw [Dispatcher.dispatchEvent, run_ask (c := .freshId) rfl hdrawn]
  change ∃ route w', (defaultDispatcher.route (e.queued ⟨w.session.ids.next⟩)).run dispatching (drawn, log) = _ ∧ _
  rw [Dispatcher.route, show (e.queued ⟨w.session.ids.next⟩).type = e.typeName from rfl, inline_get?]
  cases hu : e.isUrgent with
  | true =>
    have hcount := leads_count drawn (.dispatched .inline) 1
    simp only [if_true]
    rw [run_ask (c := .count (.dispatched .inline)) rfl hcount, run_handled]
    refine ⟨_, _, rfl, by decide, (hdrawn.trans hcount).trans (leads_noticed _ _), .inl ⟨rfl, rfl⟩⟩
  | false =>
    simp only [Bool.false_eq_true, if_false]
    cases hd : w.queue.disabled with
    | true =>
      have henqueue : drawn.answerDispatch (.enqueue (e.queued ⟨w.session.ids.next⟩)) =
          (some (.error (.transient "in-memory queue unavailable")), drawn) := by
        simp [answerDispatch, enqueue, Queue.enqueue, hd, drawn, access]
      have hcount := leads_count drawn .enqueueFallbacks 1
      have hcount' := leads_count (drawn.count .enqueueFallbacks 1) (.dispatched .fallback) 1
      rw [run_ask henqueue (.refl _)]
      simp only
      rw [run_ask (c := .count .enqueueFallbacks) rfl hcount, queued_get?]
      simp only [hu, Bool.false_eq_true, if_false]
      rw [run_ask (c := .count (.dispatched .fallback)) rfl hcount', run_handled]
      exact ⟨_, _, rfl, by decide, ((hdrawn.trans hcount).trans hcount').trans (leads_noticed _ _), .inl ⟨rfl, rfl⟩⟩
    | false =>
      let queue := (w.queue.push (e.queued ⟨w.session.ids.next⟩)).ring
      have henqueue : drawn.answerDispatch (.enqueue (e.queued ⟨w.session.ids.next⟩)) =
          (some (.ok ()), { drawn with queue }.access 1) := by
        simp [answerDispatch, enqueue, Queue.enqueue, hd, drawn, queue]
      have hqueued : drawn.Leads ({ drawn with queue }.access 1) 0 := ⟨rfl, rfl, rfl, rfl, rfl, rfl⟩
      have hcount := leads_count ({ drawn with queue }.access 1) (.dispatched .queued) 1
      rw [run_ask henqueue hqueued]
      simp only
      rw [run_ask (c := .count (.dispatched .queued)) rfl hcount]
      exact ⟨_, _, rfl, by decide, (hdrawn.trans hqueued).trans hcount, .inr ⟨hu, rfl, rfl⟩⟩

/-- Events were handed on one after the other. -/
def AllHandedOn (w : World) : List RegistrationEvent → World → Prop
  | [], w' => w' = w
  | e :: events, w' => ∃ w₁, w.HandedOn e w₁ ∧ w₁.AllHandedOn events w'

theorem AllHandedOn.leads {events : List RegistrationEvent} (h : w.AllHandedOn events w') :
    w.Leads w' events.length := by
  induction events generalizing w with
  | nil => exact h ▸ .refl w
  | cons e events ih =>
    obtain ⟨w₁, hfirst, hrest⟩ := h
    rw [List.length_cons, Nat.add_comm]
    exact hfirst.leads.trans (ih hrest)

private theorem run_dispatchEvents (events : List RegistrationEvent) (w : World) (log : List RegistrationEvent) :
    ∃ results w', ((events.map RegistrationEvent.record).mapM defaultDispatcher.dispatchEvent).run dispatching (w, log) =
        (some results, w', log) ∧ (∀ r ∈ results, r.error = none) ∧ w.AllHandedOn events w' := by
  induction events generalizing w with
  | nil => exact ⟨[], w, rfl, by simp, rfl⟩
  | cons e events ih =>
    obtain ⟨route, w₁, hfirst, -, hon⟩ := run_dispatchEvent e w log
    obtain ⟨results, w', hrest, hok, hons⟩ := ih w₁
    refine ⟨⟨some route, none⟩ :: results, w', ?_, by simpa using hok, w₁, hon, hons⟩
    rw [List.map_cons, List.mapM_cons]
    refine (Program.run_bind dispatching _ _ _).trans ?_
    rw [hfirst]
    refine (Program.run_bind dispatching _ _ _).trans ?_
    rw [hrest]
    rfl

/-- Every pending event is handed on, and no failure is reported. -/
private theorem run_dispatched (sources : List Tracked) (w : World) (log : List RegistrationEvent) :
    ∃ w', (Service.dispatched (defaultDispatcher.dispatch sources)).run.run (Program.watch answerService changes) (w, log) =
        (some (.ok (sources.map EventSource.clear)), w', log) ∧ w.AllHandedOn (sources.flatMap Tracked.pending) w' := by
  obtain ⟨results, w', hrun, hok, hons⟩ := run_dispatchEvents (sources.flatMap Tracked.pending) w log
  have hreport : ∃ report, Dispatched.report results = .ok report := by
    rw [Dispatched.report, List.findSome?_eq_none_iff.mpr hok]
    exact ⟨_, rfl⟩
  obtain ⟨report, hreport⟩ := hreport
  have hdispatch : (defaultDispatcher.dispatch sources).run dispatching (w, log) =
      (some (sources.map EventSource.clear, .ok report), w', log) := by
    rw [Service.dispatch_eq]
    refine (Program.run_bind dispatching _ _ _).trans ?_
    rw [hrun, ← hreport]
    rfl
  refine ⟨w', ?_, hons⟩
  rw [Service.run_dispatched, show (fun c => Program.watch answerService changes (.dispatch c)) = dispatching from rfl,
    hdispatch]
  rfl

end

/-- What a command of the service does while all is well: it changes the session as the allocator does, with the
events that are recorded then, and hands these on. -/
theorem run_command {log : List RegistrationEvent} (hw : w.Wired) (hc : w.session.Consistent) (c : Command)
    (hd : ((Service.command defaultDispatcher c).run.run
      (Program.watch answerService changes) (w, log)).2.1.session.ids.Distinct) :
    ∃ reply w₁ events w' recorded,
      (Service.command defaultDispatcher c).run.run (Program.watch answerService changes) (w, log) =
        (some reply, w', log ++ recorded) ∧ (∀ cause, reply ≠ .error (.dispatch cause)) ∧
      (∃ spent, w₁ = { w with session := ((Allocate.command c).on w.session).2, spent }) ∧ w₁.session.Consistent ∧
      events ~ recorded ∧ w₁.AllHandedOn events w' := by
  have hwatch : (fun c => Program.watch answerService changes (.allocate c)) = Program.watch answerAllocator changes := rfl
  obtain ⟨spent, hrun⟩ := run_allocator hw.faults (Allocate.command c).run log
  have hsession := (Program.run_watch Session.answer Session.changes (Allocate.command c).run w.session log).2
  rw [Service.run_command, hwatch, hrun] at hd ⊢
  have hids : ((Allocate.command c).on w.session).2.ids.Distinct := by
    rw [Allocate.on, ← hsession]
    generalize (Allocate.command c).run.run (Program.watch Session.answer Session.changes) (w.session, log) = r at hd ⊢
    obtain ⟨_ | e | a, s₁, log₁⟩ := r
    · exact hd
    · exact hd
    · dsimp only at hd ⊢
      split at hd
      · exact hd
      · obtain ⟨w', hdispatch, hons⟩ := run_dispatched a.changed { w with session := s₁, spent } log₁
        rw [hdispatch, hons.leads.ids] at hd
        exact hd.of_skip
  obtain ⟨reply, recorded, hcommand, hcons, hreply⟩ := hc.run_command c hids log
  rw [hcommand]
  let w₁ : World := { w with session := ((Allocate.command c).on w.session).2, spent }
  rcases reply with e | a
  · exact ⟨.error (.allocation e), w₁, [], w₁, recorded, rfl, by simp, ⟨spent, rfl⟩, hcons, hreply ▸ .refl _, rfl⟩
  · have htold : recorded ~ a.events := hreply
    dsimp only
    by_cases hnoop : a.isNoop = true
    · rw [if_pos hnoop]
      rw [Allocation.events_of_noop hnoop] at htold
      exact ⟨.ok a.changed, w₁, [], w₁, recorded, rfl, by simp, ⟨spent, rfl⟩, hcons, htold.symm, rfl⟩
    · rw [if_neg hnoop]
      obtain ⟨w', hdispatch, hons⟩ := run_dispatched a.changed w₁ (log ++ recorded)
      exact ⟨.ok (a.changed.map EventSource.clear), w₁, _, w', recorded, hdispatch, by simp, ⟨spent, rfl⟩, hcons,
        htold.symm, hons⟩

/-! What whoever handles queued events is told. -/

private theorem dequeue_nothing (hw : w.Wired) :
    w.dequeue .nothing =
      match Stage.starting.advanceBy 0 false 8 w.queue with
      | (.finished e, queue) => (.ok (e, 0), { w.access 1 with queue })
      | (stage, queue) =>
        (.ok (none, w.pollTimeout.ticks), ((w.access 1).giveUp stage queue w.pollTimeout.ticks).2) := by
  unfold dequeue
  rw [if_neg (not_not.mpr hw.requests)]
  rfl

private theorem giveUp_keeps (w : World) (stage : Stage) (queue : Queue) (ticks : Nat) :
    w.Leads (w.giveUp stage queue ticks).2 0 ∧ (w.giveUp stage queue ticks).2.notifications = w.notifications ∧
      (w.giveUp stage queue ticks).2.queue.events = queue.events := by
  have hevents := Stage.giveUp_events 0 queue stage
  unfold giveUp pass
  dsimp only
  split
  · exact ⟨⟨rfl, rfl, rfl, rfl, rfl, rfl⟩, rfl, hevents⟩
  · exact ⟨⟨rfl, rfl, rfl, rfl, rfl, rfl⟩, rfl, hevents⟩

/-- The oldest event is taken, if there is one. -/
theorem dequeue_wired (hw : w.Wired) :
    ∃ ms w', w.dequeue .nothing = (.ok (w.queue.events.head?, ms), w') ∧ w.Leads w' 0 ∧
      w'.notifications = w.notifications ∧ w'.queue.events = w.queue.events.tail := by
  cases h : w.queue.events with
  | nil =>
    obtain ⟨stage, bell, hstay, hstage⟩ := @Stage.advanceBy_empty w.queue 0 h .starting (by simp) false 8
    rw [dequeue_nothing hw, hstay]
    split
    · next e queue heq =>
      obtain ⟨rfl, rfl⟩ := Prod.mk.inj heq
      cases e with
      | none => exact ⟨_, _, rfl, ⟨rfl, rfl, rfl, rfl, rfl, rfl⟩, rfl, h⟩
      | some e => exact absurd rfl (hstage e)
    · next stage' queue _ heq =>
      obtain ⟨rfl, rfl⟩ := Prod.mk.inj heq
      obtain ⟨hleads, hnotes, hevents⟩ := giveUp_keeps (w.access 1) stage { w.queue with bell } w.pollTimeout.ticks
      exact ⟨_, _, rfl, (leads_access w 1).trans hleads, hnotes, hevents.trans h⟩
  | cons e rest =>
    obtain ⟨bell, htake⟩ := @Stage.advanceBy_taking w.queue 0 e rest h 5
    rw [dequeue_nothing hw, htake]
    exact ⟨_, _, rfl, ⟨rfl, rfl, rfl, rfl, rfl, rfl⟩, rfl, rfl⟩

theorem process_queued (hw : w.Wired) {e : RegistrationEvent} (he : e.isUrgent = false) (id : MessageId) :
    ∃ ms w', w.process (e.queued id) = (some (.handled 1, ms), w') ∧ w.Leads w' 0 ∧
      w'.notifications = w.notifications.record (e.notice id) ∧ w'.queue = w.queue := by
  have hget : w.dispatcher.queued.get? (e.queued id).type = some .notifier := by
    rw [hw.dispatcher, show (e.queued id).type = e.typeName from rfl, queued_get?, he]
    rfl
  have hhandle : answerHandling (.handle .notifier (e.queued id)) w = (some (.ok ()), w.noticed (e.notice id)) :=
    handle_queued w e id
  have hattempt (f : Outcome → Handling HandlerRef Outcome) :
      (Handling.attempts w.background.retry .notifier (e.queued id) 1 >>= f).run answerHandling w =
        (f (.handled 1)).run answerHandling (w.noticed (e.notice id)) := by
    refine (Program.run_bind answerHandling _ _ _).trans ?_
    have hdone : (Handling.attempts w.background.retry .notifier (e.queued id) 1).run answerHandling w =
        (some (.handled 1), w.noticed (e.notice id)) := by
      rw [Handling.attempts]
      refine (Program.run_call_bind hhandle _).trans ?_
      rfl
    rw [hdone]
  have hdurations := leads_count (w.noticed (e.notice id)) .handlerDurations 1
  have hprocessed := leads_count ((w.noticed (e.notice id)).count .handlerDurations 1) (.processed .handled) 1
  rw [process, Handling.handle, hget]
  simp only
  rw [hattempt]
  refine ⟨_, _, rfl, ?_, rfl, rfl⟩
  exact ((leads_noticed w (e.notice id)).trans hdurations).trans hprocessed

end Simulation.World
end Turnstile
