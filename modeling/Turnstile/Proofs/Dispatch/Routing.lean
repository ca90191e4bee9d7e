import Turnstile.Proofs.Service.Contract
import Turnstile.Queue

/-!
Every recorded event is routed once, in order, whatever the queue and the handlers answer. The report counts the
ways that were taken, unless a handler failed, and a queue that nobody else adds to has the events in this order.
-/

namespace Turnstile

namespace Contact
variable {η : Type}

/-- A question of the dispatcher with its answer, if it is about an event. -/
def ofAnswer? : ((c : DispatchCall η) × c.Reply) → Option (Contact η)
  | ⟨.enqueue e, reply⟩ => some (.enqueued e reply)
  | ⟨.handle h e, reply⟩ => some (.handled h e reply)
  | ⟨.freshId, _⟩ | ⟨.count _, _⟩ => none

def failure? : Contact η → Option HandlerError
  | .handled _ _ (.error cause) => some cause
  | _ => none

/-- The event that the queue took. -/
def taken? : Contact η → Option QueuedEvent
  | .enqueued e (.ok ()) => some e
  | _ => none

/-- The way of an event, as what the dispatcher turned to with it shows. -/
def route : List (Contact η) → Route
  | .handled .. :: _ => .inline
  | [.enqueued _ (.ok ())] => .queued
  | [.enqueued _ (.error _)] => .dropped
  | _ => .fallback

end Contact

namespace DispatchReport

/-- How many events went which way. -/
def ofRoutes (routes : List Route) : DispatchReport where
  inline := routes.count .inline
  queued := routes.count .queued
  fallback := routes.count .fallback
  dropped := routes.count .dropped

theorem foldl_add (routes : List Route) (r : DispatchReport) :
    routes.foldl add r = {
      inline := r.inline + (ofRoutes routes).inline
      queued := r.queued + (ofRoutes routes).queued
      fallback := r.fallback + (ofRoutes routes).fallback
      dropped := r.dropped + (ofRoutes routes).dropped } := by
  induction routes generalizing r with
  | nil => rfl
  | cons route routes ih =>
    rw [List.foldl_cons, ih]
    cases route <;> simp [add, ofRoutes, Nat.add_comm, Nat.add_left_comm]

def total (r : DispatchReport) : Nat := r.inline + r.queued + r.fallback + r.dropped

/-- Every way is counted. -/
theorem total_ofRoutes (routes : List Route) : (ofRoutes routes).total = routes.length := by
  induction routes with
  | nil => rfl
  | cons route routes ih =>
    simp only [total, ofRoutes] at ih ⊢
    cases route <;> simp <;> omega

end DispatchReport

namespace Dispatcher
variable {η α β σ : Type} (answer : (c : DispatchCall η) → σ → c.Reply × σ)

/-- What a run turns to with events, in order. -/
def contacts (p : Dispatch η α) (s : σ) : List (Contact η) := (p.transcript answer s).filterMap Contact.ofAnswer?

theorem contacts_bind (p : Dispatch η α) (f : α → Dispatch η β) (s : σ) :
    contacts answer (p >>= f) s =
      contacts answer p s ++ contacts answer (f (p.exec answer s).1) (p.exec answer s).2 := by
  refine (congrArg (List.filterMap _) (Program.transcript_bind answer p f s)).trans ?_
  exact List.filterMap_append

theorem contacts_ask (c : DispatchCall η) (f : c.Reply → Dispatch η α) (s : σ) :
    contacts answer (ask c >>= f) s =
      (Contact.ofAnswer? ⟨c, (answer c s).1⟩).toList ++ contacts answer (f (answer c s).1) (answer c s).2 := by
  refine List.filterMap_cons.trans ?_
  cases Contact.ofAnswer? ⟨c, (answer c s).1⟩ <;> rfl

theorem exec_ask (c : DispatchCall η) (f : c.Reply → Dispatch η α) (s : σ) :
    (ask c >>= f).exec answer s = (f (answer c s).1).exec answer (answer c s).2 := rfl

/-- What becomes of an event, as what the dispatcher turned to with it shows. -/
def resultOf (block : List (Contact η)) : Dispatched :=
  ⟨some (Contact.route block), (block.findSome? Contact.failure?).map .handler⟩

theorem resultOf_inline (h : η) (e : QueuedEvent) (reply : Except HandlerError Unit) :
    Dispatched.handled .inline reply = resultOf [.handled h e reply] := by
  cases reply <;> rfl

theorem resultOf_fallback (h : η) (e : QueuedEvent) (cause : DispatchError) (reply : Except HandlerError Unit) :
    Dispatched.handled .fallback reply = resultOf [.enqueued e (.error cause), .handled h e reply] := by
  cases reply <;> rfl

/-- One event goes one way. -/
theorem exec_route (d : Dispatcher η) (e : QueuedEvent) (s : σ) :
    d.Routed e (contacts answer (d.route e) s) ∧
      ((d.route e).exec answer s).1 = resultOf (contacts answer (d.route e) s) := by
  unfold route
  cases hin : d.inline.get? e.type with
  | some h => exact ⟨.inline hin _, resultOf_inline h e _⟩
  | none =>
    simp only [contacts_ask answer (.enqueue e), exec_ask answer (.enqueue e)]
    rcases (answer (.enqueue e) s).1 with cause | ⟨⟩
    · cases hh : d.queued.get? e.type with
      | none => exact ⟨.dropped hin cause hh, rfl⟩
      | some h => exact ⟨.fallback hin cause hh _, resultOf_fallback h e cause _⟩
    · exact ⟨.queued hin, rfl⟩

/-- All events go their ways, one after the other. -/
theorem exec_dispatchEvents (d : Dispatcher η) (events : List RegistrationEvent) (s : σ) :
    let p := (events.map RegistrationEvent.record).mapM d.dispatchEvent
    ∃ blocks, List.Forall₂ (fun e block => ∃ id, d.Routed (e.queued id) block) events blocks ∧
      contacts answer p s = blocks.flatten ∧ (p.exec answer s).1 = blocks.map resultOf := by
  induction events generalizing s with
  | nil => exact ⟨[], .nil, rfl, rfl⟩
  | cons e events ih =>
    let id : MessageId := ⟨(answer .freshId s).1⟩
    have hfirst : contacts answer (d.dispatchEvent e.record) s =
        contacts answer (d.route (e.queued id)) (answer .freshId s).2 := rfl
    have hexec : (d.dispatchEvent e.record).exec answer s = (d.route (e.queued id)).exec answer (answer .freshId s).2 :=
      rfl
    obtain ⟨hrouted, hresult⟩ := exec_route answer d (e.queued id) (answer .freshId s).2
    obtain ⟨blocks, hblocks, hcontacts, hresults⟩ := ih ((d.dispatchEvent e.record).exec answer s).2
    rw [← hfirst] at hrouted hresult
    refine ⟨contacts answer (d.dispatchEvent e.record) s :: blocks, .cons ⟨id, hrouted⟩ hblocks, ?_, ?_⟩
    · rw [List.map_cons, List.mapM_cons, contacts_bind, contacts_bind, hcontacts, List.flatten_cons]
      exact congrArg (_ ++ ·) (List.append_nil _)
    · rw [List.map_cons, List.mapM_cons, List.map_cons, ← hresults, ← hresult, ← hexec]
      refine (congrArg Prod.fst (Program.exec_bind answer _ _ s)).trans ?_
      exact congrArg Prod.fst (Program.exec_bind answer _ _ _)

/-- The first failure of a handler, or how many events went which way. -/
theorem report_resultOf (blocks : List (List (Contact η))) :
    Dispatched.report (blocks.map resultOf) =
      match blocks.flatten.findSome? Contact.failure? with
      | some cause => .error (.handler cause)
      | none => .ok (.ofRoutes (blocks.map Contact.route)) := by
  -- the first failure of all blocks is the first of the first block that has one
  have herror : (blocks.map resultOf).findSome? Dispatched.error =
      (blocks.flatten.findSome? Contact.failure?).map .handler := by
    induction blocks with
    | nil => rfl
    | cons block blocks ih =>
      rw [List.map_cons, List.findSome?_cons, List.flatten_cons, List.findSome?_append, ih, resultOf]
      cases block.findSome? Contact.failure? <;> rfl
  have hroutes : (blocks.map resultOf).filterMap Dispatched.route = blocks.map Contact.route := by
    rw [List.filterMap_map]
    exact congrFun List.filterMap_eq_map' blocks
  rw [Dispatched.report, herror, hroutes, DispatchReport.foldl_add]
  cases blocks.flatten.findSome? Contact.failure? with
  | some cause => rfl
  | none => simp [DispatchReport.ofRoutes]

/-- The queue is in memory and nobody else adds to it. Others may take events out of it, those `removed`, and make it
refuse events. -/
structure SoleProducer (queue : σ → Queue) (removed : σ → List QueuedEvent) : Prop where
  enqueue : ∀ e s, ∃ q : Queue, removed (answer (.enqueue e) s).2 ++ q.events = removed s ++ (queue s).events ∧
    ((answer (.enqueue e) s).1, queue (answer (.enqueue e) s).2) = q.enqueue e
  other : ∀ c s, (∀ e, c ≠ .enqueue e) →
    removed (answer c s).2 ++ (queue (answer c s).2).events = removed s ++ (queue s).events

section
variable {answer} {queue : σ → Queue} {removed : σ → List QueuedEvent} (h : SoleProducer answer queue removed)
include h

theorem SoleProducer.step (c : DispatchCall η) (s : σ) :
    removed (answer c s).2 ++ (queue (answer c s).2).events =
      removed s ++ (queue s).events ++ ((Contact.ofAnswer? ⟨c, (answer c s).1⟩).bind Contact.taken?).toList := by
  cases c with
  | enqueue e =>
    obtain ⟨q, hq, hreply⟩ := h.enqueue e s
    obtain ⟨hfirst, hsecond⟩ := Prod.ext_iff.mp hreply
    rw [← hq, show queue _ = _ from hsecond]
    rw [show (answer (.enqueue e) s).1 = _ from hfirst]
    cases hd : q.disabled with
    | true => simp [Queue.enqueue, hd, Contact.ofAnswer?, Contact.taken?]
    | false => simp [Queue.enqueue, hd, Contact.ofAnswer?, Contact.taken?, Queue.push, Queue.ring]
  | handle handler e =>
    rw [h.other _ s (by simp)]
    exact (List.append_nil _).symm
  | freshId | count counter =>
    rw [h.other _ s (by simp)]
    exact (List.append_nil _).symm

/-- Whatever a run enqueues comes behind what was there, in order. -/
theorem SoleProducer.exec (p : Dispatch η α) (s : σ) :
    removed (p.exec answer s).2 ++ (queue (p.exec answer s).2).events =
      removed s ++ (queue s).events ++ (contacts answer p s).filterMap Contact.taken? := by
  induction p generalizing s with
  | done a => exact (List.append_nil _).symm
  | ask c next ih =>
    have hcontacts : contacts answer (.ask c next) s = _ := contacts_ask answer c next s
    rw [hcontacts, List.filterMap_append, ← List.append_assoc]
    refine (ih (answer c s).1 (answer c s).2).trans ?_
    rw [h.step]
    cases Contact.ofAnswer? ⟨c, (answer c s).1⟩ with
    | none => rfl
    | some contact => cases hc : contact.taken? <;> simp [hc]

end

/-- Who has no pending events is not dispatched again. -/
theorem dispatch_of_no_pending (d : Dispatcher η) {sources : List Tracked} (h : ∀ t ∈ sources, t.pending = []) :
    d.dispatch sources = pure (sources, .ok {}) := by
  have hpending : sources.flatMap Tracked.pending = [] := List.flatMap_eq_nil_iff.mpr h
  have hclear : sources.map EventSource.clear = sources := by
    refine (List.map_congr_left fun t ht => ?_).trans sources.map_id
    obtain ⟨r, pending⟩ := t
    obtain rfl : pending = [] := h _ ht
    rfl
  rw [Service.dispatch_eq, hpending, hclear]
  rfl

/-- A dispatch leaves nothing pending and sends each event one way, in order: to its inline handler, else to the queue,
else to the handler meant for the queue, else nowhere. It returns the first failure of a handler, else how many events
went which way. If nobody else adds to the queue, it ends with the events that it took, and a second dispatch of the
same entities asks nothing. -/
theorem dispatch_routes_once (d : Dispatcher η) (sources : List Tracked) (s : σ) :
    let events := sources.flatMap Tracked.pending
    ∃ blocks entities result s', (d.dispatch sources).exec answer s = ((entities, result), s') ∧
      entities = sources.map (fun t => ⟨t.registration, []⟩) ∧
      List.Forall₂ (fun e block => ∃ id, d.Routed (e.queued id) block) events blocks ∧
      contacts answer (d.dispatch sources) s = blocks.flatten ∧
      (result = match blocks.flatten.findSome? Contact.failure? with
        | some cause => .error (.handler cause)
        | none => .ok (.ofRoutes (blocks.map Contact.route))) ∧
      (DispatchReport.ofRoutes (blocks.map Contact.route)).total = events.length ∧
      (∀ queue removed, SoleProducer answer queue removed →
        removed s' ++ (queue s').events =
          removed s ++ (queue s).events ++ blocks.flatten.filterMap Contact.taken?) ∧
      d.dispatch entities = pure (entities, .ok {}) := by
  intro events
  obtain ⟨blocks, hblocks, hcontacts, hresults⟩ := exec_dispatchEvents answer d events s
  let p := (events.map RegistrationEvent.record).mapM d.dispatchEvent
  have hexec : (d.dispatch sources).exec answer s =
      ((sources.map Tracked.detached, Dispatched.report (blocks.map resultOf)), (p.exec answer s).2) := by
    rw [Service.dispatch_eq, ← hresults]
    exact Program.exec_bind answer p _ s
  have hall : contacts answer (d.dispatch sources) s = blocks.flatten := by
    rw [Service.dispatch_eq, contacts_bind, hcontacts]
    exact List.append_nil _
  refine ⟨blocks, _, _, _, hexec, rfl, hblocks, hall, report_resultOf blocks, ?_, fun queue removed hsole => ?_, ?_⟩
  · rw [DispatchReport.total_ofRoutes, List.length_map, hblocks.length_eq]
  · have hqueue := hsole.exec (d.dispatch sources) s
    rwa [hexec, hall] at hqueue
  · refine dispatch_of_no_pending d fun t ht => ?_
    obtain ⟨source, -, rfl⟩ := List.mem_map.mp ht
    rfl

/-- A queue in memory, and handlers of which some fail. -/
def inMemory : (c : DispatchCall Bool) → IdSupply × Queue → c.Reply × IdSupply × Queue
  | .freshId, (ids, queue) => (ids.next, ids.skip 1, queue)
  | .count _, s => ((), s)
  | .enqueue e, (ids, queue) => ((queue.enqueue e).1, ids, (queue.enqueue e).2)
  | .handle failing _, s => (if failing then .error (.permanent "out of order") else .ok (), s)

theorem soleProducer_inMemory : SoleProducer inMemory Prod.snd fun _ => [] where
  enqueue e s := ⟨s.2, rfl, rfl⟩
  other c s h := by
    cases c with
    | enqueue e => exact absurd rfl (h e)
    | _ => rfl

/-- The first of three events has a handler, which fails. The others get into the queue. -/
theorem dispatch_routes_once_failing :
    let r : Registration := ⟨⟨⟨0, 1⟩⟩, ⟨⟨0, 2⟩⟩, ⟨⟨0, 3⟩⟩, .cancelled, none, default, default⟩
    let sources : List Tracked :=
      [⟨r, [.confirmed r.subject default, .cancelled r.subject .confirmed none default]⟩,
        ⟨r, [.positionChanged r.subject 2 1 default]⟩]
    let d : Dispatcher Bool := ⟨Table.empty.insert "RegistrationConfirmed" true, .empty⟩
    ∃ blocks entities result s', (d.dispatch sources).exec inMemory (.counting 1 1, {}) = ((entities, result), s') ∧
      entities = [⟨r, []⟩, ⟨r, []⟩] ∧
      List.Forall₂ (fun e block => ∃ id, d.Routed (e.queued id) block) (sources.flatMap Tracked.pending) blocks ∧
      result = .error (.handler (.permanent "out of order")) ∧
      s'.2.events = blocks.flatten.filterMap Contact.taken? ∧
      s'.2.events.map QueuedEvent.type = ["RegistrationCancelled", "WaitlistPositionChanged"] ∧
      d.dispatch entities = pure (entities, .ok {}) := by
  intro r sources d
  obtain ⟨blocks, entities, result, s', hexec, hentities, hblocks, -, -, -, hqueue, hagain⟩ :=
    dispatch_routes_once inMemory d sources (.counting 1 1, {})
  refine ⟨blocks, entities, result, s', hexec, hentities, hblocks, ?_, hqueue _ _ soleProducer_inMemory, ?_, hagain⟩
  · rw [show result = ((d.dispatch sources).exec inMemory (.counting 1 1, {})).1.2 by rw [hexec]]
    decide +kernel
  · rw [show s' = ((d.dispatch sources).exec inMemory (.counting 1 1, {})).2 by rw [hexec]]
    decide +kernel

end Dispatcher
end Turnstile
