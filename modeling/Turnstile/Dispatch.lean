import Turnstile.Handler
import Turnstile.Metrics
import Turnstile.Program
import Turnstile.Registration

/-!
Dispatch of recorded events after their change was committed. An event goes to its inline handler, else
to the queue, else straight to the handler meant for the queue, else it is dropped. A failure does not
keep later events from being routed.
-/

namespace Turnstile

/-- Something that records events until they are taken. -/
class EventSource (α : Type) where
  pending : α → List EventRecord
  clear : α → α

instance : EventSource Tracked := ⟨fun t => t.pending.map (·.record), Tracked.detached⟩

inductive DispatchCall (η : Type) where
  | freshId
  | count (counter : Counter)
  | enqueue (event : QueuedEvent)
  | handle (handler : η) (event : QueuedEvent)

@[reducible] def DispatchCall.Reply {η : Type} : DispatchCall η → Type
  | freshId => Uuid
  | count _ => Unit
  | enqueue _ => Except DispatchError Unit
  | handle _ _ => Except HandlerError Unit

abbrev Dispatch (η α : Type) := @Program (DispatchCall η) DispatchCall.Reply α

inductive Route where
  | inline | queued | fallback | dropped
  deriving DecidableEq, Repr

structure DispatchReport where
  inline : Nat := 0
  queued : Nat := 0
  fallback : Nat := 0
  dropped : Nat := 0
  deriving DecidableEq, Repr, Inhabited

def DispatchReport.add (r : DispatchReport) : Route → DispatchReport
  | .inline => { r with inline := r.inline + 1 }
  | .queued => { r with queued := r.queued + 1 }
  | .fallback => { r with fallback := r.fallback + 1 }
  | .dropped => { r with dropped := r.dropped + 1 }

def DispatchReport.toJson (r : DispatchReport) : Json :=
  .object [("inline", .nat r.inline), ("queued", .nat r.queued), ("fallback", .nat r.fallback),
    ("dropped", .nat r.dropped)]

/-- What became of one event. One that cannot be written down is not routed at all. -/
structure Dispatched where
  route : Option Route
  error : Option DispatchError := none
  deriving DecidableEq, Repr

namespace Dispatched

def handled (route : Route) : Except HandlerError Unit → Dispatched
  | .ok () => ⟨some route, none⟩
  | .error e => ⟨some route, some (.handler e)⟩

/-- The first failure, or how many events took each route. -/
def report (results : List Dispatched) : Except DispatchError DispatchReport :=
  match results.findSome? Dispatched.error with
  | some e => .error e
  | none => .ok ((results.filterMap Dispatched.route).foldl DispatchReport.add {})

end Dispatched

/-- Handlers that run at once, and those meant for events that went through the queue. -/
structure Dispatcher (η : Type) where
  inline : Registry η
  queued : Registry η

namespace Dispatcher
variable {η : Type}

def ask (c : DispatchCall η) : Dispatch η c.Reply := .call c

def route (d : Dispatcher η) (e : QueuedEvent) : Dispatch η Dispatched := do
  match d.inline.get? e.type with
  | some handler =>
    ask (.count (.dispatched .inline))
    return .handled .inline (← ask (.handle handler e))
  | none =>
    match ← ask (.enqueue e) with
    | .ok () =>
      ask (.count (.dispatched .queued))
      return ⟨some .queued, none⟩
    | .error _ =>
      ask (.count .enqueueFallbacks)
      match d.queued.get? e.type with
      | none => return ⟨some .dropped, none⟩
      | some handler =>
        ask (.count (.dispatched .fallback))
        return .handled .fallback (← ask (.handle handler e))

def dispatchEvent (d : Dispatcher η) (e : EventRecord) : Dispatch η Dispatched := do
  match QueuedEvent.ofRecord ⟨← ask .freshId⟩ e with
  | .ok queued => d.route queued
  | .error reason => return ⟨none, some (.serialization reason)⟩

/-- Takes the pending events of all sources and dispatches them, source by source. -/
def dispatch {α : Type} [EventSource α] (d : Dispatcher η) (sources : List α) :
    Dispatch η (List α × Except DispatchError DispatchReport) := do
  let results ← (sources.flatMap EventSource.pending).mapM d.dispatchEvent
  return (sources.map EventSource.clear, Dispatched.report results)

end Dispatcher
end Turnstile
