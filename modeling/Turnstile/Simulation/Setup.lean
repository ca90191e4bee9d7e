import Turnstile.Input
import Turnstile.Simulation.Command

/-!
How a simulated world is described: its settings, its scripted handlers and the registries they are in.
-/

namespace Turnstile.Simulation

open Input

/-- The parts of a text that start with a word, and the text after the colon that follows it. -/
def splitWord (s : String) : String × Option String :=
  match s.splitOn ":" with
  | [] => (s, none)
  | [word] => (word, none)
  | word :: rest => (word, some (":".intercalate rest))

def HandlerAct.ofJson? (j : Json) : Option HandlerAct := do
  match splitWord (← j.string?) with
  | ("ok", none) => some .ok
  | ("panic", none) => some .panic
  | ("retry", some reason) => some (.fail (.retryable reason))
  | ("perm", some reason) => some (.fail (.permanent reason))
  | _ => none

def BusAct.ofJson? (j : Json) : Option BusAct := do
  match splitWord (← j.string?) with
  | ("ok", none) => some .ok
  | ("steal", some worker) => some (.steal worker)
  | ("advance", some ms) => (Numeral.integer? ms.toList).map .advance
  | ("unavailable", some reason) => some (.fail fun _ => .unavailable reason)
  | ("publish", some reason) => some (.fail fun topic => .publish topic reason)
  | _ => none

def PlainEvent.ofJson? (j : Json) : Option PlainEvent := do
  some {
    type := ← (← j.field? "event_type").string?
    aggregateType := ← (← j.field? "aggregate_type").string?
    aggregateId := ← uuid? (← j.field? "id")
    occurredAt := ← Instant.ofJson? (← j.field? "at")
    writable := !(← Json.optional? Json.bool? (j.field? "broken")).getD false }

namespace World

def scriptedHandler (j : Json) : Reading ScriptedHandler := do
  return { script := ← listOrEmpty j "script" HandlerAct.ofJson?
           delay := (← optional j "delay" Duration.ofJson?).getD (.ofMillis 0) }

def scriptedHandlers (j : Json) : Reading (Table String ScriptedHandler) := do
  match ← optional j "handlers" some with
  | none => pure .empty
  | some (.object fields) => .ofList <$> fields.mapM fun (name, h) => return (name, ← scriptedHandler h)
  | some _ => unusable

/-- Registers handlers by event type; they are the notifier or scripted ones. -/
def registry (handlers : Table String ScriptedHandler) (j : Json) (name : String) :
    Reading (Registry HandlerRef) := do
  .ofList <$> (← listOrEmpty j name (pair? Json.string?)).mapM fun (type, h) =>
    if h = "notifier" then pure (type, .notifier)
    else if handlers.contains h then pure (type, .scripted h)
    else unusable

def settings (j : Json) : Reading Settings := do
  let d : Settings := { workerId := (← text? j "worker_id").getD "sim-worker" }
  return { d with
    backgroundMaxConcurrency :=
      (← optional j "background_max_concurrency" uint64?).getD d.backgroundMaxConcurrency
    backgroundMaxAttempts :=
      (← optional j "background_max_attempts" Json.uint32?).getD d.backgroundMaxAttempts
    backgroundRetryBaseDelay :=
      (← optional j "background_retry_base_delay" Duration.ofJson?).getD d.backgroundRetryBaseDelay
    backgroundRetryExponential :=
      (← optional j "background_retry_exponential" Json.bool?).getD d.backgroundRetryExponential
    queuePollTimeout := (← optional j "queue_poll_timeout" Duration.ofJson?).getD d.queuePollTimeout
    shutdownGrace := (← optional j "shutdown_grace" Duration.ofJson?).getD d.shutdownGrace }

/-- The world that a record describes. Registries of its own take the place of the default ones. A
background processor with more slots than there can be breaks off everything. -/
def ofJson (j : Json) : Reading World := do
  let settings ← settings ((← optional j "config" some).getD (.object []))
  if settings.queuePollTimeout.isZero then unusable
  let handlers ← scriptedHandlers j
  let own := (← optional j "inline" some).isSome || (← optional j "queued" some).isSome
  let world : World := {
    session := {
      clock := .constant ((← optional j "start" Instant.ofJson?).getD start).withoutLeap
      ids := ← idSupply j }
    pollTimeout := settings.queuePollTimeout
    handlers
    dispatcher := ← if own then do pure ⟨← registry handlers j "inline", ← registry handlers j "queued"⟩
      else pure defaultDispatcher
    background := settings.background
    workerId := settings.workerId }
  if Background.maxSlots < settings.backgroundMaxConcurrency then throw ⟨"Panic", none⟩
  return world

end World
end Turnstile.Simulation
