import Turnstile.Simulation.World

/-!
An outbox worker step by step. Before it uses the rows of the store or the list of the bus it has to have
them to itself; all it does until it reaches for the next of them is one piece of work.
-/

namespace Turnstile.Simulation

/-- What all share and one at a time may use: the rows of the store, and the bus. -/
inductive Part where
  | rows | bus
  deriving DecidableEq, Repr

inductive Move where
  | reach (part : Part)
  /-- Lets a fault strike in place of a call. -/
  | strike (c : OutboxCall)
  | answer (c : OutboxCall)
  | nextAct
  | steal (message : OutboxMessage) (worker : String)
  | shift (ms : Int)
  | accept (topic : String)
  | record (topic : String) (message : OutboxMessage)

@[reducible] def Move.Reply : Move → Type
  | strike c => Option c.Reply
  | answer c => c.Reply
  | nextAct => BusAct
  | accept _ => Except BusError Unit
  | reach _ | steal _ _ | shift _ | record _ _ => Unit

namespace Move

def ask (m : Move) : Program Move.Reply m.Reply := .call m

/-- Acts by the script, and hands a message to the bus unless the script says otherwise. -/
def offer (topic : String) (m : OutboxMessage) : Program Move.Reply (Except BusError Unit) := do
  match ← ask .nextAct with
  | .fail cause => return .error (cause topic)
  | .advance ms => ask (.shift ms)
  | .steal worker =>
    ask (.reach .rows)
    ask (.steal m worker)
  | .ok => pure ()
  match ← ask (.accept topic) with
  | .error e => return .error e
  | .ok () =>
    ask (.reach .bus)
    ask (.record topic m)
    return .ok ()

def usesRows : OutboxCall → Bool
  | .now | .count _ _ | .publish _ _ => false
  | .claimable _ _ _ | .tryClaim _ _ _ _ => true
  | .markProcessed _ _ _ | .markRetry _ _ _ _ _ | .markFailed _ _ _ _ => true

/-- The steps to the answer of a call. A worker that only logs never reaches the bus. -/
def ofCall (logging : Bool) : (c : OutboxCall) → Program Move.Reply c.Reply
  | .publish topic m => if logging then .done (.ok ()) else offer topic m
  | c => do
    match ← ask (.strike c) with
    | some reply => return reply
    | none =>
      if usesRows c then ask (.reach .rows)
      ask (.answer c)

end Move

namespace World

/-- What a fault answers in place of a call, if one strikes. -/
def faultyReply (w : World) (c : OutboxCall) : Option c.Reply × World :=
  let (struck, w) := w.strike (StoreCall.ofOutbox? c)
  (struck.bind fun (call, act) => faultyOutbox (act.error? call) c, w)

def updateStore (w : World) (r : α × Store) : Stored α × World := (.ok r.1, w.setStore r.2)

def answerCall (w : World) : (c : OutboxCall) → c.Reply × World
  | .now => (w.clock, w)
  | .count counter n => ((), w.count counter n)
  | .claimable limit now cutoff => (.ok (w.store.claimable limit now cutoff), w)
  | .tryClaim m worker now cutoff => w.updateStore (w.store.tryClaim m worker now cutoff)
  | .publish topic m =>
    let (r, bus) := w.bus.publish topic m
    (r, { w with bus })
  | .markProcessed m worker now => w.updateStore (w.store.markProcessed m worker now)
  | .markRetry m worker attempts error next =>
    w.updateStore (w.store.markRetry m worker attempts error next)
  | .markFailed m worker attempts error => w.updateStore (w.store.markFailed m worker attempts error)

/-- Makes a step. Another worker claims a row however fresh its present claim is. -/
def make (m : Move) (w : World) : m.Reply × World :=
  match m with
  | .reach _ => ((), w.access 1)
  | .strike c => w.faultyReply c
  | .answer c => w.answerCall c
  | .nextAct => (w.busScript.headD .ok, { w with busScript := w.busScript.drop 1 })
  | .steal m worker => ((), w.setStore (w.store.tryClaim m.id worker w.clock .last).2)
  | .shift ms => ((), w.shift ms)
  | .accept topic =>
    let (r, bus) := w.bus.accept topic
    (r, { w with bus })
  | .record topic m => ((), { w with bus := w.bus.record topic m })

def answerOutbox (logging : Bool) (c : OutboxCall) (w : World) : c.Reply × World :=
  (Move.ofCall logging c).exec make w

def publish (w : World) (topic : String) (m : OutboxMessage) : Except BusError Unit × World :=
  (Move.offer topic m).exec make w

end World
end Turnstile.Simulation
