import Turnstile.Http
import Turnstile.Http.Request
import Turnstile.Simulation.World

/-!
Commands, named transactions and operator requests on a simulated world. A command that would wait for a
lock gives no result and is dropped.
-/

namespace Turnstile.Simulation

/-- An event of a kind that the library knows nothing about. -/
structure PlainEvent where
  type : String
  aggregateType : String
  aggregateId : Uuid
  occurredAt : Instant
  /-- Whether it can be written down. -/
  writable : Bool := true
  deriving Repr

def PlainEvent.record (e : PlainEvent) : EventRecord where
  type := e.type
  aggregateType := e.aggregateType
  aggregateId := e.aggregateId
  occurredAt := e.occurredAt
  payload :=
    if e.writable then .ok (.array [.string e.type, .string e.aggregateId.hyphenated])
    else .error "unserializable"

instance : EventSource (List PlainEvent) := ⟨fun events => events.map PlainEvent.record, fun _ => []⟩

namespace World

/-- The result of a run, or the world as it was when the run got stuck, without its transaction. -/
def orDropped : Option α × World → Option α × World
  | (some a, w) => (some a, w)
  | (none, w) => (none, { w with session := w.session.drop })

def allocate (w : World) (p : Allocate α) : Option (Except AllocationError α) × World :=
  orDropped (p.run.run answerAllocator w)

def serve (w : World) (p : Service HandlerRef α) : Option (Except ServiceError α) × World :=
  orDropped (p.run.run answerService w)

def dispatch [EventSource α] (w : World) (sources : List α) :
    Option (List α × Except DispatchError DispatchReport) × World :=
  (w.dispatcher.dispatch sources).run answerDispatch w

/-- The outbox row that would announce an event. It takes an identifier once the event is written. -/
def announce (w : World) (e : EventRecord) : Stored OutboxMessage × World :=
  match OutboxMessage.announcing e with
  | .error cause => (.error cause, w)
  | .ok row =>
    let (id, w) := w.freshId
    (.ok (row ⟨id⟩), w)

/-- Keeps an identifier under a label, if there is one. -/
def labelId (w : World) (name : Option String) (id : Option RegistrationId) : World :=
  match name, id with
  | some name, some id => { w with labels := w.labels.insert name id }
  | _, _ => w

/-- Keeps the identifier of the first of some registrations under a label. -/
def label (w : World) (name : Option String) (registrations : List Tracked) : World :=
  w.labelId name (registrations.head?.map fun t => t.registration.id)

/-- Begins a named transaction. One that was open under the name is dropped once the new one has begun. -/
def begin (w : World) (name : String) : Stored Unit × World :=
  match w.answerAllocator .begin with
  | (some (.ok ()), w) =>
    let replaced := (w.txs.get? name).getD {}
    (.ok (), { w.setStore (w.store.release replaced) with txs := w.txs.insert name {} })
  | (some (.error e), w) => (.error e, w)
  | (none, w) => (.ok (), w)

def endsTx : TxCall → Bool
  | .commit | .rollback | .drop => true
  | _ => false

/-- Makes a call on a named transaction; `none` if there is no such transaction. -/
def onTx (w : World) (name : String) (c : TxCall) : Option (Option c.Reply × World) :=
  (w.txs.get? name).map fun tx =>
    let (reply, w) := { w with session := { w.session with tx } }.answerAllocator (.tx c)
    let txs := if endsTx c then w.txs.erase name else w.txs.insert name w.session.tx
    (reply, { w with txs, session := { w.session with tx := {} } })

/-- Inserts a registration in a transaction that has no name, past all faults. -/
def plant (w : World) (tx : Tx) (r : Registration) : Stored Tx × World :=
  (tx.insertRegistration w.store r, w.access (txAccesses { w.session with tx } (.insertRegistration r)))

/-- Commits a transaction that has no name. -/
def commitPlanted (w : World) (tx : Tx) : Stored Unit × World :=
  let (r, session) := { w.session with tx }.commit
  (r, { w with session }.access (txAccesses w.session .commit))

/-- Answers a request of an operator. Any request with the method `OPTIONS` asks for permissions only. -/
def respond (w : World) (r : Http.Request) : Http.Response × World :=
  if r.method = "OPTIONS" then (.empty 200, w)
  else match Http.Route.ofPath? r.path with
    | none => (.empty 404, w)
    | some route =>
      if r.method = "GET" then answer route
      else if r.method = "HEAD" then
        let (r, w) := answer route
        (r.withoutBody, w)
      else (.empty 405, w)
where
  answer : Http.Route → Http.Response × World
    | .health => (.health w.workerId, w)
    | .metrics => (.metrics, w)
    | .outboxStats =>
      let (counts, w) := w.countByStatus
      (.ofCounts counts, w)
    | .registrations event =>
      match (Text.percentDecoded? event).bind Uuid.ofString? with
      | none => (.plain 400, w)
      | some id =>
        match w.allocate (Allocate.registrations ⟨id⟩) with
        | (some r, w) => (.ofRegistrations r, w)
        | (none, w) => (.empty 500, w)

end World
end Turnstile.Simulation
