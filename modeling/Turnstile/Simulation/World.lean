import Turnstile.Background
import Turnstile.Notification
import Turnstile.Outbox.Batch
import Turnstile.Queue
import Turnstile.Service
import Turnstile.Simulation.Access
import Turnstile.Simulation.Fault

/-!
The whole system on one worktable: store, queue, bus, handlers and clock are values, time passes only
when something waits, and faults strike where they were set up. Every question a program asks is
answered by the world. Work is done in turns, each with a limit on how often shared parts are reached for.
-/

namespace Turnstile.Simulation

inductive HandlerRef where
  | notifier
  | scripted (name : String)
  deriving DecidableEq, Repr

def HandlerRef.name : HandlerRef → String
  | .notifier => "registrant-notifier"
  | .scripted _ => "scripted"

/-- What a scripted handler answers to one call. -/
inductive HandlerAct where
  | ok
  | fail (cause : HandlerError)
  | panic
  deriving DecidableEq, Repr

/-- A handler that answers by a script, after a delay. A script that is used up means success. -/
structure ScriptedHandler where
  script : List HandlerAct := []
  delay : Duration := .ofMillis 0
  /-- How many calls were started, how many are running, and how many ran at once at most. -/
  calls : Nat := 0
  running : Nat := 0
  peak : Nat := 0
  /-- The types of the events handled with success, in the order in which they were. -/
  handled : List String := []
  deriving Inhabited

namespace ScriptedHandler

/-- A call starts and takes the next act of the script. -/
def enter (h : ScriptedHandler) : HandlerAct × ScriptedHandler :=
  (h.script.headD .ok, { h with
    script := h.script.drop 1, calls := h.calls + 1, running := h.running + 1
    peak := max h.peak (h.running + 1) })

def leave (h : ScriptedHandler) : ScriptedHandler := { h with running := h.running - 1 }

def succeed (h : ScriptedHandler) (type : String) : ScriptedHandler :=
  { h with handled := h.handled ++ [type] }

end ScriptedHandler

/-- What happens at a publish before the bus is reached. -/
inductive BusAct where
  | ok
  | steal (worker : String)
  | advance (ms : Int)
  | fail (cause : String → BusError)

structure World where
  session : Session
  /-- Open transactions by name. -/
  txs : Table String Tx := .empty
  /-- Registrations by label. -/
  labels : Table String RegistrationId := .empty
  faults : List Fault := []
  bus : Bus := {}
  busScript : List BusAct := []
  queue : Queue := {}
  /-- How many requests to the queue will still fail. -/
  failingDequeues : Nat := 0
  pollTimeout : Duration := .ofMillis 1000
  handlers : Table String ScriptedHandler := .empty
  notifications : NotificationLog := []
  dispatcher : Dispatcher HandlerRef
  background : BackgroundSettings := {}
  workerId : String := "sim-worker"
  /-- Registrations outside the store, by name. -/
  entities : Table String Tracked := .empty
  /-- How many milliseconds have passed in waiting. -/
  waited : Nat := 0
  /-- How often shared parts were reached for in the present turn. -/
  spent : Nat := 0
  /-- Whether a handler panicked outside the background processor, which breaks off everything. -/
  panicked : Bool := false

namespace World

/-- Without handlers of its own the notifier tells of cancellations at once and of the rest through the
queue. -/
def defaultDispatcher : Dispatcher HandlerRef where
  inline := .ofList [("RegistrationCancelled", .notifier)]
  queued := .ofList [("RegistrationConfirmed", .notifier), ("RegistrationWaitlisted", .notifier),
    ("RegistrationPromoted", .notifier), ("WaitlistPositionChanged", .notifier)]

/-- The clock starts with the year 2024. -/
def start : Instant := .newYear2024

def clock (w : World) : Instant := w.session.clock.next

def store (w : World) : Store := w.session.store

/-- The clock knows no leap seconds: one counts as the second after it. -/
def setClock (w : World) (now : Instant) : World :=
  { w with session := { w.session with clock := .constant now.withoutLeap } }

def setStore (w : World) (store : Store) : World := { w with session := { w.session with store } }

/-- Moves the clock by milliseconds in either direction, as far as there are instants. -/
def shift (w : World) (ms : Int) : World :=
  w.setClock ((w.clock.add? (ms * 1_000_000)).getD (if ms < 0 then .first else .last))

/-- How often shared parts may be reached for in one turn. -/
def turnLength : Nat := 128

/-- Reaches for shared parts `n` times; when a turn is used up the next begins. -/
def access (w : World) (n : Nat) : World :=
  { w with spent := if n = 0 then w.spent else (w.spent + n - 1) % turnLength + 1 }

def newTurn (w : World) : World := { w with spent := 0 }

/-- Waiting ends a turn, and what was waited for is the first thing that the next one reaches for. -/
def awake (w : World) : World := w.newTurn.access 1

/-- Looks at a shared part. -/
def look (w : World) (part : World → α) : α × World := (part w, w.access 1)

def changeStore (w : World) (change : Store → Store) : World := (w.setStore (change w.store)).access 1

def pass (w : World) (ms : Nat) : World :=
  let w := { w.shift ms with waited := w.waited + ms }
  if ms = 0 then w else w.awake

/-- An alarm that is due at once rings within the turn. -/
def sleep (w : World) (d : Duration) : World := if d.ticks = 0 then w.access 1 else w.pass d.ticks

def count (w : World) (c : Counter) (n : Nat) : World :=
  { w with session := { w.session with metrics := w.session.metrics.add c n } }

def freshId (w : World) : Uuid × World :=
  let (id, ids) := w.session.ids.draw
  (id, { w with session := { w.session with ids } })

/-- Lets the oldest fault for a call strike. -/
def strike (w : World) (call : Option StoreCall) : Option (StoreCall × FaultAct) × World :=
  match call with
  | none => (none, w)
  | some call =>
    let (act, faults) := Fault.strike call w.faults
    (act.map (call, ·), { w with faults })

/-- The session after a call that failed: ending a transaction ends it in any case. -/
def afterFault (s : Session) : AllocatorCall → Session
  | .tx .commit | .tx .rollback => s.drop
  | _ => s

def answerAllocator (c : AllocatorCall) (w : World) : Option c.Reply × World :=
  let (struck, w) := w.strike (StoreCall.ofAllocator? c)
  match struck.bind fun (call, act) => faultyAllocator (act.error? call) c with
  | some reply => (some reply, { w with session := afterFault w.session c })
  | none =>
    let w := w.access (allocatorAccesses w.session c)
    let (reply, session) := w.session.answer c
    (reply, if reply.isSome then { w with session } else { w with session }.awake)

def countByStatus (w : World) : Stored OutboxCounts × World :=
  let (struck, w) := w.strike (some .countByStatus)
  match struck.bind fun (call, act) => act.error? call with
  | some e => (.error e, w)
  | none => w.look fun w => .ok w.store.counts

def handler (w : World) (name : String) : ScriptedHandler := (w.handlers.get? name).getD {}

def setHandler (w : World) (name : String) (h : ScriptedHandler) : World :=
  { w with handlers := w.handlers.insert name h }

def enterHandler (w : World) (name : String) : HandlerAct × World :=
  let (act, h) := (w.handler name).enter
  (act, w.setHandler name h)

/-- A call of a scripted handler ends; a panic gives no answer. -/
def leaveHandler (w : World) (name : String) (act : HandlerAct) (e : QueuedEvent) :
    Option (Except HandlerError Unit) × World :=
  let h := (w.handler name).leave
  match act with
  | .ok => (some (.ok ()), w.setHandler name (h.succeed e.type))
  | .fail cause => (some (.error cause), w.setHandler name h)
  | .panic => (none, w.setHandler name h)

def notify (w : World) (e : QueuedEvent) : Except HandlerError Unit × World :=
  let (r, notifications) := w.notifications.handle e
  (r, { w with notifications }.access (if r matches .ok _ then 1 else 0))

/-- Runs a handler to its end, while time passes for its delay. -/
def handle (w : World) (h : HandlerRef) (e : QueuedEvent) : Option (Except HandlerError Unit) × World :=
  match h with
  | .notifier =>
    let (r, w) := w.notify e
    (some r, w)
  | .scripted name =>
    let (act, w) := w.enterHandler name
    let (r, w) := (w.pass (w.handler name).delay.ticks).leaveHandler name act e
    (r, { w with panicked := w.panicked || r.isNone })

def enqueue (w : World) (e : QueuedEvent) : Except DispatchError Unit × World :=
  let (r, queue) := w.queue.enqueue e
  (r, { w with queue }.access (if r matches .ok _ then 1 else 0))

def answerDispatch (c : DispatchCall HandlerRef) (w : World) : Option c.Reply × World :=
  match c with
  | .freshId =>
    let (id, w) := w.freshId
    (some id, w)
  | .count counter => (some (), w.count counter 1)
  | .enqueue e =>
    let (r, w) := w.enqueue e
    (some r, w)
  | .handle h e => w.handle h e

def answerHandling (c : HandlingCall HandlerRef) (w : World) : Option c.Reply × World :=
  match c with
  | .handle h e => w.handle h e
  | .sleep d => (some (), w.sleep d)
  | .count counter => (some (), w.count counter 1)

def answerService (c : ServiceCall HandlerRef) (w : World) : Option c.Reply × World :=
  match c with
  | .allocate c => w.answerAllocator c
  | .dispatch c => w.answerDispatch c

end World
end Turnstile.Simulation
