import Turnstile.Allocation.Command
import Turnstile.Allocation.Error
import Turnstile.Store.Call

/-!
The allocator: the sole writer of seats and waitlist places. Each command reads and writes inside one
transaction that holds the event's lock, and stages one outbox row per announced event in it.
-/

namespace Turnstile

/-- What a command changed: the registration it was about, and those changed as a consequence. -/
structure Allocation where
  target : Option Tracked := none
  affected : List Tracked := []
  deriving DecidableEq, Repr, Inhabited

namespace Allocation

def isNoop (a : Allocation) : Bool := a.affected.isEmpty && a.target.all fun t => !t.hasPending

def changed (a : Allocation) : List Tracked := a.target.toList ++ a.affected

end Allocation

abbrev Allocate (α : Type) := ExceptT AllocationError (Program AllocatorCall.Reply) α

/-- How a transaction ends when its body has not failed. -/
inductive Verdict (α : Type) where
  | commit (result : α)
  | rollback (result : α)

namespace Allocate

def ask (c : AllocatorCall) : Program AllocatorCall.Reply c.Reply := .call c

def tx (c : TxCall) : Program AllocatorCall.Reply c.Reply := ask (.tx c)

def lift (p : Program AllocatorCall.Reply α) : Allocate α := ExceptT.mk (Except.ok <$> p)

def stored (p : Program AllocatorCall.Reply (Stored α)) : Allocate α :=
  ExceptT.mk (Except.mapError AllocationError.ofStore <$> p)

def checked (r : Except RegistrationError α) : Allocate α :=
  ExceptT.mk (pure (r.mapError AllocationError.invalidState))

def now : Allocate Instant := lift (ask .now)

def freshId {kind : IdKind} : Allocate (Id kind) := Id.mk <$> lift (ask .freshId)

def count (c : Counter) : Allocate Unit := lift (ask (.count c))

def getEvent (event : EventId) : Allocate (Option ScheduledEvent) := stored (ask (.getEvent event))

def getRegistration (id : RegistrationId) : Allocate (Option Registration) :=
  stored (ask (.getRegistration id))

def listRegistrations (event : EventId) : Allocate (List Registration) :=
  stored (ask (.listRegistrations event))

namespace Tx

def lockEvent (event : EventId) : Allocate (Option ScheduledEvent) :=
  stored (tx (.lockEvent event))

def registrantExists (registrant : RegistrantId) : Allocate Bool :=
  stored (tx (.registrantExists registrant))

def findActive (event : EventId) (registrant : RegistrantId) : Allocate (Option Registration) :=
  stored (tx (.findActive event registrant))

def getRegistration (id : RegistrationId) : Allocate (Option Registration) :=
  stored (tx (.getRegistration id))

def countConfirmed (event : EventId) : Allocate UInt32 := stored (tx (.countConfirmed event))

def waitlist (event : EventId) : Allocate (List Registration) := stored (tx (.waitlist event))

def insertRegistration (r : Registration) : Allocate Unit :=
  stored (tx (.insertRegistration r))

def updateRegistration (r : Registration) : Allocate Unit :=
  stored (tx (.updateRegistration r))

def updateCapacity (event : EventId) (capacity : UInt32) : Allocate Unit :=
  stored (tx (.updateCapacity event capacity))

def insertMessage (m : OutboxMessage) : Allocate Unit := stored (tx (.insertMessage m))

end Tx

/-- Runs a body in a transaction of its own. A body that fails leaves the transaction to be dropped; a
commit or rollback ends it whether or not it succeeds. -/
def transact (body : Allocate (Verdict α)) : Allocate α := do
  stored (ask .begin)
  match ← lift body.run with
  | .error e =>
    lift (tx .drop)
    throw e
  | .ok (.commit a) =>
    stored (tx .commit)
    pure a
  | .ok (.rollback a) =>
    stored (tx .rollback)
    pure a

def lockExisting (event : EventId) : Allocate ScheduledEvent := do
  match ← Tx.lockEvent event with
  | some e => pure e
  | none => throw (.eventNotFound event)

/-- Stages the outbox row of one recorded event, if it is announced at all. -/
def stageEvent (e : EventRecord) : Allocate Unit := do
  if e.integration then
    match OutboxMessage.announcing e with
    | .error cause => throw (.store cause)
    | .ok row => Tx.insertMessage (row (← freshId))

def stage (registrations : List Tracked) : Allocate Unit :=
  registrations.forM fun t => t.pending.forM fun e => stageEvent e.record

/-- Moves the given registrations up by one place each, in order. -/
def shiftUp (now : Instant) : List Registration → Allocate (List Tracked)
  | [] => pure []
  | r :: rest => do
    let (_, moved) ← checked (Tracked.moveUp ⟨r, []⟩ now)
    Tx.updateRegistration moved.registration
    return moved :: (← shiftUp now rest)

/-- Moves everyone behind the released place up by one. -/
def closeGap (event : EventId) (released : UInt32) (now : Instant) : Allocate (List Tracked) := do
  let queue ← Tx.waitlist event
  shiftUp now (queue.filter fun r => r.position.any fun p => released < p)

/-- Seats the head of the waitlist and moves the others up; the seated one comes first. -/
def promoteHead (event : EventId) (now : Instant) : Allocate (List Tracked) := do
  match ← Tx.waitlist event with
  | [] => pure []
  | head :: rest =>
    let (_, seated) ← checked (Tracked.promote ⟨head, []⟩ now)
    Tx.updateRegistration seated.registration
    return seated :: (← shiftUp now rest)

/-- Seats the head of the waitlist if a seat is free. -/
def promoteIfFree (event : ScheduledEvent) (now : Instant) : Allocate (List Tracked) := do
  if (← Tx.countConfirmed event.id) < event.capacity then promoteHead event.id now else pure []

/-- Registers a registrant: seated if a seat is free, at the end of the waitlist otherwise. -/
def register (event : EventId) (registrant : RegistrantId) : Allocate Allocation := do
  let now ← now
  let created ← transact do
    let e ← lockExisting event
    if !(← Tx.registrantExists registrant) then throw (.registrantNotFound registrant)
    if (← Tx.findActive event registrant).isSome then throw (.conflict event registrant)
    if !e.isOpen now then throw (.registrationClosed event)
    let seated ← Tx.countConfirmed e.id
    let created ←
      if seated < e.capacity then pure (Tracked.confirmed e.id registrant now (← freshId))
      else do
        let queue ← Tx.waitlist e.id
        let create ← checked (Tracked.waitlisted e.id registrant (.ofNat queue.length + 1) now)
        pure (create (← freshId))
    Tx.insertRegistration created.registration
    stage [created]
    pure (.commit created)
  count (.registrations created.registration.status)
  pure { target := some created }

/-- The event of a registration, looked up before its lock is taken. -/
def eventOf (id : RegistrationId) : Allocate EventId := do
  match ← getRegistration id with
  | some r => pure r.eventId
  | none => throw (.registrationNotFound id)

def lockedRegistration (id : RegistrationId) : Allocate Registration := do
  match ← Tx.getRegistration id with
  | some r => pure r
  | none => throw (.registrationNotFound id)

/-- Cancels a registration. A freed seat goes to the head of the waitlist, a released place is closed
by those behind it. Cancelling twice changes nothing. -/
def cancel (id : RegistrationId) : Allocate Allocation := do
  let now ← now
  let event ← eventOf id
  let (allocation, ended) ← transact do
    let e ← lockExisting event
    let r ← lockedRegistration id
    match Tracked.cancel ⟨r, []⟩ now with
    | none => pure (.rollback (({ target := some ⟨r, []⟩ } : Allocation), none))
    | some (released, cancelled) =>
      Tx.updateRegistration cancelled.registration
      let affected ← match released.previousPosition with
        | some place => closeGap event place now
        | none => if released.freedSeat then promoteIfFree e now else pure []
      stage [cancelled]
      stage affected
      pure (.commit ({ target := some cancelled, affected }, some released))
  if let some released := ended then
    count .cancellations
    if released.freedSeat && !allocation.affected.isEmpty then count .promotions
  pure allocation

/-- Seats the head of the waitlist. An empty waitlist leaves nothing to do. -/
def promote (event : EventId) : Allocate Allocation := do
  let now ← now
  let changed? ← transact do
    let e ← lockExisting event
    if (← Tx.waitlist e.id).isEmpty then return .rollback none
    if e.capacity ≤ (← Tx.countConfirmed e.id) then throw (.capacityExhausted e.id e.capacity)
    let changed ← promoteHead e.id now
    stage changed
    return .commit (some changed)
  match changed? with
  | none => pure {}
  | some changed =>
    count .promotions
    match changed with
    | [] => pure {}
    | seated :: rest => pure { target := some seated, affected := rest }

/-- Seats one waitlisted registration ahead of its turn. -/
def confirm (id : RegistrationId) : Allocate Allocation := do
  let now ← now
  let event ← eventOf id
  let allocation ← transact do
    let e ← lockExisting event
    let r ← lockedRegistration id
    let (place, seated) ← checked (Tracked.promote ⟨r, []⟩ now)
    if e.capacity ≤ (← Tx.countConfirmed e.id) then throw (.capacityExhausted e.id e.capacity)
    Tx.updateRegistration seated.registration
    let affected ← closeGap e.id place now
    stage [seated]
    stage affected
    pure (.commit ({ target := some seated, affected } : Allocation))
  count .promotions
  pure allocation

/-- Raises the capacity of an event in a transaction of its own. -/
def raiseCapacity (event : EventId) (capacity : UInt32) : Allocate EventId :=
  transact do
    let e ← lockExisting event
    if capacity < e.capacity then throw (.invalidCapacity e.id e.capacity capacity)
    if e.capacity < capacity then
      Tx.updateCapacity e.id capacity
      pure (.commit e.id)
    else pure (.rollback e.id)

/-- Seats the head of the waitlist in a transaction of its own; `none` if nothing changed. -/
def promoteStep (event : EventId) : Allocate (Option (List Tracked)) := do
  let now ← now
  let changed? ← transact do
    let e ← lockExisting event
    match ← promoteIfFree e now with
    | [] => pure (.rollback none)
    | changed => do
      stage changed
      pure (.commit (some changed))
  if changed?.isSome then count .promotions
  pure changed?

/-- Repeats `promoteStep` until it changes nothing, at most `limit` times. -/
def promoteAll (event : EventId) : Nat → List Tracked → Allocate (List Tracked)
  | 0, done => pure done
  | limit + 1, done => do
    match ← promoteStep event with
    | none => pure done
    | some changed => promoteAll event limit (done ++ changed)

/-- A waitlist has at most this many places, since places are 32-bit numbers. -/
def maxWaitlist : Nat := UInt32.size

/-- Raises the capacity of an event and fills the new seats from the waitlist, one at a time. -/
def increaseCapacity (event : EventId) (capacity : UInt32) : Allocate Allocation := do
  let event ← raiseCapacity event capacity
  pure { affected := ← promoteAll event maxWaitlist [] }

/-- Every registration of an event, oldest first. -/
def registrations (event : EventId) : Allocate (List Registration) := do
  if (← getEvent event).isNone then throw (.eventNotFound event)
  listRegistrations event

def command : Command → Allocate Allocation
  | .register event registrant => register event registrant
  | .cancel registration => cancel registration
  | .promote event => promote event
  | .confirm registration => confirm registration
  | .increaseCapacity event capacity => increaseCapacity event capacity

end Allocate
end Turnstile
