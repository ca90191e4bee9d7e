import Turnstile.Store.Call

/-!
The store in memory. A transaction stages its writes and reads through them; a commit applies them at
once. The lock of an event belongs to one open transaction at a time.
-/

namespace Turnstile

structure Store where
  events : Table EventId ScheduledEvent := .empty
  registrants : Table RegistrantId Registrant := .empty
  registrations : Table RegistrationId Registration := .empty
  outbox : List OutboxMessage := []
  /-- Events whose lock an open transaction holds. -/
  locked : List EventId := []
  failOnCommit : Bool := false

/-- An open transaction: the locks it holds and the writes it has staged. -/
structure Tx where
  held : List EventId := []
  registrations : Table RegistrationId Registration := .empty
  capacities : Table EventId UInt32 := .empty
  outbox : List OutboxMessage := []

namespace Store

instance : Inhabited Store := ⟨{}⟩

def insertEvent (s : Store) (e : ScheduledEvent) : Store := { s with events := s.events.insert e.id e }

def insertRegistrant (s : Store) (r : Registrant) : Store :=
  { s with registrants := s.registrants.insert r.id r }

/-- By creation time, then by identifier. -/
def older (a b : Registration) : Bool :=
  a.createdAt < b.createdAt || (a.createdAt = b.createdAt && (a.id.compare b.id).isLE)

def registrationsOf (s : Store) (event : EventId) : List Registration :=
  s.registrations.values.filter fun r => r.eventId = event

def list (s : Store) (event : EventId) : List Registration := (s.registrationsOf event).mergeSort older

def pushMessage (s : Store) (m : OutboxMessage) : Store := { s with outbox := s.outbox ++ [m] }

def getMessage (s : Store) (id : MessageId) : Option OutboxMessage := s.outbox.find? fun m => m.id = id

def counts (s : Store) : OutboxCounts := s.outbox.foldl (fun c m => c.add m.status 1) {}

/-- Due and expired rows, oldest first. -/
def claimable (s : Store) (limit : Nat) (now cutoff : Instant) : List OutboxMessage :=
  ((s.outbox.filter fun m => m.isClaimable now cutoff).mergeSort fun a b =>
    a.createdAt ≤ b.createdAt).take limit

/-- Changes the first row with an identifier if it allows it, and says whether it did. -/
def updateMessage (id : MessageId) (allowed : OutboxMessage → Bool)
    (change : OutboxMessage → OutboxMessage) : List OutboxMessage → Bool × List OutboxMessage
  | [] => (false, [])
  | m :: rest =>
    if m.id = id then if allowed m then (true, change m :: rest) else (false, m :: rest)
    else
      let (done, rest') := updateMessage id allowed change rest
      (done, m :: rest')

def update (s : Store) (id : MessageId) (allowed : OutboxMessage → Bool)
    (change : OutboxMessage → OutboxMessage) : Bool × Store :=
  let (done, outbox) := updateMessage id allowed change s.outbox
  (done, { s with outbox })

def tryClaim (s : Store) (id : MessageId) (worker : String) (now cutoff : Instant) : Bool × Store :=
  s.update id (·.isClaimable now cutoff) (·.claim worker now)

def markProcessed (s : Store) (id : MessageId) (worker : String) (now : Instant) : Bool × Store :=
  s.update id (·.isClaimedBy worker) (·.settle now)

def markRetry (s : Store) (id : MessageId) (worker : String) (attempts : UInt32) (error : String)
    (next : Instant) : Bool × Store :=
  s.update id (·.isClaimedBy worker) (·.postpone attempts error next)

def markFailed (s : Store) (id : MessageId) (worker : String) (attempts : UInt32) (error : String) :
    Bool × Store :=
  s.update id (·.isClaimedBy worker) (·.abandon attempts error)

def release (s : Store) (tx : Tx) : Store := { s with locked := s.locked.filter (· ∉ tx.held) }

/-- Applies everything a transaction has staged. -/
def apply (s : Store) (tx : Tx) : Store :=
  { s with
    registrations := s.registrations.union tx.registrations
    events := tx.capacities.entries.foldl
      (fun events (id, capacity) => events.adjust id fun e => { e with capacity }) s.events
    outbox := s.outbox ++ tx.outbox }

end Store

namespace Tx

instance : Inhabited Tx := ⟨{}⟩

def holds (tx : Tx) (event : EventId) : Bool := event ∈ tx.held

/-- The event as the transaction sees it. -/
def event? (tx : Tx) (s : Store) (id : EventId) : Option ScheduledEvent :=
  (s.events.get? id).map fun e =>
    match tx.capacities.get? id with
    | some capacity => { e with capacity }
    | none => e

/-- The registrations of an event: those the transaction wrote, and the committed ones it did not. -/
def registrationsOf (tx : Tx) (s : Store) (event : EventId) : List Registration :=
  let committed := (s.registrationsOf event).filter fun r =>
    !(tx.registrations.get? r.id).any fun staged => staged.eventId = event
  (tx.registrations.values.filter fun r => r.eventId = event) ++ committed

def registration? (tx : Tx) (s : Store) (id : RegistrationId) : Option Registration :=
  (tx.registrations.get? id).orElse fun _ => s.registrations.get? id

def findActive (tx : Tx) (s : Store) (event : EventId) (registrant : RegistrantId) :
    Option Registration :=
  (tx.registrationsOf s event).find? fun r => r.registrantId = registrant && r.isActive

def confirmed (tx : Tx) (s : Store) (event : EventId) : List Registration :=
  (tx.registrationsOf s event).filter Registration.isConfirmed

def countConfirmed (tx : Tx) (s : Store) (event : EventId) : Stored UInt32 :=
  let n := (tx.confirmed s event).length
  if n < UInt32.size then .ok (.ofNat n) else .error (.corrupt "confirmed count overflow")

def place (r : Registration) : Nat :=
  match r.position with
  | some p => p.toNat + 1
  | none => 0

/-- The waitlist of an event, lowest place first. -/
def waitlist (tx : Tx) (s : Store) (event : EventId) : List Registration :=
  ((tx.registrationsOf s event).filter Registration.isWaitlisted).mergeSort fun a b => place a ≤ place b

def write (tx : Tx) (r : Registration) : Tx :=
  { tx with registrations := tx.registrations.insert r.id r }

/-- Refuses a second active registration of a registrant for an event. -/
def insertRegistration (tx : Tx) (s : Store) (r : Registration) : Stored Tx :=
  if r.isActive && (tx.findActive s r.eventId r.registrantId).any fun other => other.id ≠ r.id then
    .error (.duplicateActive r.eventId r.registrantId)
  else .ok (tx.write r)

def missing (id : RegistrationId) : StoreError := .corrupt s!"registration {id} missing on update"

def updateRegistration (tx : Tx) (s : Store) (r : Registration) : Stored Tx :=
  if (tx.registration? s r.id).isSome then .ok (tx.write r) else .error (missing r.id)

end Tx

/-- A call in progress on a store: the readings of its clock, its supply of identifiers and its open
transaction. -/
structure Session where
  store : Store := {}
  tx : Tx := {}
  clock : Supply Instant
  ids : IdSupply := .counting 1 1
  metrics : Metrics := .empty

namespace Session

def drop (s : Session) : Session := { s with store := s.store.release s.tx, tx := {} }

/-- Enters the lock of an event, unless another transaction holds it. -/
def lockEvent (s : Session) (event : EventId) : Option Session :=
  if s.tx.holds event then some s
  else if event ∈ s.store.locked then none
  else some { s with
    store := { s.store with locked := event :: s.store.locked }
    tx := { s.tx with held := event :: s.tx.held } }

def stage (s : Session) (r : Stored Tx) : Stored Unit × Session :=
  match r with
  | .ok tx => (.ok (), { s with tx })
  | .error e => (.error e, s)

/-- Applies the staged writes, or discards them if commits are made to fail. -/
def commit (s : Session) : Stored Unit × Session :=
  if s.store.failOnCommit then (.error (.unavailable "injected commit failure"), s.drop)
  else (.ok (), { s with store := s.store.apply s.tx }.drop)

def answerTx : (c : TxCall) → Session → Option c.Reply × Session
  | .lockEvent event, s =>
    match s.lockEvent event with
    | some s' => (some (.ok (s'.tx.event? s'.store event)), s')
    | none => (none, s)
  | .registrantExists registrant, s => (some (.ok (s.store.registrants.contains registrant)), s)
  | .findActive event registrant, s => (some (.ok (s.tx.findActive s.store event registrant)), s)
  | .getRegistration id, s => (some (.ok (s.tx.registration? s.store id)), s)
  | .countConfirmed event, s => (some (s.tx.countConfirmed s.store event), s)
  | .waitlist event, s => (some (.ok (s.tx.waitlist s.store event)), s)
  | .insertRegistration r, s =>
    let (reply, s') := s.stage (s.tx.insertRegistration s.store r)
    (some reply, s')
  | .updateRegistration r, s =>
    let (reply, s') := s.stage (s.tx.updateRegistration s.store r)
    (some reply, s')
  | .updateCapacity event capacity, s =>
    (some (.ok ()), { s with tx := { s.tx with capacities := s.tx.capacities.insert event capacity } })
  | .insertMessage m, s => (some (.ok ()), { s with tx := { s.tx with outbox := s.tx.outbox ++ [m] } })
  | .commit, s =>
    let (reply, s') := s.commit
    (some reply, s')
  | .rollback, s => (some (.ok ()), s.drop)
  | .drop, s => (some (), s.drop)

/-- Answers every question of an allocation command. Only a lock held elsewhere leaves one open. -/
def answer : (c : AllocatorCall) → Session → Option c.Reply × Session
  | .now, s =>
    let (now, clock) := s.clock.draw
    (some now, { s with clock })
  | .freshId, s =>
    let (id, ids) := s.ids.draw
    (some id, { s with ids })
  | .count counter, s => (some (), { s with metrics := s.metrics.add counter 1 })
  | .getEvent event, s => (some (.ok (s.store.events.get? event)), s)
  | .getRegistration id, s => (some (.ok (s.store.registrations.get? id)), s)
  | .listRegistrations event, s => (some (.ok (s.store.list event)), s)
  | .begin, s => (some (.ok ()), { s with tx := {} })
  | .tx c, s => s.answerTx c

end Session
end Turnstile
