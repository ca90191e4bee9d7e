import Turnstile.Proofs.Allocation.Effect
import Turnstile.Proofs.Sql.Transcript
import Turnstile.Sql.Store

/-!
What a command may send to a database at any moment: a transaction starts with the lock of its event, all changes
are made in transactions, and a commit comes after everything else went well and everything was announced.
-/

namespace Turnstile

/-- A registration just as a transition leaves it, be it new or one of those that were read. -/
inductive Tracked.Recorded (read : Registration → Prop) : Tracked → Prop
  | confirmed (event : EventId) (registrant : RegistrantId) (now : Instant) (id : RegistrationId) :
    Recorded read (.confirmed event registrant now id)
  | waitlisted {event : EventId} {registrant : RegistrantId} {position : UInt32} {now : Instant}
    {create : RegistrationId → Tracked} (h : waitlisted event registrant position now = .ok create)
    (id : RegistrationId) : Recorded read (create id)
  | cancelled {r : Registration} (hr : read r) {now : Instant} {released : Cancellation} {t : Tracked}
    (h : cancel ⟨r, []⟩ now = some (released, t)) : Recorded read t
  | promoted {r : Registration} (hr : read r) {now : Instant} {previous : UInt32} {t : Tracked}
    (h : promote ⟨r, []⟩ now = .ok (previous, t)) : Recorded read t
  | movedUp {r : Registration} (hr : read r) {now : Instant} {place : UInt32} {t : Tracked}
    (h : moveUp ⟨r, []⟩ now = .ok (place, t)) : Recorded read t

namespace Sql

namespace Statement

def lock (event : EventId) : Statement :=
  .query "SELECT pg_advisory_xact_lock($1)" [.int8 event.lockKey.toInt]

def selectEvent (event : EventId) : Statement :=
  .query s!"SELECT {eventColumns} FROM events WHERE id = $1" [.id event]

def selectRegistration (id : RegistrationId) : Statement :=
  .query s!"SELECT {registrationColumns} FROM registrations WHERE id = $1" [.id id]

def registrantExists (registrant : RegistrantId) : Statement :=
  .query "SELECT EXISTS (SELECT 1 FROM registrants WHERE id = $1)" [.id registrant]

def selectActive (event : EventId) (registrant : RegistrantId) : Statement :=
  .query (s!"SELECT {registrationColumns} FROM registrations " ++
    "WHERE event_id = $1 AND registrant_id = $2 AND status <> 'Cancelled'") [.id event, .id registrant]

def countConfirmed (event : EventId) : Statement :=
  .query "SELECT COUNT(*) FROM registrations WHERE event_id = $1 AND status = 'Confirmed'" [.id event]

def selectWaitlist (event : EventId) : Statement :=
  .query (s!"SELECT {registrationColumns} FROM registrations " ++
    "WHERE event_id = $1 AND status = 'Waitlisted' ORDER BY position_in_queue ASC") [.id event]

def insertRegistration (params : List Cell) : Statement :=
  .query s!"INSERT INTO registrations ({registrationColumns}) VALUES ($1, $2, $3, $4, $5, $6, $7)" params

def updateRegistration (params : List Cell) : Statement :=
  .query "UPDATE registrations SET status = $2, position_in_queue = $3, updated_at = $4 WHERE id = $1" params

def updateCapacity (event : EventId) (capacity : Int) : Statement :=
  .query "UPDATE events SET capacity = $2 WHERE id = $1" [.id event, .int4 capacity]

def insertMessage (params : List Cell) : Statement :=
  .query ("INSERT INTO outbox_messages (id, message_type, payload, status, attempts, next_attempt_at, " ++
    "created_at) VALUES ($1, $2, $3, $4, $5, $6, $7)") params

def startsWith (words : String) : Statement → Bool
  | .query text _ => text.startsWith words
  | .begin | .commit | .rollback => false

def writesRegistration (s : Statement) : Bool :=
  s.startsWith "INSERT INTO registrations " || s.startsWith "UPDATE registrations "

def writesMessage (s : Statement) : Bool := s.startsWith "INSERT INTO outbox_messages "

def writes (s : Statement) : Bool := s.writesRegistration || s.startsWith "UPDATE events " || s.writesMessage

/-- The statement that writes a registration. -/
inductive Writes : Statement → Registration → Prop
  | insert {r : Registration} {params : List Cell} (h : insertParams r = .ok params) :
    Writes (insertRegistration params) r
  | update {r : Registration} {params : List Cell} (h : updateParams r = .ok params) :
    Writes (updateRegistration params) r

/-- The statement that inserts a row which announces an event. -/
def Announces (s : Statement) (e : RegistrationEvent) : Prop :=
  ∃ m params, m.Announces e ∧ messageParams m = .ok params ∧ s = insertMessage params

end Statement

/-- The database gave what can be read: rows of the right shape, or a changed row where there must be one. -/
inductive Understood : Statement → Response → Prop
  | lock (event : EventId) (response : Response) : Understood (.lock event) response
  | selectEvent (event : EventId) {response : Response} {e : Option ScheduledEvent}
    (h : response.rows.head?.mapM eventOfRow = .ok e) : Understood (.selectEvent event) response
  | selectRegistration (id : RegistrationId) {response : Response} {r : Option Registration}
    (h : response.rows.head?.mapM registrationOfRow = .ok r) : Understood (.selectRegistration id) response
  | registrantExists (registrant : RegistrantId) {response : Response} {row : Row} {more : List Row} {known : Bool}
    (hrows : response.rows = row :: more) (h : row.soleBool = .ok known) :
    Understood (.registrantExists registrant) response
  | selectActive (event : EventId) (registrant : RegistrantId) {response : Response} {r : Option Registration}
    (h : response.rows.head?.mapM registrationOfRow = .ok r) :
    Understood (.selectActive event registrant) response
  | countConfirmed (event : EventId) {response : Response} {row : Row} {more : List Row} {n : Int}
    (hrows : response.rows = row :: more) (h : row.soleInt8 = .ok n) (hn : 0 ≤ n ∧ n < UInt32.size) :
    Understood (.countConfirmed event) response
  | selectWaitlist (event : EventId) {response : Response} {queue : List Registration}
    (h : response.rows.mapM registrationOfRow = .ok queue) : Understood (.selectWaitlist event) response
  | insertRegistration (params : List Cell) (response : Response) :
    Understood (.insertRegistration params) response
  | updateRegistration (params : List Cell) {response : Response} (h : response.affected ≠ 0) :
    Understood (.updateRegistration params) response
  | updateCapacity (event : EventId) (capacity : Int) (response : Response) :
    Understood (.updateCapacity event capacity) response
  | insertMessage (params : List Cell) (response : Response) : Understood (.insertMessage params) response

namespace Answered

/-- The statement succeeded, and what came back was read. -/
def Went (x : Answered) : Prop := ∃ response, x.reply = .ok response ∧ Understood x.statement response

/-- A registration was read from what came back. -/
def Gave (x : Answered) (r : Registration) : Prop :=
  ∃ response row, x.reply = .ok response ∧ row ∈ response.rows ∧ registrationOfRow row = .ok r

/-- What was sent in the open transaction, if one is open after a statement. -/
def after (x : Answered) (open? : Option (List Answered)) : Option (List Answered) :=
  match x with
  | ⟨.begin, .ok _⟩ => some []
  | ⟨.begin, .error _⟩ => none
  | ⟨.commit, _⟩ | ⟨.rollback, _⟩ => none
  | ⟨.query _ _, _⟩ => open?.map (· ++ [x])

end Answered

/-- What was sent in the transaction that is open at the end of a log. -/
def opened (log : List Answered) : Option (List Answered) := log.foldl (fun open? x => x.after open?) none

/-- In a transaction everything went well. It wrote these registrations, and announced these events. -/
structure Progress (body : List Answered) (written : List Tracked) (told : List RegistrationEvent) : Prop where
  went : ∀ x ∈ body, x.Went
  writes : List.Forall₂ (fun x t => x.statement.Writes t.registration)
    (body.filter fun x => x.statement.writesRegistration) written
  recorded : ∀ t ∈ written, t.Recorded fun r => ∃ x ∈ body, x.Gave r
  announces : List.Forall₂ (fun x e => x.statement.Announces e)
    (body.filter fun x => x.statement.writesMessage) told

/-- The event that a transaction of a command is about: that of the command, that of the registration which was
looked up, or, for the seats that a capacity leaves free, that of the row which was read first. -/
inductive Concerns : Command → List Answered → EventId → Prop
  | register (event : EventId) (registrant : RegistrantId) (log : List Answered) :
    Concerns (.register event registrant) log event
  | promote (event : EventId) (log : List Answered) : Concerns (.promote event) log event
  | cancel (id : RegistrationId) {response : Response} {r : Registration}
    (h : response.rows.head?.mapM registrationOfRow = .ok (some r)) (log : List Answered) :
    Concerns (.cancel id) (⟨.selectRegistration id, .ok response⟩ :: log) r.eventId
  | confirm (id : RegistrationId) {response : Response} {r : Registration}
    (h : response.rows.head?.mapM registrationOfRow = .ok (some r)) (log : List Answered) :
    Concerns (.confirm id) (⟨.selectRegistration id, .ok response⟩ :: log) r.eventId
  | raise (event : EventId) (capacity : UInt32) (x : Answered) : Concerns (.increaseCapacity event capacity) [x] event
  | fill (event : EventId) (capacity : UInt32) (x y : Answered) {response : Response} {e : ScheduledEvent}
    (h : response.rows.head?.mapM eventOfRow = .ok (some e)) (log : List Answered) :
    Concerns (.increaseCapacity event capacity) (x :: y :: ⟨.selectEvent event, .ok response⟩ :: log) e.id

/-- What a command may send after all that was sent and answered before. -/
structure Allowed (c : Command) (log : List Answered) (s : Statement) : Prop where
  begins : s = .begin → opened log = none
  locks : opened log = some [] → ∃ event, Concerns c log event ∧ s = .lock event
  inside : s.writes → (opened log).isSome
  commits : s = .commit → ∃ body written, opened log = some body ∧ Progress body written (announced written)

/-- No commit went through. -/
def Uncommitted (log : List Answered) : Prop :=
  ∀ x ∈ log, x.statement = .commit → ∃ refusal, x.reply = .error refusal

/-- Between two commits a transaction begins. -/
def CommitsApart (log : List Answered) : Prop :=
  ∀ before between after x y, log = before ++ x :: between ++ y :: after → x.statement = .commit →
    y.statement = .commit → ∃ z ∈ between, z.statement = .begin

/-- All that a command sent was allowed, and if it failed and runs in one transaction nothing was committed. -/
structure Disciplined (c : Command) (log : List Answered) (result : Except AllocationError Allocation) : Prop where
  allowed : ∀ before x after, log = before ++ x :: after → Allowed c before x.statement
  commitsApart : CommitsApart log
  uncommitted : c.Single → ∀ e, result = .error e → Uncommitted log

end Sql
end Turnstile
