import Turnstile.Handler

/-!
Notices to registrants. Each queued event gives at most one, however often it is handled.
-/

namespace Turnstile

structure Notification where
  source : MessageId
  subject : RegistrationRef
  kind : String
  text : String
  deriving DecidableEq, Repr

namespace Notification

def describe : RegistrationEvent → String
  | .confirmed .. => "Your seat is confirmed."
  | .waitlisted _ position _ => s!"The event is full. You are number {position} on the waitlist."
  | .promoted .. => "A seat opened up and your registration is now confirmed."
  | .cancelled _ .waitlisted _ _ => "You have left the waitlist."
  | .cancelled .. => "Your registration has been cancelled."
  | .positionChanged _ _ new _ => s!"You moved up to number {new} on the waitlist."

/-- The notice that a queued event calls for. -/
def ofQueued? (e : QueuedEvent) : Option Notification :=
  e.decode.map fun event => ⟨e.id, event.subject, e.type, describe event⟩

def toJson (n : Notification) : Json :=
  .object [("source", n.source.toJson), ("registrant_id", n.subject.registrantId.toJson),
    ("registration_id", n.subject.registrationId.toJson), ("event_id", n.subject.eventId.toJson),
    ("kind", .string n.kind), ("text", .string n.text)]

end Notification

/-- Notices in the order in which they were first given. -/
abbrev NotificationLog := List Notification

namespace NotificationLog

/-- Adds a notice unless one with its source is there already. -/
def record (log : NotificationLog) (n : Notification) : NotificationLog :=
  if log.any fun m => m.source = n.source then log else log ++ [n]

def forRegistrant (log : NotificationLog) (registrant : RegistrantId) : List Notification :=
  log.filter fun n => n.subject.registrantId = registrant

/-- Handles an event by giving its notice. -/
def handle (log : NotificationLog) (e : QueuedEvent) : Except HandlerError Unit × NotificationLog :=
  match Notification.ofQueued? e with
  | some n => (.ok (), log.record n)
  | none => (.error (.permanent s!"undecodable {e.type}: {RegistrationEvent.refusal e.payload}"), log)

end NotificationLog
end Turnstile
