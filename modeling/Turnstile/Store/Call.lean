import Turnstile.Metrics
import Turnstile.Outbox.Message
import Turnstile.Program
import Turnstile.Registration
import Turnstile.ScheduledEvent

/-!
The questions an allocation command asks: the time, fresh identifiers, reads of the store and the calls
on its open transaction.
-/

namespace Turnstile

/-- A call on an open transaction. `drop` gives it up without a word. -/
inductive TxCall where
  | lockEvent (event : EventId)
  | registrantExists (registrant : RegistrantId)
  | findActive (event : EventId) (registrant : RegistrantId)
  | getRegistration (registration : RegistrationId)
  | countConfirmed (event : EventId)
  | waitlist (event : EventId)
  | insertRegistration (registration : Registration)
  | updateRegistration (registration : Registration)
  | updateCapacity (event : EventId) (capacity : UInt32)
  | insertMessage (message : OutboxMessage)
  | commit
  | rollback
  | drop

@[reducible] def TxCall.Reply : TxCall → Type
  | lockEvent _ => Stored (Option ScheduledEvent)
  | registrantExists _ => Stored Bool
  | findActive _ _ | getRegistration _ => Stored (Option Registration)
  | countConfirmed _ => Stored UInt32
  | waitlist _ => Stored (List Registration)
  | insertRegistration _ | updateRegistration _ | updateCapacity _ _ | insertMessage _ => Stored Unit
  | commit | rollback => Stored Unit
  | drop => Unit

inductive AllocatorCall where
  | now
  | freshId
  | count (counter : Counter)
  | getEvent (event : EventId)
  | getRegistration (registration : RegistrationId)
  | listRegistrations (event : EventId)
  | begin
  | tx (call : TxCall)

@[reducible] def AllocatorCall.Reply : AllocatorCall → Type
  | now => Instant
  | freshId => Uuid
  | count _ => Unit
  | getEvent _ => Stored (Option ScheduledEvent)
  | getRegistration _ => Stored (Option Registration)
  | listRegistrations _ => Stored (List Registration)
  | begin => Stored Unit
  | tx call => call.Reply

end Turnstile
