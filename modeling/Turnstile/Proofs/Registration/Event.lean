import Turnstile.Proofs.Instant.Text
import Turnstile.Proofs.Outbox.Roster
import Turnstile.Queue.Event

/-! Events of registrations as they are handed on, and what is read of them there. -/

namespace Turnstile

namespace RegistrationEvent

/-- The event as it is handed on under an identifier of its own. -/
def queued (id : MessageId) (e : RegistrationEvent) : QueuedEvent where
  id := id
  type := e.typeName
  aggregateType := aggregateType
  aggregateId := e.subject.registrationId.uuid
  occurredAt := e.occurredAt
  payload := e.toJson

/-- What is read of an event, with the time that was written. -/
def asWritten : RegistrationEvent → RegistrationEvent
  | confirmed s t => confirmed s t.asWritten
  | waitlisted s p t => waitlisted s p t.asWritten
  | promoted s p t => promoted s p t.asWritten
  | cancelled s status p t => cancelled s status p t.asWritten
  | positionChanged s p n t => positionChanged s p n t.asWritten

section
variable {unit : Json → Bool} {a b c d : Json} {s : RegistrationRef} {t : Instant} {p n : UInt32}
  (hs : RegistrationRef.ofJson? a = some s) (ht : Instant.ofJson? b = some t)
include hs ht

private theorem ofData?_confirmed :
    ofData? "RegistrationConfirmed" (.object [("subject", a), ("occurred_at", b)]) unit = some (.confirmed s t) := by
  simp [ofData?, Json.record?, Table.lookup_cons_of_ne, hs, ht]

private theorem ofData?_waitlisted (hp : c.uint32? = some p) :
    ofData? "RegistrationWaitlisted" (.object [("subject", a), ("position", c), ("occurred_at", b)]) unit =
      some (.waitlisted s p t) := by
  simp [ofData?, Json.record?, Table.lookup_cons_of_ne, hs, ht, hp]

private theorem ofData?_promoted (hp : c.uint32? = some p) :
    ofData? "RegistrationPromoted" (.object [("subject", a), ("previous_position", c), ("occurred_at", b)]) unit =
      some (.promoted s p t) := by
  simp [ofData?, Json.record?, Table.lookup_cons_of_ne, hs, ht, hp]

private theorem ofData?_cancelled {status : RegistrationStatus} {place : Option UInt32}
    (hc : RegistrationStatus.ofJson? unit c = some status) (hd : Json.optional? Json.uint32? (some d) = some place) :
    ofData? "RegistrationCancelled"
        (.object [("subject", a), ("previous_status", c), ("previous_position", d), ("occurred_at", b)]) unit =
      some (.cancelled s status place t) := by
  simp [ofData?, Json.record?, Table.lookup_cons_of_ne, hs, ht, hc, hd]

private theorem ofData?_positionChanged (hp : c.uint32? = some p) (hn : d.uint32? = some n) :
    ofData? "WaitlistPositionChanged"
        (.object [("subject", a), ("previous_position", c), ("new_position", d), ("occurred_at", b)]) unit =
      some (.positionChanged s p n t) := by
  simp [ofData?, Json.record?, Table.lookup_cons_of_ne, hs, ht, hp, hn]

end

variable (e : RegistrationEvent)

@[simp] theorem asWritten_subject : e.asWritten.subject = e.subject := by cases e <;> rfl

@[simp] theorem asWritten_typeName : e.asWritten.typeName = e.typeName := by cases e <;> rfl

theorem ofData?_data (unit : Json → Bool) : ofData? e.typeName e.data unit = some e.asWritten := by
  have hs := RegistrationRef.ofJson?_toJson e.subject
  have ht := Instant.ofJson?_toJson e.occurredAt
  cases e with
  | confirmed s t => exact ofData?_confirmed hs ht
  | waitlisted s p t => exact ofData?_waitlisted hs ht (uint32?_number p)
  | promoted s p t => exact ofData?_promoted hs ht (uint32?_number p)
  | cancelled s status p t =>
    exact ofData?_cancelled hs ht (RegistrationStatus.ofJson?_toJson unit status) (optional?_number p)
  | positionChanged s p n t => exact ofData?_positionChanged hs ht (uint32?_number p) (uint32?_number n)

/-- What is written of an event is read back. -/
theorem ofJson?_toJson : ofJson? e.toJson = some e.asWritten := by
  have htype : [("type", Json.string e.typeName), ("data", e.data)].lookup "type" = some (.string e.typeName) := by simp
  have hdata : [("type", Json.string e.typeName), ("data", e.data)].lookup "data" = some e.data := by
    simp [Table.lookup_cons_of_ne]
  rw [toJson, ofJson?, htype, hdata]
  simp only [Option.bind_eq_bind, Option.bind_some, Json.constant?]
  exact ofData?_data e Json.isEmpty

theorem decode_queued (id : MessageId) : (e.queued id).decode = some e.asWritten := ofJson?_toJson e

end RegistrationEvent
end Turnstile
