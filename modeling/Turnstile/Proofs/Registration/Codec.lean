import Turnstile.Proofs.Instant.Reading
import Turnstile.Proofs.Registration.Event

/-!
Both written forms of an event carry the same payload, agree with it on what the event is, and give the event back.
-/

namespace Turnstile

/-- A payload names the type, the registration and the time that are given next to it. -/
structure Json.Bears (payload : Json) (type : String) (registration : Uuid) (time : Instant) : Prop where
  type : payload.field? "type" = some (.string type)
  registration : ((payload.field? "data").bind (field? "subject")).bind (field? "registration_id") =
    some (⟨registration⟩ : RegistrationId).toJson
  time : (payload.field? "data").bind (field? "occurred_at") = some time.toJson

namespace RegistrationEvent
variable (e : RegistrationEvent)

private theorem field?_occurredAt : e.data.field? "occurred_at" = some e.occurredAt.toJson := by
  cases e <;> simp [data, occurredAt, Json.field?, Table.lookup_cons_of_ne]

private theorem field?_registrationId (s : RegistrationRef) :
    s.toJson.field? "registration_id" = some s.registrationId.toJson := by
  simp [RegistrationRef.toJson, Json.field?]

theorem bears_toJson : e.toJson.Bears e.typeName e.subject.registrationId.uuid e.occurredAt where
  type := e.field?_type
  registration := by
    rw [e.field?_data, Option.bind_some, e.field?_subject, Option.bind_some, field?_registrationId]
  time := by rw [e.field?_data, Option.bind_some, e.field?_occurredAt]

/-- An event is read back as it was unless its time is a leap second within a minute. -/
theorem asWritten_eq_iff : e.asWritten = e ↔ (e.occurredAt.IsLeap → e.occurredAt.second % 60 = 59) := by
  rw [← Instant.hasText_iff, Instant.hasText_iff_asWritten]
  cases e <;> simp [asWritten, occurredAt]

theorem toJson_injective {e e' : RegistrationEvent} (he : e.occurredAt.IsLeap → e.occurredAt.second % 60 = 59)
    (he' : e'.occurredAt.IsLeap → e'.occurredAt.second % 60 = 59) (h : e'.toJson = e.toJson) : e' = e := by
  have hread := e'.ofJson?_toJson
  rw [h, e.ofJson?_toJson, e.asWritten_eq_iff.mpr he, e'.asWritten_eq_iff.mpr he'] at hread
  exact (Option.some.inj hread).symm

/-- Every event can be queued and can be put in the outbox, with one payload. The envelopes say what the payload
says, and the event is read back unless its time is a leap second within a minute. But for those, different events
have different payloads. -/
theorem codec (id row : MessageId) :
    ∃ q message, QueuedEvent.ofRecord id e.record = .ok q ∧ OutboxMessage.announcing e.record = .ok message ∧
      (q.decode = some e ↔ (e.occurredAt.IsLeap → e.occurredAt.second % 60 = 59)) ∧
      q.payload.Bears q.type q.aggregateId q.occurredAt ∧
      (message row).payload = q.payload ∧ (message row).messageType = q.type ∧
      (message row).createdAt = q.occurredAt ∧ (message row).nextAttemptAt = q.occurredAt ∧
      ∀ e' : RegistrationEvent, (e.occurredAt.IsLeap → e.occurredAt.second % 60 = 59) →
        (e'.occurredAt.IsLeap → e'.occurredAt.second % 60 = 59) → e'.record.payload = .ok q.payload → e' = e := by
  refine ⟨e.queued id, _, rfl, rfl, ?_, e.bears_toJson, rfl, rfl, rfl, rfl, fun e' he he' h => ?_⟩
  · rw [e.decode_queued, Option.some_inj, e.asWritten_eq_iff]
  · exact toJson_injective he he' (Except.ok.inj h)

/-- A leap second at the end of its minute is kept apart from the second after it. -/
theorem codec_endOfMinute :
    let subject : RegistrationRef := ⟨⟨⟨0, 1⟩⟩, ⟨⟨0, 2⟩⟩, ⟨⟨0, 3⟩⟩⟩
    let e := promoted subject 2 { second := 1435708799, nano := 1_500_000_000 }
    let e' := promoted subject 2 { second := 1435708800, nano := 500_000_000 }
    e.occurredAt.IsLeap ∧ e.occurredAt.second % 60 = 59 ∧
      ∃ q, QueuedEvent.ofRecord ⟨⟨0, 4⟩⟩ e.record = .ok q ∧ q.decode = some e ∧ e'.record.payload ≠ .ok q.payload := by
  intro subject e e'
  have hend : e.occurredAt.second % 60 = 59 := by decide
  obtain ⟨q, message, hq, -, hdecode, -, -, -, -, -, hpayload⟩ := codec e ⟨⟨0, 4⟩⟩ ⟨⟨0, 5⟩⟩
  refine ⟨by decide, hend, q, hq, hdecode.mpr fun _ => hend, fun hsame => ?_⟩
  have heq : e' = e := hpayload e' (fun _ => hend) (fun hleap => absurd hleap (by decide)) hsame
  exact absurd heq (by decide)

/-- A leap second within a minute is written as the second after it, so two events have one payload, and it is read
back as the other one. -/
theorem decode_withinMinute :
    let subject : RegistrationRef := ⟨⟨⟨0, 1⟩⟩, ⟨⟨0, 2⟩⟩, ⟨⟨0, 3⟩⟩⟩
    let e := confirmed subject { second := 0, nano := 1_333_333_333 }
    let e' := confirmed subject { second := 1, nano := 333_333_333 }
    e ≠ e' ∧ e.record.payload = e'.record.payload ∧
      ∃ q, QueuedEvent.ofRecord ⟨⟨0, 4⟩⟩ e.record = .ok q ∧ q.decode = some e' := by
  intro subject e e'
  refine ⟨by decide, ?_, e.queued ⟨⟨0, 4⟩⟩, rfl, ?_⟩
  · rfl
  · rw [e.decode_queued]
    rfl

end RegistrationEvent
end Turnstile
