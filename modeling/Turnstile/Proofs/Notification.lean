import Turnstile.Notification
import Turnstile.Proofs.Registration.Event

/-! Events that are handed on give their notice once, however often they are handled. -/

namespace Turnstile

namespace RegistrationEvent

/-- The notice that an event handed on under an identifier calls for: it says who and what it is about, and of which
type it is. -/
def notice (id : MessageId) (e : RegistrationEvent) : Notification where
  source := id
  subject := e.subject
  kind := e.typeName
  text := Notification.describe e

end RegistrationEvent

theorem Notification.describe_asWritten (e : RegistrationEvent) : describe e.asWritten = describe e := by
  cases e with
  | cancelled s status p t => cases status <;> rfl
  | _ => rfl

theorem Notification.ofQueued?_queued (e : RegistrationEvent) (id : MessageId) :
    ofQueued? (e.queued id) = some (e.notice id) := by
  rw [ofQueued?, RegistrationEvent.decode_queued, Option.map_some, RegistrationEvent.asWritten_subject,
    describe_asWritten]
  rfl

namespace NotificationLog
variable {log : NotificationLog} {n : Notification}

theorem record_new (h : n.source ∉ log.map Notification.source) : log.record n = log ++ [n] := by
  rw [record, if_neg]
  simpa using h

theorem record_old (h : n.source ∈ log.map Notification.source) : log.record n = log := by
  rw [record, if_pos]
  simpa using h

theorem handle_queued (log : NotificationLog) (e : RegistrationEvent) (id : MessageId) :
    log.handle (e.queued id) = (.ok (), log.record (e.notice id)) := by
  rw [handle, Notification.ofQueued?_queued]

/-- Handles events one after the other. -/
def handleAll (log : NotificationLog) (events : List QueuedEvent) : NotificationLog :=
  events.foldl (fun log q => (log.handle q).2) log

/-- Events that gave their notice give none again. -/
theorem handleAll_known {events : List QueuedEvent}
    (h : ∀ q ∈ events, ∃ e id, q = RegistrationEvent.queued id e ∧ id ∈ log.map Notification.source) :
    log.handleAll events = log := by
  induction events with
  | nil => rfl
  | cons q events ih =>
    obtain ⟨e, id, rfl, hid⟩ := h q List.mem_cons_self
    rw [handleAll, List.foldl_cons, handle_queued, record_old (show (e.notice id).source ∈ _ from hid)]
    exact ih fun q hq => h q (List.mem_cons_of_mem _ hq)

/-- An event that is handled again and again gives its notice once. -/
theorem handleAll_again {id : MessageId} (h : id ∉ log.map Notification.source) (e : RegistrationEvent) (n : Nat) :
    log.handleAll (List.replicate (n + 1) (e.queued id)) = log ++ [e.notice id] := by
  rw [List.replicate_succ, handleAll, List.foldl_cons, handle_queued,
    record_new (show (e.notice id).source ∉ _ from h)]
  refine handleAll_known fun q hq => ⟨e, id, List.eq_of_mem_replicate hq, ?_⟩
  rw [List.map_append]
  exact List.mem_append_right _ (List.mem_singleton_self id)

end NotificationLog
end Turnstile
