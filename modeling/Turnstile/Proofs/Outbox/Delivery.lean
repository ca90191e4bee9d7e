import Turnstile.Outbox.Call
import Turnstile.Store

/-! What outbox workers do to the rows of the outbox. -/

namespace Turnstile
namespace Store

/-- What the call of an outbox worker does to the store. -/
def deliver (s : Store) : OutboxCall → Store
  | .tryClaim m worker now cutoff => (s.tryClaim m worker now cutoff).2
  | .markProcessed m worker now => (s.markProcessed m worker now).2
  | .markRetry m worker attempts error next => (s.markRetry m worker attempts error next).2
  | .markFailed m worker attempts error => (s.markFailed m worker attempts error).2
  | .now | .count _ _ | .claimable _ _ _ | .publish _ _ => s

private theorem map_payload_updateMessage {id : MessageId} {allowed : OutboxMessage → Bool}
    {change : OutboxMessage → OutboxMessage} {outbox : List OutboxMessage}
    (h : ∀ m, (change m).payload = m.payload) :
    (updateMessage id allowed change outbox).2.map OutboxMessage.payload = outbox.map OutboxMessage.payload := by
  induction outbox with
  | nil => rfl
  | cons m rest ih =>
    rw [updateMessage]
    split
    · split
      · rw [List.map_cons, List.map_cons, h]
      · rfl
    · exact congrArg (_ :: ·) ih

/-- Workers change the state of rows, never what they say. -/
theorem deliver_eq (s : Store) (c : OutboxCall) : ∃ outbox, s.deliver c = { s with outbox } ∧
    outbox.map OutboxMessage.payload = s.outbox.map OutboxMessage.payload := by
  cases c with
  | tryClaim | markProcessed | markRetry | markFailed =>
    refine ⟨_, rfl, map_payload_updateMessage ?_⟩
    exact fun _ => rfl
  | _ => exact ⟨_, rfl, rfl⟩

end Store

end Turnstile
