import Turnstile.Id
import Turnstile.Instant.Text

/-!
What the outbox and the queue need to know of any event: its type, the entity it is about, its time and
its written form, which may fail to exist.
-/

namespace Turnstile

structure EventRecord where
  type : String
  aggregateType : String
  aggregateId : Uuid
  occurredAt : Instant
  integration : Bool := false
  payload : Except String Json

end Turnstile
