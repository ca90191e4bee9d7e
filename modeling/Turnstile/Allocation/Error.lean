import Turnstile.Registration.Status
import Turnstile.Store.Error

/-!
Why an allocation command was refused.
-/

namespace Turnstile

inductive AllocationError where
  | conflict (event : EventId) (registrant : RegistrantId)
  | eventNotFound (event : EventId)
  | registrantNotFound (registrant : RegistrantId)
  | registrationNotFound (registration : RegistrationId)
  | invalidState (cause : RegistrationError)
  | registrationClosed (event : EventId)
  | capacityExhausted (event : EventId) (capacity : UInt32)
  | invalidCapacity (event : EventId) (current requested : UInt32)
  | store (cause : StoreError)
  deriving DecidableEq, Repr

namespace AllocationError

/-- A second active registration is a conflict, whoever notices it. -/
def ofStore : StoreError → AllocationError
  | .duplicateActive event registrant => .conflict event registrant
  | e => .store e

def message : AllocationError → String
  | .conflict event registrant =>
    s!"Registrant {registrant} already has an active registration for event {event}"
  | .eventNotFound event => s!"Event not found: {event}"
  | .registrantNotFound registrant => s!"Registrant not found: {registrant}"
  | .registrationNotFound registration => s!"Registration not found: {registration}"
  | .invalidState cause => s!"Invalid state: {cause.message}"
  | .registrationClosed event => s!"Registration is closed for event {event}"
  | .capacityExhausted event capacity => s!"No free seat for event {event} (capacity {capacity})"
  | .invalidCapacity event current requested =>
    s!"Capacity of event {event} cannot shrink from {current} to {requested}"
  | .store cause => s!"Store error: {cause.message}"

end AllocationError
end Turnstile
