import Turnstile.Id

/-!
What can go wrong in a store.
-/

namespace Turnstile

inductive StoreError where
  | duplicateActive (event : EventId) (registrant : RegistrantId)
  | unavailable (reason : String)
  | corrupt (reason : String)
  | serialization (reason : String)
  /-- The database refused a statement or sent a row of another shape. -/
  | database
  deriving DecidableEq, Repr

def StoreError.message : StoreError → String
  | .duplicateActive event registrant =>
    s!"Registrant {registrant} already has an active registration for event {event}"
  | .unavailable reason => s!"Store unavailable: {reason}"
  | .corrupt reason => s!"Corrupt row: {reason}"
  | .serialization reason => s!"Serialization error: {reason}"
  | .database => "Database error"

abbrev Stored (α : Type) := Except StoreError α

end Turnstile
