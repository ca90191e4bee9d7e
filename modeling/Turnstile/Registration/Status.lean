import Turnstile.Json

/-!
The states of a registration. Only a waitlisted one can be promoted, and a cancelled one is final.
-/

namespace Turnstile

inductive RegistrationStatus where
  | confirmed | waitlisted | cancelled
  deriving DecidableEq, Repr, Inhabited

inductive RegistrationError where
  | invalidTransition (status : RegistrationStatus) (action : String)
  | invalidPosition (position : UInt32)
  | unknownStatus (text : String)
  deriving DecidableEq, Repr

namespace RegistrationStatus

def isActive : RegistrationStatus → Bool
  | .cancelled => false
  | _ => true

def canPromote : RegistrationStatus → Bool
  | .waitlisted => true
  | _ => false

def canCancel (s : RegistrationStatus) : Bool := s.isActive

def isTerminal : RegistrationStatus → Bool
  | .cancelled => true
  | _ => false

def name : RegistrationStatus → String
  | .confirmed => "Confirmed"
  | .waitlisted => "Waitlisted"
  | .cancelled => "Cancelled"

instance : ToString RegistrationStatus := ⟨name⟩

def ofName? : String → Option RegistrationStatus
  | "Confirmed" => some .confirmed
  | "Waitlisted" => some .waitlisted
  | "Cancelled" => some .cancelled
  | _ => none

def parse (text : String) : Except RegistrationError RegistrationStatus :=
  match ofName? text with
  | some s => .ok s
  | none => .error (.unknownStatus text)

def toJson (s : RegistrationStatus) : Json := .string s.name

/-- Reads a status; `unit` says what counts as a unit here. -/
def ofJson? (unit : Json → Bool) (j : Json) : Option RegistrationStatus :=
  (j.constant? unit).bind ofName?

end RegistrationStatus

def RegistrationError.message : RegistrationError → String
  | .invalidTransition status action =>
    s!"Invalid state transition: cannot {action} a {status} registration"
  | .invalidPosition position => s!"Invalid waitlist position: {position}"
  | .unknownStatus text => s!"Unknown registration status: {text}"

end Turnstile
