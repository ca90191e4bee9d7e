import Turnstile.Bus
import Turnstile.Outbox.Settings
import Turnstile.Service

/-!
How errors are reported: by the name of their kind and by their text. The text of a database error is
left out, since it is the database's own.
-/

namespace Turnstile

structure ErrorReport where
  kind : String
  text : Option String := none
  deriving DecidableEq, Repr

namespace ErrorReport

def toJson (r : ErrorReport) : Json :=
  .object (("error", .string r.kind) :: (r.text.map fun t => ("message", .string t)).toList)

/-- The report of an error that another one caused: the kinds are joined, the text is the outer one. -/
def causing (inner : ErrorReport) (kind text : String) : ErrorReport :=
  ⟨s!"{kind}.{inner.kind}", inner.text.map fun _ => text⟩

end ErrorReport

def RegistrationError.kind : RegistrationError → String
  | .invalidTransition .. => "InvalidStateTransition"
  | .invalidPosition _ => "InvalidPosition"
  | .unknownStatus _ => "UnknownStatus"

def RegistrationError.report (e : RegistrationError) : ErrorReport := ⟨e.kind, some e.message⟩

def StoreError.report (e : StoreError) : ErrorReport :=
  match e with
  | .duplicateActive .. => ⟨"DuplicateActiveRegistration", some e.message⟩
  | .unavailable _ => ⟨"Unavailable", some e.message⟩
  | .corrupt _ => ⟨"Corrupt", some e.message⟩
  | .serialization _ => ⟨"Serialization", some e.message⟩
  | .database => ⟨"Database", none⟩

def AllocationError.report (e : AllocationError) : ErrorReport :=
  match e with
  | .conflict .. => ⟨"Conflict", some e.message⟩
  | .eventNotFound _ => ⟨"EventNotFound", some e.message⟩
  | .registrantNotFound _ => ⟨"RegistrantNotFound", some e.message⟩
  | .registrationNotFound _ => ⟨"RegistrationNotFound", some e.message⟩
  | .invalidState cause => cause.report.causing "InvalidState" e.message
  | .registrationClosed _ => ⟨"RegistrationClosed", some e.message⟩
  | .capacityExhausted .. => ⟨"CapacityExhausted", some e.message⟩
  | .invalidCapacity .. => ⟨"InvalidCapacity", some e.message⟩
  | .store cause => cause.report.causing "Store" e.message

def HandlerError.kind : HandlerError → String
  | .retryable _ => "Retryable"
  | .permanent _ => "Permanent"

def HandlerError.report (e : HandlerError) : ErrorReport := ⟨e.kind, some e.message⟩

def DispatchError.report (e : DispatchError) : ErrorReport :=
  match e with
  | .transient _ => ⟨"Transient", some e.message⟩
  | .handler cause => cause.report.causing "Handler" e.message
  | .serialization _ => ⟨"Serialization", some e.message⟩
  | .database => ⟨"Database", none⟩

def ServiceError.report (e : ServiceError) : ErrorReport :=
  match e with
  | .allocation cause => cause.report
  | .dispatch cause => cause.report.causing "Dispatch" e.message

def BusError.report (e : BusError) : ErrorReport :=
  match e with
  | .unavailable _ => ⟨"Unavailable", some e.message⟩
  | .publish .. => ⟨"Publish", some e.message⟩

def OutboxError.report (e : OutboxError) : ErrorReport :=
  match e with
  | .config _ => ⟨"Config", some e.message⟩
  | .store cause => cause.report.causing "Store" e.message

end Turnstile
