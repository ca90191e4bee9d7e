import Turnstile.Allocation
import Turnstile.Dispatch

/-!
The registration service: a command is allocated and committed first, and the events of what it changed
are dispatched afterwards. A failed dispatch leaves the commit in place.
-/

namespace Turnstile

inductive ServiceError where
  | allocation (cause : AllocationError)
  | dispatch (cause : DispatchError)
  deriving DecidableEq, Repr

def ServiceError.message : ServiceError → String
  | .allocation cause => cause.message
  | .dispatch cause => s!"Committed, but dispatch failed: {cause.message}"

inductive ServiceCall (η : Type) where
  | allocate (call : AllocatorCall)
  | dispatch (call : DispatchCall η)

@[reducible] def ServiceCall.Reply {η : Type} : ServiceCall η → Type
  | allocate call => call.Reply
  | dispatch call => call.Reply

abbrev Service (η α : Type) := ExceptT ServiceError (@Program (ServiceCall η) ServiceCall.Reply) α

namespace Service
variable {η α : Type}

def allocate (p : Allocate α) : Service η α :=
  ExceptT.mk (Except.mapError ServiceError.allocation <$>
    p.run.relay fun c => .call (.allocate c : ServiceCall η))

def dispatched (p : Dispatch η (α × Except DispatchError β)) : Service η α :=
  ExceptT.mk do
    let (a, outcome) ← p.relay fun c => .call (.dispatch c : ServiceCall η)
    pure (outcome.mapError ServiceError.dispatch |>.map fun _ => a)

/-- Runs a command and gives the registrations it changed, without the events that were dispatched. -/
def command (d : Dispatcher η) (c : Command) : Service η (List Tracked) := do
  let allocation ← allocate (Allocate.command c)
  if allocation.isNoop then pure allocation.changed else dispatched (d.dispatch allocation.changed)

def registrations (event : EventId) : Service η (List Registration) :=
  allocate (Allocate.registrations event)

end Service
end Turnstile
