import Turnstile.Allocation.Error
import Turnstile.Metrics
import Turnstile.Outbox.Message
import Turnstile.Registration
import Turnstile.Text.Percent

/-!
The routes for operators and the answers they give. Any origin may read them.
-/

namespace Turnstile.Http

/-- What an operator asks for. The identifier of an event comes percent-encoded, if not empty. -/
inductive Route where
  | health
  | metrics
  | outboxStats
  | registrations (event : String)
  deriving DecidableEq, Repr

def Route.ofPath? (path : String) : Option Route :=
  match path.splitOn "/" with
  | ["", "health"] => some .health
  | ["", "metrics"] => some .metrics
  | ["", "outbox", "stats"] => some .outboxStats
  | ["", "events", event, "registrations"] => some (.registrations event)
  | _ => none

structure Response where
  status : Nat
  contentType : Option String := none
  /-- The body, if it is JSON. -/
  body : Option Json := none
  deriving Repr

namespace Response

def allowedOrigin : String := "*"

def json (status : Nat) (body : Json) : Response := ⟨status, some "application/json", some body⟩

def empty (status : Nat) : Response := { status }

def plain (status : Nat) : Response := { status, contentType := some "text/plain; charset=utf-8" }

def error (status : Nat) (reason : String) : Response := json status (.object [("error", .string reason)])

/-- A store that is unavailable may come back; anything else is a fault of the server. -/
def ofStoreError (e : StoreError) : Response :=
  match e with
  | .unavailable _ => error 503 e.message
  | _ => error 500 e.message

def ofAllocationError (e : AllocationError) : Response :=
  match e with
  | .eventNotFound _ => error 404 e.message
  | .store cause => ofStoreError cause
  | _ => error 400 e.message

def health (workerId : String) : Response :=
  json 200 (.object [("status", .string "ok"), ("worker_id", .string workerId)])

def metrics : Response := { status := 200, contentType := some "text/plain; version=0.0.4; charset=utf-8" }

def ofCounts : Except StoreError OutboxCounts → Response
  | .ok counts => json 200 counts.toJson
  | .error e => ofStoreError e

def ofRegistrations : Except AllocationError (List Registration) → Response
  | .ok registrations => json 200 (.list Registration.toJson registrations)
  | .error e => ofAllocationError e

def withoutBody (r : Response) : Response := { r with body := none }

end Response
end Turnstile.Http
