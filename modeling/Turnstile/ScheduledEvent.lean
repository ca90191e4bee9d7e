import Turnstile.Id
import Turnstile.Instant.Text

/-!
Scheduled events with a number of seats, and the registrants who ask for one.
-/

namespace Turnstile

structure ScheduledEvent where
  id : EventId
  title : String
  capacity : UInt32
  published : Bool
  startsAt : Instant
  endsAt : Instant
  deriving DecidableEq, Repr

namespace ScheduledEvent

/-- Registration is open from publication until the event ends. -/
def isOpen (e : ScheduledEvent) (now : Instant) : Bool := e.published && decide (now < e.endsAt)

def publish (e : ScheduledEvent) : ScheduledEvent := { e with published := true }

def toJson (e : ScheduledEvent) : Json :=
  .object [("id", e.id.toJson), ("title", .string e.title), ("capacity", .nat e.capacity.toNat),
    ("published", .bool e.published), ("starts_at", e.startsAt.toJson), ("ends_at", e.endsAt.toJson)]

def ofJson? (j : Json) : Option ScheduledEvent := do
  let field ← j.record? ["id", "title", "capacity", "published", "starts_at", "ends_at"]
  some {
    id := ← Id.ofJson? (← field "id")
    title := ← (← field "title").string?
    capacity := ← (← field "capacity").uint32?
    published := ← (← field "published").bool?
    startsAt := ← Instant.ofJson? (← field "starts_at")
    endsAt := ← Instant.ofJson? (← field "ends_at") }

end ScheduledEvent

structure Registrant where
  id : RegistrantId
  identity : String
  deriving DecidableEq, Repr

namespace Registrant

def toJson (r : Registrant) : Json := .object [("id", r.id.toJson), ("identity", .string r.identity)]

def ofJson? (j : Json) : Option Registrant := do
  let field ← j.record? ["id", "identity"]
  some ⟨← Id.ofJson? (← field "id"), ← (← field "identity").string?⟩

end Registrant
end Turnstile
