import Turnstile.Json
import Turnstile.Supply
import Turnstile.Uuid

/-!
Identifiers typed by what they name, and the supply that fresh ones are drawn from.
-/

namespace Turnstile

inductive IdKind where
  | event | registrant | registration | message
  deriving DecidableEq, Repr

structure Id (kind : IdKind) where
  uuid : Uuid
  deriving DecidableEq, Hashable, Repr, Inhabited

abbrev EventId := Id .event
abbrev RegistrantId := Id .registrant
abbrev RegistrationId := Id .registration
abbrev MessageId := Id .message

namespace Id
variable {kind : IdKind}

instance : ToString (Id kind) := ⟨fun i => i.uuid.hyphenated⟩

def compare (a b : Id kind) : Ordering := a.uuid.compare b.uuid

def toJson (i : Id kind) : Json := .string i.uuid.hyphenated

def ofJson? (j : Json) : Option (Id kind) := j.string?.bind fun s => (Uuid.ofString? s).map Id.mk

end Id

/-- The key of the lock that serializes changes to an event: its two words folded into one. -/
def EventId.lockKey (event : EventId) : Int64 := (event.uuid.high ^^^ event.uuid.low).toInt64

abbrev IdSupply := Supply Uuid

namespace IdSupply

/-- The identifier with number `n`, which keeps its low 48 bits. -/
def number (n : Int) : Uuid :=
  ⟨0x4000, 0x8000000000000000 + .ofNat (n % 281_474_976_710_656).toNat⟩

/-- Identifiers numbered `first`, `first + step`, and so on. -/
def counting (first step : Int) : IdSupply := { item := fun n => number (first + n * step) }

end IdSupply
end Turnstile
