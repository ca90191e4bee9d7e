/-!
Endless supplies of values that are drawn one after the other: fresh identifiers, readings of a clock.
-/

namespace Turnstile

structure Supply (α : Type) where
  item : Nat → α
  /-- How many values were drawn so far. -/
  drawn : Nat := 0

namespace Supply
variable {α : Type}

instance [Inhabited α] : Inhabited (Supply α) := ⟨{ item := fun _ => default }⟩

/-- The supply that holds one value only, as often as it is asked for. -/
def constant (a : α) : Supply α := { item := fun _ => a }

/-- The value that is drawn next. -/
def next (s : Supply α) : α := s.item s.drawn

def skip (s : Supply α) (n : Nat) : Supply α := { s with drawn := s.drawn + n }

def draw (s : Supply α) : α × Supply α := (s.next, s.skip 1)

end Supply
end Turnstile
