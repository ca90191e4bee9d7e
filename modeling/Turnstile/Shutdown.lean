/-!
A shutdown channel: one trigger and any number of signals that observe it. Waiting ends when shutdown is
triggered or when the trigger is gone.
-/

namespace Turnstile

structure Shutdown where
  triggered : Bool := false
  /-- Whether the trigger still exists. -/
  armed : Bool := true
  /-- How many signals were handed out, the first with the channel. -/
  signals : Nat := 1
  deriving DecidableEq, Repr, Inhabited

namespace Shutdown

/-- Nothing happens once the trigger is gone. -/
def trigger (s : Shutdown) : Option Shutdown := if s.armed then some { s with triggered := true } else none

def drop (s : Shutdown) : Shutdown := { s with armed := false }

/-- A new signal with its number. -/
def clone (s : Shutdown) : Nat × Shutdown := (s.signals, { s with signals := s.signals + 1 })

/-- A new signal from the trigger, if that still exists. -/
def subscribe (s : Shutdown) : Option (Nat × Shutdown) := if s.armed then some s.clone else none

def waitEnds (s : Shutdown) : Bool := s.triggered || !s.armed

end Shutdown
end Turnstile
