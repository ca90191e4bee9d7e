import Turnstile.Background.Retrying
import Turnstile.Settings

/-!
The background processor as a system of steps. Its loop takes a slot, asks the queue for an event and
hands slot and event to a task of their own. Once shutdown is signalled it waits for the tasks, though
no longer than the grace period. A step that does not apply gives `none`.
-/

namespace Turnstile

/-- What the loop does next. It holds a slot while it asks the queue and while it backs off. -/
inductive LoopStage where
  | ready | asking | backingOff | draining | stopped
  deriving DecidableEq, Repr, Inhabited

/-- The processor with its running tasks, whose state is of type `τ`. -/
structure Background (τ : Type) where
  free : Nat
  stage : LoopStage := .ready
  tasks : Table Nat τ := .empty
  /-- How many tasks were started so far; they are numbered from zero. -/
  started : Nat := 0

namespace Background
variable {τ : Type}

/-- Slots are counted with 61 bits. -/
def maxSlots : Nat := 2_305_843_009_213_693_951

/-- There is always at least one slot. -/
def ofSettings (s : BackgroundSettings) : Background τ := { free := max 1 s.maxConcurrency }

def holdsSlot (b : Background τ) : Bool := b.stage = .asking ∨ b.stage = .backingOff

def takeSlot (b : Background τ) : Option (Background τ) :=
  if b.stage = .ready ∧ 0 < b.free then some { b with stage := .asking, free := b.free - 1 } else none

def releaseSlot (b : Background τ) : Background τ := { b with stage := .ready, free := b.free + 1 }

/-- Takes in what the queue answered. An event starts a task, which keeps the slot. -/
def receive (b : Background τ) (start : QueuedEvent → τ) :
    Except DispatchError (Option QueuedEvent) → Option (Background τ)
  | answer =>
    if b.stage = .asking then
      match answer with
      | .ok (some e) => some { b with
          stage := .ready, tasks := b.tasks.insert b.started (start e), started := b.started + 1 }
      | .ok none => some b.releaseSlot
      | .error _ => some { b with stage := .backingOff }
    else none

/-- Ends the wait after the queue failed. -/
def resume (b : Background τ) : Option (Background τ) :=
  if b.stage = .backingOff then some b.releaseSlot else none

/-- Shutdown is only noticed between two events. -/
def observeShutdown (b : Background τ) : Option (Background τ) :=
  if b.stage = .ready then some { b with stage := .draining } else none

/-- A task ends, by an outcome or a panic, and frees its slot. -/
def finish (b : Background τ) (task : Nat) : Option (Background τ) :=
  if b.tasks.contains task then some { b with tasks := b.tasks.erase task, free := b.free + 1 } else none

/-- The loop ends once no task is left. -/
def drained (b : Background τ) : Option (Background τ) :=
  if b.stage = .draining ∧ b.tasks.size = 0 then some { b with stage := .stopped } else none

/-- The grace period is over: the remaining tasks are given up. -/
def abandon (b : Background τ) : Option (Background τ) :=
  if b.stage = .draining then
    some { b with stage := .stopped, tasks := .empty, free := b.free + b.tasks.size }
  else none

end Background
end Turnstile
