import Turnstile.Simulation.World

/-!
Virtual time for the background processor. Whoever can go on does so in the order in which it was
woken; when nobody can, time jumps to the next alarm. Alarms for the same millisecond ring in the order
in which they were set.
-/

namespace Turnstile.Simulation

inductive Runner where
  | loop
  | task (n : Nat)
  deriving DecidableEq, Repr

structure Alarm where
  due : Nat
  runner : Runner
  deriving Repr

/-- A task that handles an event: able to go on, or within the delay of a scripted handler. -/
inductive Task where
  | able (rest : Handling HandlerRef Outcome)
  | handling (name : String) (act : HandlerAct) (event : QueuedEvent)
      (next : Except HandlerError Unit → Handling HandlerRef Outcome)

/-- Why a task does not go on. -/
inductive Pause where
  | ended
  | waits (ticks : Nat) (task : Task)

namespace Task

def proceed : Handling HandlerRef Outcome → World → Pause × World
  | Program.done _, w => (.ended, w)
  | Program.ask (.count c) next, w => proceed (next ()) (w.count c 1)
  | Program.ask (.sleep d) next, w =>
    if d.ticks = 0 then proceed (next ()) w else (.waits d.ticks (.able (next ())), w)
  | Program.ask (.handle .notifier e) next, w =>
    let (r, w) := w.notify e
    proceed (next r) w
  | Program.ask (.handle (.scripted name) e) next, w =>
    let (act, w) := w.enterHandler name
    let ticks := (w.handler name).delay.ticks
    if ticks ≠ 0 then (.waits ticks (.handling name act e next), w)
    else match w.leaveHandler name act e with
      | (some r, w) => proceed (next r) w
      | (none, w) => (.ended, w)

/-- Goes on until the task ends or has to wait again. -/
def wake : Task → World → Pause × World
  | .able rest, w => proceed rest w
  | .handling name act e next, w =>
    match w.leaveHandler name act e with
    | (some r, w) => proceed (next r) w
    | (none, w) => (.ended, w)

/-- A task that is given up leaves the handler it was in. -/
def cancel (t : Task) (w : World) : World :=
  match t with
  | .able _ => w
  | .handling name _ _ _ => w.setHandler name (w.handler name).leave

end Task

structure Schedule where
  world : World
  processor : Background Task
  now : Nat := 0
  /-- When shutdown is signalled. -/
  stopAt : Nat
  /-- Where the loop stands in its present attempt to take an event. -/
  consumer : Stage := .starting
  able : List Runner := [.loop]
  alarms : List Alarm := []

namespace Schedule

def stopped (s : Schedule) : Bool := s.stopAt ≤ s.now

def wake (s : Schedule) (r : Runner) : Schedule :=
  if r ∈ s.able then s else { s with able := s.able ++ [r] }

def setAlarm (s : Schedule) (ticks : Nat) (r : Runner) : Schedule :=
  { s with alarms := s.alarms ++ [⟨s.now + ticks, r⟩] }

def clearAlarm (s : Schedule) (r : Runner) : Schedule :=
  { s with alarms := s.alarms.filter fun a => a.runner ≠ r }

/-- Whether the loop still waits for its alarm. -/
def loopWaits (s : Schedule) : Bool := s.alarms.any fun a => a.runner = .loop

def withProcessor (s : Schedule) (b? : Option (Background Task)) : Schedule :=
  { s with processor := b?.getD s.processor }

/-- Hands the queue's answer to the loop. -/
def receive (s : Schedule) (r : Except DispatchError (Option QueuedEvent)) : Schedule :=
  let n := s.processor.started
  let start e := Task.able (Handling.handle s.world.dispatcher.queued s.world.background.retry e)
  let s := (s.withProcessor (s.processor.receive start r)).clearAlarm .loop
  match r with
  | .ok (some _) => s.wake (.task n)
  | .ok none => s
  | .error _ => s.setAlarm s.world.background.errorBackoff.ticks .loop

/-- Asks the queue, and waits if it is empty. -/
def askQueue (s : Schedule) : Schedule :=
  let (stage, queue) := s.consumer.advanceBy 0 s.stopped 8 s.world.queue
  let s := { s with consumer := stage, world := { s.world with queue } }
  match stage with
  | .finished e => s.receive (.ok e)
  | _ => s.setAlarm s.world.pollTimeout.ticks .loop

/-- The tasks that are left are given up. -/
def abandon (s : Schedule) : Schedule :=
  let world := s.processor.tasks.values.foldl (fun w t => t.cancel w) s.world
  let s := s.withProcessor s.processor.abandon
  { s with world, alarms := [], able := [] }

/-- Runs the loop until it has to wait, at most `limit` steps. -/
def runLoop : (limit : Nat) → Schedule → Schedule
  | 0, s => s
  | limit + 1, s =>
    match s.processor.stage with
    | .ready =>
      if s.stopped then
        let grace := s.world.background.shutdownGrace.ticks
        let s := s.withProcessor s.processor.observeShutdown
        runLoop limit (if grace = 0 then s else s.setAlarm grace .loop)
      else match s.processor.takeSlot with
        | none => s
        | some b => runLoop limit { s with processor := b, consumer := .starting }
    | .asking =>
      match s.consumer with
      | .waiting _ =>
        if s.stopped || !s.loopWaits then
          let (_, queue) := (s.consumer.giveUp 0 s.world.queue).getD (s.consumer, s.world.queue)
          let s := { s with world := { s.world with queue } }
          runLoop limit (s.receive (.ok none))
        else s
      | _ =>
        if s.world.failingDequeues ≠ 0 then
          let world := { s.world with failingDequeues := s.world.failingDequeues - 1 }
          { s with world }.receive (.error (.transient "injected dequeue"))
        else
          let s := s.askQueue
          if s.processor.stage = .asking then s else runLoop limit s
    | .backingOff =>
      if s.stopped || !s.loopWaits then
        runLoop limit ((s.withProcessor s.processor.resume).clearAlarm .loop)
      else s
    | .draining =>
      match s.processor.drained with
      | some b => { s with processor := b }.clearAlarm .loop
      | none => if s.loopWaits then s else s.abandon
    | .stopped => s

/-- A task that ended lets the loop look again. -/
def runTask (s : Schedule) (n : Nat) : Schedule :=
  match s.processor.tasks.get? n with
  | none => s
  | some t =>
    match t.wake s.world with
    | (.ended, world) =>
      let s := { s with world }.withProcessor (s.processor.finish n)
      if s.processor.stage = .ready ∨ s.processor.stage = .draining then s.wake .loop else s
    | (.waits ticks task, world) =>
      let tasks := s.processor.tasks.insert n task
      { s with world, processor := { s.processor with tasks } }.setAlarm ticks (.task n)

/-- Each event in the queue takes the loop two steps; a few more lead it to its next wait. -/
def loopLimit (s : Schedule) : Nat := 2 * s.world.queue.events.length + 8

def run1 (s : Schedule) : Runner → Schedule
  | .loop => s.runLoop s.loopLimit
  | .task n => s.runTask n

/-- The time of the next alarm or of the stop signal. -/
def nextTime? (s : Schedule) : Option Nat :=
  let times := s.alarms.map Alarm.due
  (if s.stopped then times else s.stopAt :: times).min?

/-- Jumps to a time and wakes whoever waits for it. The stop signal wakes the loop. -/
def jump (s : Schedule) (time : Nat) : Schedule :=
  let signalled := !s.stopped && s.stopAt ≤ time
  let (due, later) := s.alarms.partition fun a => a.due ≤ time
  let s := { s with now := time, world := s.world.pass (time - s.now), alarms := later }
  let s := due.foldl (fun s a => s.wake a.runner) s
  if signalled then s.wake .loop else s

/-- Runs until the loop has stopped, at most `limit` steps. -/
def run : (limit : Nat) → Schedule → Schedule
  | 0, s => s
  | limit + 1, s =>
    if s.processor.stage = .stopped then s
    else match s.able with
      | r :: rest => run limit ({ s with able := rest }.run1 r)
      | [] =>
        match s.nextTime? with
        | some time => run limit (s.jump time)
        | none => s

/-- More steps than any run makes. -/
def maxSteps : Nat := 1_000_000_000_000_000_000

end Schedule
end Turnstile.Simulation
