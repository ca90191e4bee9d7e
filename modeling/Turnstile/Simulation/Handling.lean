import Turnstile.Simulation.Schedule

/-!
Taking events from the queue of a simulated world and handling them, one by one or by the background
processor.
-/

namespace Turnstile.Simulation

/-- What happens elsewhere while a consumer waits for an event. -/
inductive Meanwhile where
  | nothing
  | stopped
  | stopAfter (ms : Nat)
  | feedAfter (ms : Nat) (event : QueuedEvent)

namespace World

/-- How long the next consumer may wait before it is stopped or its time is over. -/
def patience (w : World) : Meanwhile → Nat
  | .stopAfter ms => min ms w.pollTimeout.ticks
  | _ => w.pollTimeout.ticks

/-- A waiting consumer gives up after `ticks` more milliseconds. -/
def giveUp (w : World) (stage : Stage) (queue : Queue) (ticks : Nat) : Option QueuedEvent × World :=
  let (_, queue) := (stage.giveUp 0 queue).getD (stage, queue)
  (none, ({ w with queue }.pass ticks).awake)

/-- Takes the next event, and says how many milliseconds that took. -/
def dequeue (w : World) (m : Meanwhile) : Except DispatchError (Option QueuedEvent × Nat) × World :=
  if w.failingDequeues ≠ 0 then
    (.error (.transient "injected dequeue"), { w with failingDequeues := w.failingDequeues - 1 })
  else
    let stopped := m matches .stopped
    let patience := w.patience m
    let w := w.access (if stopped then 0 else 1)
    match Stage.starting.advanceBy 0 stopped 8 w.queue with
    | (.finished e, queue) => (.ok (e, 0), { w with queue })
    | (stage, queue) =>
      match m with
      | .feedAfter ms fed =>
        if ms < patience then
          let w := ({ w with queue := (queue.enqueue fed).2 }.pass ms).awake
          match stage.advanceBy 0 false 8 w.queue with
          | (.finished e, queue) => (.ok (e, ms), { w with queue })
          | (stage, queue) =>
            let (e, w) := w.giveUp stage queue (patience - ms)
            (.ok (e, patience), w)
        else
          let (e, w) := w.giveUp stage queue patience
          (.ok (e, patience), w)
      | _ =>
        let (e, w) := w.giveUp stage queue patience
        (.ok (e, patience), w)

/-- What is shown of a failure; the reason why an event cannot be decoded is left out. -/
def shownCause (e : QueuedEvent) (cause : HandlerError) : String :=
  let lead := (HandlerError.permanent s!"undecodable {e.type}: ").message
  if cause.message.startsWith lead then lead ++ "..." else cause.message

/-- Handles an event with retries, and says how many milliseconds that took. A handler that panics
leaves no outcome. -/
def process (w : World) (e : QueuedEvent) : Option (Outcome × Nat) × World :=
  let (outcome, after) := (Handling.handle w.dispatcher.queued w.background.retry e).run answerHandling w
  (outcome.map (·, after.waited - w.waited), after)

/-- Runs the background processor, which is told to stop after `ms` milliseconds or before it starts.
It may take longer to end; the time it took is given. -/
def runBackground (w : World) (ms : Nat) (already : Bool) : Nat × World :=
  let start : Schedule := {
    world := w, processor := .ofSettings w.background, stopAt := if already then 0 else ms }
  let s := start.run Schedule.maxSteps
  (max ms s.now, (s.world.pass (ms - s.now)).newTurn)

/-- Between two runs of the background processor every slot is free. -/
def slots (w : World) : Nat := (Background.ofSettings w.background : Background Task).free

end World
end Turnstile.Simulation
