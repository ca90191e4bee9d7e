import Turnstile.Simulation.Turn

/-!
Outbox workers in a simulated world: single batches, and a worker that runs until it is stopped.
-/

namespace Turnstile.Simulation.World

/-- A row makes its topic reach for shared parts three times at most, and somebody has one in every turn. -/
def maxTurns (claimed : List OutboxMessage) : Nat := 3 * claimed.length + 1

/-- One batch of a new worker. -/
def batch (w : World) (s : OutboxSettings) (logging : Bool) : Except OutboxError BatchReport × World :=
  match s.check with
  | .error e => (.error e, w)
  | .ok () =>
    match (Deliver.claimDue s).run.exec (answerOutbox logging) w with
    | (.error e, w) => (.error (.store e), w)
    | (.ok (claimed, conflicts), w) =>
      let topics := (Deliver.publishing s claimed).map (·.relay (Move.ofCall logging))
      let (topics, w) := (Workshop.ofTopics w topics).run (maxTurns claimed)
      ((Deliver.report claimed conflicts topics).mapError .store, w)

/-- Whether a batch may have left rows behind, so that the next one follows at once. -/
def filled (s : OutboxSettings) : Except OutboxError BatchReport → Bool
  | .ok r => s.batchSize ≤ r.claimed + r.conflicts
  | .error _ => false

/-- Runs batches for `left` milliseconds, `limit` of them at most. -/
def batches (s : OutboxSettings) : (limit left : Nat) → World → World
  | 0, left, w => w.pass left
  | limit + 1, left, w =>
    if left = 0 then w
    else
      let (r, w) := w.batch s false
      if filled s r then batches s limit left w
      else
        let wait := min s.pollInterval.ticks left
        batches s limit (left - wait) (w.pass wait)

/-- More batches than any run makes. -/
def maxBatches : Nat := 1_000_000_000_000_000_000

/-- Runs a worker for `ms` milliseconds, in turns of its own; one that was stopped beforehand does
nothing. Its end is waited for. -/
def runOutbox (w : World) (s : OutboxSettings) (ms : Nat) (already : Bool) : Except OutboxError World :=
  s.check.map fun () => if already then (w.pass ms).access 1 else (batches s maxBatches ms w.newTurn).awake

end Turnstile.Simulation.World
