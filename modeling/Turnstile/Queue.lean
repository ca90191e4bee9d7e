import Turnstile.Handler

/-!
The queue in memory: events first in, first out, with any number of consumers that wait for one. A
consumer registers before it looks into the queue, so that an event added meanwhile wakes it.
-/

namespace Turnstile

/-- Wake-ups for registered consumers. One that finds nobody registered is kept for the next; there is
at most one of those. -/
structure Bell where
  stored : Bool := false
  /-- Registered consumers not yet woken, longest waiting first. -/
  waiting : List Nat := []
  woken : List Nat := []
  deriving DecidableEq, Repr, Inhabited

namespace Bell

def ring (b : Bell) : Bell :=
  match b.waiting with
  | c :: rest => { b with waiting := rest, woken := c :: b.woken }
  | [] => { b with stored := true }

/-- Registers a consumer; it takes a wake-up that is kept instead, if there is one. -/
def register (b : Bell) (c : Nat) : Bool × Bell :=
  if b.stored then (true, { b with stored := false }) else (false, { b with waiting := b.waiting ++ [c] })

/-- A woken consumer takes note of it. -/
def answer (b : Bell) (c : Nat) : Bell := { b with woken := b.woken.erase c }

/-- A consumer leaves; a wake-up it has not noted goes to another. -/
def leave (b : Bell) (c : Nat) : Bell :=
  if c ∈ b.woken then (b.answer c).ring else { b with waiting := b.waiting.erase c }

end Bell

structure Queue where
  events : List QueuedEvent := []
  disabled : Bool := false
  bell : Bell := {}
  deriving Inhabited

namespace Queue

/-- Adds an event, without yet waking anyone. -/
def push (q : Queue) (e : QueuedEvent) : Queue := { q with events := q.events ++ [e] }

def ring (q : Queue) : Queue := { q with bell := q.bell.ring }

def enqueue (q : Queue) (e : QueuedEvent) : Except DispatchError Unit × Queue :=
  if q.disabled then (.error (.transient "in-memory queue unavailable"), q)
  else (.ok (), (q.push e).ring)

def leave (q : Queue) (c : Nat) : Queue := { q with bell := q.bell.leave c }

end Queue

/-- Where a consumer stands in one attempt to take an event. `ready` says that it took a kept wake-up. -/
inductive Stage where
  | starting
  | entering
  | looking (ready : Bool)
  | waiting (ready : Bool)
  | finished (event : Option QueuedEvent)
  deriving Repr, Inhabited

namespace Stage

/-- Goes on with what needs no waiting. -/
def advance (c : Nat) (stopped : Bool) (q : Queue) : Stage → Stage × Queue
  | .starting => (if stopped then .finished none else .entering, q)
  | .entering =>
    let (ready, bell) := q.bell.register c
    (.looking ready, { q with bell })
  | .looking ready =>
    match q.events with
    | e :: rest =>
      let q := { q with events := rest }
      (.finished (some e), if ready then q else q.leave c)
    | [] => (.waiting ready, q)
  | .waiting true => (.starting, q)
  | .waiting false =>
    if c ∈ q.bell.woken then (.starting, { q with bell := q.bell.answer c }) else (.waiting false, q)
  | .finished e => (.finished e, q)

/-- A waiting consumer gives up, because its time is over or shutdown was signalled. -/
def giveUp (c : Nat) (q : Queue) : Stage → Option (Stage × Queue)
  | .waiting ready => some (.finished none, if ready then q else q.leave c)
  | _ => none

/-- Goes on for `n` steps. -/
def advanceBy (c : Nat) (stopped : Bool) : Nat → Stage → Queue → Stage × Queue
  | 0, stage, q => (stage, q)
  | n + 1, stage, q =>
    let (stage, q) := stage.advance c stopped q
    advanceBy c stopped n stage q

end Stage
end Turnstile
