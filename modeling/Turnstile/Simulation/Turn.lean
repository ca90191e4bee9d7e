import Turnstile.Simulation.Move

/-!
The topics of a batch side by side. Each goes on until it ends, has to stand in line for a shared part, or
has one but finds the turn used up; then it keeps the part until the next turn. A part that was used goes
to the next in its line.
-/

namespace Turnstile.Simulation

/-- The topics of a batch at work, by number. Of those in line for a part the first has it. -/
structure Workshop (α : Type) where
  world : World
  topics : List (Program Move.Reply α)
  rows : List Nat := []
  bus : List Nat := []
  /-- Who was told to go on, in order. -/
  called : List Nat
  /-- Who found the turn used up, latest first. -/
  paused : List Nat := []

namespace Workshop
variable {α : Type}

def ofTopics (world : World) (topics : List (Program Move.Reply α)) : Workshop α where
  world := world
  topics := topics
  called := List.range topics.length

def line (s : Workshop α) : Part → List Nat
  | .rows => s.rows
  | .bus => s.bus

def setLine (s : Workshop α) (p : Part) (line : List Nat) : Workshop α :=
  match p with
  | .rows => { s with rows := line }
  | .bus => { s with bus := line }

/-- Stands in line, unless it does already. -/
def join (s : Workshop α) (p : Part) (n : Nat) : Workshop α :=
  if n ∈ s.line p then s else s.setLine p (s.line p ++ [n])

def call (s : Workshop α) (n : Nat) : Workshop α :=
  if n ∈ s.called then s else { s with called := s.called ++ [n] }

/-- Whoever has a part hands it on and tells the next in line. -/
def handOn (s : Workshop α) (p : Part) : Workshop α :=
  let rest := (s.line p).drop 1
  (rest.take 1).foldl call (s.setLine p rest)

def hasRoom (s : Workshop α) : Bool := s.world.spent < World.turnLength

/-- Topic `n` goes on. Nobody else does until it stops, so it may hand on a part as soon as it has it. -/
def goOn (n : Nat) : Program Move.Reply α → Workshop α → Program Move.Reply α × Workshop α
  | .done a, s => (.done a, s)
  | .ask (.reach p) next, s =>
    let s := s.join p n
    if (s.line p).head? ≠ some n then (.ask (.reach p) next, s)
    else if !s.hasRoom then (.ask (.reach p) next, { s with paused := n :: s.paused })
    else goOn n (next ()) { s.handOn p with world := s.world.access 1 }
  | .ask m next, s =>
    let (r, world) := s.world.make m
    goOn n (next r) { s with world }

def step (s : Workshop α) (n : Nat) : Workshop α :=
  match s.topics[n]? with
  | some rest =>
    let (rest, s) := goOn n rest s
    { s with topics := s.topics.set n rest }
  | none => s

def result? : Program Move.Reply α → Option α
  | .done a => some a
  | .ask _ _ => none

/-- How many topics have not come to their end. -/
def unfinished (s : Workshop α) : Nat := s.topics.countP fun t => (result? t).isNone

/-- Up to so many topics go on in order in every turn; of more only those that were called. -/
def fewTopics : Nat := 30

/-- Those that were called go on, until as many stopped as there are topics or nobody is called; an end
starts the count anew. At most `limit` steps are made. -/
def answerCalls : (limit stops : Nat) → Workshop α → Workshop α
  | limit + 1, stops + 1, s =>
    match s.called with
    | [] => s
    | n :: called =>
      let left := s.unfinished
      let s := step { s with called } n
      answerCalls limit (if s.unfinished < left then s.unfinished else stops) s
  | _, _, s => s

def turn (s : Workshop α) : Workshop α :=
  let n := s.topics.length
  if n ≤ fewTopics then (List.range n).foldl step s
  else answerCalls ((n + 1) * (n + 1)) s.unfinished s

def nextTurn (s : Workshop α) : Workshop α :=
  { s with world := s.world.newTurn, called := s.called ++ s.paused, paused := [] }

/-- Takes turns until all have come to their end; after `limit` turns the rest goes on without pause. -/
def run : (limit : Nat) → Workshop α → List α × World
  | 0, s => (s.topics.mapM fun t => t.exec World.make : StateM World (List α)).run s.world
  | limit + 1, s =>
    let s := s.turn
    match s.topics.mapM result? with
    | some results => (results, s.world)
    | none => run limit s.nextTurn

end Workshop
end Turnstile.Simulation
