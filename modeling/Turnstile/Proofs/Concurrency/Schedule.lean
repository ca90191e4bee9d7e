import Turnstile.Allocation
import Turnstile.Store

/-!
Commands that run side by side on one store, either one call at a time in any order or one transaction at a
time.
-/

namespace Turnstile

/-- The calls that end a transaction. -/
def AllocatorCall.ends : AllocatorCall → Bool
  | .tx .commit | .tx .rollback | .tx .drop => true
  | _ => false

/-- The calls that leave their writes in the store. -/
def AllocatorCall.commits (s : Store) : AllocatorCall → Bool
  | .tx .commit => !s.failOnCommit
  | _ => false

abbrev Call := Program AllocatorCall.Reply (Except AllocationError Allocation)

/-- A command in progress: what is left of it, and what it has to itself. -/
structure Caller where
  program : Call
  tx : Tx := {}
  clock : Supply Instant
  ids : IdSupply
  metrics : Metrics := .empty

namespace Caller

def start (c : Command) (clock : Supply Instant) (ids : Nat → Uuid) : Caller where
  program := (Allocate.command c).run
  clock := clock
  ids := { item := ids }

def session (k : Caller) (store : Store) : Session :=
  { store, tx := k.tx, clock := k.clock, ids := k.ids, metrics := k.metrics }

def resume (program : Call) (s : Session) : Caller :=
  { program, tx := s.tx, clock := s.clock, ids := s.ids, metrics := s.metrics }

/-- The identifiers that a command has drawn so far. -/
def drawn (k : Caller) : List RegistrationId := (List.range k.ids.drawn).map fun n => ⟨k.ids.item n⟩

def result (k : Caller) : Option (Except AllocationError Allocation) :=
  match k.program with
  | .done a => some a
  | .ask _ _ => none

/-- Makes the next call of a command, unless it is done or has to wait for a lock. The flag says whether the
call committed a transaction. -/
def step (k : Caller) (store : Store) : Option (Store × Caller × Bool) :=
  match k.program with
  | .done _ => none
  | .ask op next =>
    match Session.answer op (k.session store) with
    | (some r, s) => some (s.store, resume (next r) s, op.commits store)
    | (none, _) => none

/-- Runs a command until it has ended a transaction or is done. -/
def runOn : Call → Session → Store × Caller × Bool
  | .done a, s => (s.store, resume (.done a) s, false)
  | .ask op next, s =>
    match Session.answer op s with
    | (some r, s') =>
      if op.ends then (s'.store, resume (next r) s', op.commits s.store) else runOn (next r) s'
    | (none, _) => (s.store, resume (.ask op next) s, false)

def turn (k : Caller) (store : Store) : Store × Caller × Bool := runOn k.program (k.session store)

end Caller

/-- Commands in progress on one store. `committed` are those that have committed a transaction, in this
order. -/
structure Config where
  store : Store
  callers : List Caller
  committed : List Nat := []

namespace Config

def update (c : Config) (i : Nat) : Store × Caller × Bool → Config
  | (store, k, committing) =>
    { store, callers := c.callers.set i k, committed := if committing then c.committed ++ [i] else c.committed }

/-- One call of the command with number `i`. -/
def step (c : Config) (i : Nat) : Config :=
  match c.callers[i]? with
  | some k => (k.step c.store).elim c (c.update i)
  | none => c

/-- One transaction of the command with number `i`, or what is left of it after its last one. -/
def turn (c : Config) (i : Nat) : Config :=
  match c.callers[i]? with
  | some k => c.update i (k.turn c.store)
  | none => c

/-- Commands that have not begun, each with a clock and a supply of identifiers of its own. -/
def start (store : Store) (calls : List (Command × Supply Instant × (Nat → Uuid))) : Config where
  store := store
  callers := calls.map fun (c, clock, ids) => .start c clock ids

def drawn (c : Config) : List RegistrationId := c.callers.flatMap Caller.drawn

/-- No identifier was drawn twice, and none is the one of a registration in `s`. -/
structure Fresh (c : Config) (s : Store) : Prop where
  nodup : c.drawn.Nodup
  unused : ∀ id ∈ c.drawn, s.registrations.get? id = none

end Config
end Turnstile
