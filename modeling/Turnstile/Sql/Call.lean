import Turnstile.Bus
import Turnstile.Metrics
import Turnstile.Program
import Turnstile.Sql.Record

/-!
Statements to a database and what comes back. A transaction begins and ends by statements of its own.
-/

namespace Turnstile.Sql

inductive Statement where
  | begin | commit | rollback
  | query (text : String) (params : List Cell)
  deriving Repr

/-- How many rows a statement changed, and the rows it gave. -/
structure Response where
  affected : Nat := 0
  rows : List Row := []
  deriving Repr, Inhabited

/-- The database refuses a statement, perhaps for the sake of a constraint. -/
structure Refusal where
  constraint : Option String := none
  deriving DecidableEq, Repr

/-- The questions asked by work on a database. -/
inductive Call where
  | send (statement : Statement)
  | now
  | freshId
  | count (counter : Counter) (n : Nat)
  | publish (topic : String) (message : OutboxMessage)

@[reducible] def Call.Reply : Call → Type
  | send _ => Except Refusal Response
  | now => Instant
  | freshId => Uuid
  | count _ _ => Unit
  | publish _ _ => Except BusError Unit

abbrev Work (α : Type) := ExceptT StoreError (Program Call.Reply) α

namespace Work

def ask (c : Call) : Program Call.Reply c.Reply := .call c

def lift (r : Stored α) : Work α := ExceptT.mk (pure r)

/-- Sends a statement; `onRefusal` gives the error if it is refused. -/
def sendOr (onRefusal : Refusal → StoreError) (s : Statement) : Work Response :=
  ExceptT.mk (Except.mapError onRefusal <$> ask (.send s))

def send (s : Statement) : Work Response := sendOr (fun _ => .database) s

def execute (text : String) (params : List Cell) : Work Response := send (.query text params)

def rows (text : String) (params : List Cell) (read : Row → Stored α) : Work (List α) := do
  lift ((← execute text params).rows.mapM read)

/-- The first row, if there is one. -/
def row? (text : String) (params : List Cell) (read : Row → Stored α) : Work (Option α) := do
  lift ((← execute text params).rows.head?.mapM read)

/-- The first row, which must be there. -/
def row (text : String) (params : List Cell) (read : Row → Stored α) : Work α := do
  match (← execute text params).rows with
  | r :: _ => lift (read r)
  | [] => lift (.error .database)

/-- Whether a statement changed exactly one row. -/
def changesOne (text : String) (params : List Cell) : Work Bool := do
  return (← execute text params).affected = 1

end Work
end Turnstile.Sql
