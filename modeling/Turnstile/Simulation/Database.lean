import Turnstile.Sql.Store

/-!
A database that answers by a script. It keeps what was sent to it; a statement beyond the script is
refused.
-/

namespace Turnstile.Simulation

inductive Control where
  | begin | commit | rollback
  deriving DecidableEq, Repr

namespace Control

def name : Control → String
  | .begin => "BEGIN"
  | .commit => "COMMIT"
  | .rollback => "ROLLBACK"

def ofName? : String → Option Control
  | "BEGIN" => some .begin
  | "COMMIT" => some .commit
  | "ROLLBACK" => some .rollback
  | _ => none

end Control

/-- What the script says to the next statement. A refusal of a control statement lets all other control
statements pass before it. -/
inductive ScriptedReply where
  | response (response : Sql.Response)
  | refusal (refusal : Sql.Refusal)
  | controlRefusal (control : Control) (refusal : Sql.Refusal)

namespace ScriptedReply

/-- The type of a column goes by its name unless it is given. -/
def columnType (types : List (String × Sql.ColumnType)) (name : String) : Sql.ColumnType :=
  (types.lookup name).getD <|
    if name ∈ ["id", "event_id", "registrant_id", "aggregate_id"] then .uuid
    else if name ∈ ["capacity", "position_in_queue", "attempts"] then .int4
    else if name = "count" then .int8
    else if name ∈ ["published", "exists"] then .bool
    else if name = "payload" then .jsonb
    else if name.endsWith "_at" then .timestamptz
    else .text

def types? : Option Json → Option (List (String × Sql.ColumnType))
  | none | some .null => some []
  | some (.object fields) => fields.mapM fun (name, t) => do
    some (name, ← t.string?.bind Sql.ColumnType.ofName?)
  | some _ => none

/-- Rows with the columns of the first one, in the order of their names. A column that a later row lacks
is NULL there. -/
def rows? (types : List (String × Sql.ColumnType)) (rows : List Json) : Option (List Sql.Row) := do
  let columns ← match rows.head? with
    | none => some []
    | some (.object fields) => some ((fields.map Prod.fst).mergeSort fun a b => a ≤ b)
    | some _ => none
  rows.mapM fun row => do
    let .object fields := row | none
    columns.mapM fun name => do
      let type := columnType types name
      match fields.lookup name with
      | none => some (name, ⟨type, none⟩)
      | some v => some (name, ← Sql.Cell.ofJson? type v)

def refusal? (j : Json) : Option Sql.Refusal := do
  discard (← j.field? "code").string?
  discard (Json.optional? Json.string? (j.field? "message"))
  some ⟨← Json.optional? Json.string? (j.field? "constraint")⟩

def ofJson? (j : Json) : Option ScriptedReply := do
  let .object _ := j | none
  match j.field? "control" with
  | some control =>
    some (.controlRefusal (← control.string?.bind Control.ofName?) (← refusal? (← j.field? "error")))
  | none =>
    match j.field? "error" with
    | some e => some (.refusal (← refusal? e))
    | none =>
      let affected ← Json.optional? (Json.below? UInt64.size) (j.field? "affected")
      let rows ← match j.field? "rows" with
        | some rows => rows? (← types? (j.field? "types")) (← rows.array?)
        | none => some []
      some (.response ⟨affected.getD 0, rows⟩)

end ScriptedReply

structure Database where
  replies : List ScriptedReply := []
  /-- The statements sent, oldest first. -/
  sent : List Sql.Statement := []
  now : Instant
  ids : IdSupply
  bus : Bus := {}
  /-- Transactions that are open, by name. -/
  txs : List String := []

namespace Database

def control (d : Database) (c : Control) : Except Sql.Refusal Sql.Response × Database :=
  match d.replies with
  | .controlRefusal expected refusal :: rest =>
    if expected = c then (.error refusal, { d with replies := rest }) else (.ok {}, d)
  | _ => (.ok {}, d)

def send (d : Database) (s : Sql.Statement) : Except Sql.Refusal Sql.Response × Database :=
  let d := { d with sent := d.sent ++ [s] }
  match s with
  | .begin => d.control .begin
  | .commit => d.control .commit
  | .rollback => d.control .rollback
  | .query _ _ =>
    match d.replies with
    | [] => (.error {}, d)
    | .response r :: rest => (.ok r, { d with replies := rest })
    | .refusal r :: rest | .controlRefusal _ r :: rest => (.error r, { d with replies := rest })

def answer (c : Sql.Call) (d : Database) : Option c.Reply × Database :=
  match c with
  | .send s =>
    let (r, d) := d.send s
    (some r, d)
  | .now => (some d.now, d)
  | .freshId =>
    let (id, ids) := d.ids.draw
    (some id, { d with ids })
  | .count _ _ => (some (), d)
  | .publish topic m =>
    let (r, bus) := d.bus.publish topic m
    (some r, { d with bus })

def run (d : Database) (p : Program Sql.Call.Reply α) : Option α × Database := p.run answer d

/-- Ends a step: what was sent, and how many replies were left over. -/
def settle (d : Database) : List Sql.Statement × Nat × Database :=
  (d.sent, d.replies.length, { d with sent := [], replies := [] })

end Database

def statementJson : Sql.Statement → Json
  | .begin => .object [("sql", .string Control.begin.name)]
  | .commit => .object [("sql", .string Control.commit.name)]
  | .rollback => .object [("sql", .string Control.rollback.name)]
  | .query text params => .object [("sql", .string text),
    ("params", .list (fun c : Sql.Cell => .array [.string c.type.name, c.toJson]) params)]

end Turnstile.Simulation
