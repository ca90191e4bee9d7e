import Turnstile.Proofs.Sql.Rules

/-!
Tables of a database that gives back what was bound to it. Statements are read word by word: INSERT and UPDATE name
the columns that they bind, and a column that was never bound is NULL.
-/

namespace Turnstile.Sql

structure Column where
  name : String
  type : ColumnType
  nullable : Bool
  deriving DecidableEq, Repr

def eventsTable : List Column :=
  [⟨"id", .uuid, false⟩, ⟨"title", .text, false⟩, ⟨"capacity", .int4, false⟩, ⟨"published", .bool, false⟩,
   ⟨"starts_at", .timestamptz, false⟩, ⟨"ends_at", .timestamptz, false⟩]

def registrationsTable : List Column :=
  [⟨"id", .uuid, false⟩, ⟨"event_id", .uuid, false⟩, ⟨"registrant_id", .uuid, false⟩, ⟨"status", .text, false⟩,
   ⟨"position_in_queue", .int4, true⟩, ⟨"created_at", .timestamptz, false⟩, ⟨"updated_at", .timestamptz, false⟩]

def outboxTable : List Column :=
  [⟨"id", .uuid, false⟩, ⟨"message_type", .text, false⟩, ⟨"payload", .jsonb, false⟩, ⟨"status", .text, false⟩,
   ⟨"claimed_by", .text, true⟩, ⟨"claimed_at", .timestamptz, true⟩, ⟨"attempts", .int4, false⟩,
   ⟨"last_error", .text, true⟩, ⟨"next_attempt_at", .timestamptz, false⟩, ⟨"created_at", .timestamptz, false⟩,
   ⟨"processed_at", .timestamptz, true⟩]

/-- The words of a statement without the signs between them. -/
def words (text : String) : List String :=
  ((text.toList.splitOnP fun c => c ∈ [' ', ',', '(', ')', '=']).filter (· ≠ [])).map String.ofList

/-- The cells that were bound in a row under the names of their columns, the latest first. -/
abbrev Bound := List (String × Cell)

/-- The parameter that a placeholder stands for. -/
def parameter? (params : List Cell) (placeholder : String) : Option Cell :=
  (["$1", "$2", "$3", "$4", "$5", "$6", "$7"].zip params).lookup placeholder

/-- The columns of assignments with what is assigned. -/
def assigned? (params : List Cell) : List String → Option Bound
  | [] => some []
  | column :: placeholder :: rest => do
    return (column, ← parameter? params placeholder) :: (← assigned? params rest)
  | [_] => none

def Bound.uuid? (row : Bound) (column : String) : Option Uuid :=
  (row.lookup column).bind fun c => c.value.bind Row.asUuid?

/-- The row that an INSERT makes where there is none, or that an UPDATE leaves of the row whose key it names. -/
def written? (params : List Cell) : List String → Option Bound → Option Bound
  | "INSERT" :: "INTO" :: _ :: rest, none =>
    let columns := rest.takeWhile (· ≠ "VALUES")
    ((rest.drop (columns.length + 1)).mapM (parameter? params)).map columns.zip
  | "UPDATE" :: _ :: "SET" :: rest, some row => do
    let cells ← assigned? params (rest.takeWhile (· ≠ "WHERE"))
    let key ← assigned? params ((rest.dropWhile (· ≠ "WHERE")).drop 1)
    if key.all fun (column, _) => Bound.uuid? key column = row.uuid? column then some (cells ++ row) else none
  | _, _ => none

def Statement.leaves? (s : Statement) (row? : Option Bound) : Option Bound :=
  match s with
  | .query text params => written? params (words text) row?
  | .begin | .commit | .rollback => none

/-- The row as it is given: NULL has the type of its column. -/
def Bound.given (row : Bound) (table : List Column) : Row :=
  table.map fun c => (c.name, (row.lookup c.name).getD ⟨c.type, none⟩)

namespace Work
variable {α : Type}

/-- Work that sends one statement, and comes to an end with whatever is answered. -/
def Sends (w : Work α) (s : Statement) : Prop :=
  ∃ next, w.run = .ask (.send s) next ∧ ∀ reply, ∃ r, next reply = .done r

/-- Work that sends one statement, which leaves such a row. -/
def Leaves (w : Work α) (row? : Option Bound) (such : Bound → Prop) : Prop :=
  ∃ s row, w.Sends s ∧ s.leaves? row? = some row ∧ such row

theorem Leaves.imp {w : Work α} {row? : Option Bound} {such such' : Bound → Prop} (h : w.Leaves row? such)
    (hsuch : ∀ row, such row → such' row) : w.Leaves row? such' := by
  obtain ⟨s, row, hsends, hleaves, hrow⟩ := h
  exact ⟨s, row, hsends, hleaves, hsuch row hrow⟩

/-- Work that gives up on what it should store before it sends anything. -/
def Declines (w : Work α) : Prop := ∃ reason, w.run = .done (.error (.corrupt reason))

end Work

namespace Statement

def insertEvent (params : List Cell) : Statement :=
  .query s!"INSERT INTO events ({eventColumns}) VALUES ($1, $2, $3, $4, $5, $6)" params

variable (id event registrant status position created updated title capacity published starts ends type payload
  attempts next : Cell)

theorem leaves?_insertEvent :
    (insertEvent [id, title, capacity, published, starts, ends]).leaves? none =
      some [("id", id), ("title", title), ("capacity", capacity), ("published", published), ("starts_at", starts),
        ("ends_at", ends)] := by
  have hwords : words s!"INSERT INTO events ({eventColumns}) VALUES ($1, $2, $3, $4, $5, $6)" =
      ["INSERT", "INTO", "events", "id", "title", "capacity", "published", "starts_at", "ends_at",
       "VALUES", "$1", "$2", "$3", "$4", "$5", "$6"] := by decide +kernel
  rw [insertEvent, leaves?, hwords]
  rfl

theorem leaves?_insertRegistration :
    (insertRegistration [id, event, registrant, status, position, created, updated]).leaves? none =
      some [("id", id), ("event_id", event), ("registrant_id", registrant), ("status", status),
        ("position_in_queue", position), ("created_at", created), ("updated_at", updated)] := by
  have hwords : words s!"INSERT INTO registrations ({registrationColumns}) VALUES ($1, $2, $3, $4, $5, $6, $7)" =
      ["INSERT", "INTO", "registrations", "id", "event_id", "registrant_id", "status", "position_in_queue",
       "created_at", "updated_at", "VALUES", "$1", "$2", "$3", "$4", "$5", "$6", "$7"] := by decide +kernel
  rw [insertRegistration, leaves?, hwords]
  rfl

theorem leaves?_updateRegistration {id : Cell} {row : Bound} (hid : row.lookup "id" = some id) :
    (updateRegistration [id, status, position, updated]).leaves? (some row) =
      some ([("status", status), ("position_in_queue", position), ("updated_at", updated)] ++ row) := by
  have hwords :
      words "UPDATE registrations SET status = $2, position_in_queue = $3, updated_at = $4 WHERE id = $1" =
        ["UPDATE", "registrations", "SET", "status", "$2", "position_in_queue", "$3", "updated_at", "$4",
         "WHERE", "id", "$1"] := by decide +kernel
  have hkey : Bound.uuid? [("id", id)] "id" = row.uuid? "id" := by
    rw [Bound.uuid?, Bound.uuid?, hid]
    rfl
  have hwritten :
      (updateRegistration [id, status, position, updated]).leaves? (some row) =
        if [("id", id)].all fun (column, _) => Bound.uuid? [("id", id)] column = row.uuid? column then
          some ([("status", status), ("position_in_queue", position), ("updated_at", updated)] ++ row)
        else none := by
    rw [updateRegistration, leaves?, hwords]
    rfl
  rw [hwritten, if_pos]
  simpa using hkey

theorem leaves?_insertMessage :
    (insertMessage [id, type, payload, status, attempts, next, created]).leaves? none =
      some [("id", id), ("message_type", type), ("payload", payload), ("status", status), ("attempts", attempts),
        ("next_attempt_at", next), ("created_at", created)] := by
  have hwords :
      words ("INSERT INTO outbox_messages (id, message_type, payload, status, attempts, next_attempt_at, " ++
        "created_at) VALUES ($1, $2, $3, $4, $5, $6, $7)") =
      ["INSERT", "INTO", "outbox_messages", "id", "message_type", "payload", "status", "attempts",
       "next_attempt_at", "created_at", "VALUES", "$1", "$2", "$3", "$4", "$5", "$6", "$7"] := by decide +kernel
  rw [insertMessage, leaves?, hwords]
  rfl

end Statement
end Turnstile.Sql
