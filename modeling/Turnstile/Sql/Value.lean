import Turnstile.Instant.Text
import Turnstile.Json
import Turnstile.Store.Error
import Turnstile.Uuid

/-!
Values of the columns of a database, as they are bound and read. Integers have 16, 32 or 64 bits with a sign,
and times travel in microseconds.
-/

namespace Turnstile.Sql

inductive ColumnType where
  | uuid | text | bool | int2 | int4 | int8 | timestamptz | jsonb
  deriving DecidableEq, Repr, Inhabited

namespace ColumnType

def name : ColumnType → String
  | .uuid => "uuid"
  | .text => "text"
  | .bool => "bool"
  | .int2 => "int2"
  | .int4 => "int4"
  | .int8 => "int8"
  | .timestamptz => "timestamptz"
  | .jsonb => "jsonb"

def all : List ColumnType := [.uuid, .text, .bool, .int2, .int4, .int8, .timestamptz, .jsonb]

def ofName? (text : String) : Option ColumnType := all.find? fun t => t.name = text

end ColumnType

inductive Value where
  | uuid (value : Uuid)
  | text (value : String)
  | bool (value : Bool)
  | int (value : Int)
  | time (value : Instant)
  | json (value : Json)
  /-- JSON that no reader takes. -/
  | unreadable
  deriving Repr

/-- A value, or the lack of one, with the type of its column. -/
structure Cell where
  type : ColumnType
  value : Option Value
  deriving Repr

/-- Times are counted in whole microseconds from the year 2000; what is left over is dropped. -/
def truncated (t : Instant) : Instant :=
  let origin : Int := 946684800 * 1_000_000_000
  (Instant.ofNanos? (origin + (t.nanos - origin).tdiv 1000 * 1000)).getD t

/-- Reads a number of a given width. -/
def signed? (bits : Nat) : Json → Option Int
  | .int n => if -Nat.pow 2 (bits - 1) ≤ n ∧ n < Nat.pow 2 (bits - 1) then some n else none
  | _ => none

/-- Reads the value of a column from JSON. -/
def Value.ofJson? (type : ColumnType) (j : Json) : Option Value :=
  match type with
  | .uuid => (j.string?.bind Uuid.ofString?).map .uuid
  | .text => j.string?.map .text
  | .bool => j.bool?.map .bool
  | .int2 => (signed? 16 j).map .int
  | .int4 => (signed? 32 j).map .int
  | .int8 => (signed? 64 j).map .int
  | .timestamptz => (Instant.ofJson? j).map fun t => .time (truncated t)
  | .jsonb => some ((j.any?.map .json).getD .unreadable)

namespace Cell

/-- Only a column of JSON can hold the JSON value null. -/
def ofJson? (type : ColumnType) (j : Json) : Option Cell :=
  if j.isNull && type ≠ .jsonb then some ⟨type, none⟩
  else (Value.ofJson? type j).map fun v => ⟨type, some v⟩

/-- What is sent of a value. Numbers of 64 bits are written as text. -/
def toJson (c : Cell) : Json :=
  match c.value with
  | none => .null
  | some (.uuid v) => .string v.hyphenated
  | some (.text v) => .string v
  | some (.bool v) => .bool v
  | some (.int v) => if c.type = .int8 then .string (toString v) else .int v
  | some (.time v) => (truncated v).toJson
  | some (.json v) => v
  | some .unreadable => .null

def uuid (v : Uuid) : Cell := ⟨.uuid, some (.uuid v)⟩

def id {kind : IdKind} (i : Id kind) : Cell := uuid i.uuid

def text (v : String) : Cell := ⟨.text, some (.text v)⟩

def bool (v : Bool) : Cell := ⟨.bool, some (.bool v)⟩

def int4 (v : Int) : Cell := ⟨.int4, some (.int v)⟩

def int8 (v : Int) : Cell := ⟨.int8, some (.int v)⟩

def time (v : Instant) : Cell := ⟨.timestamptz, some (.time v)⟩

def json (v : Json) : Cell := ⟨.jsonb, some (.json v)⟩

/-- A value must have the expected type; the lack of one is the same in every type. -/
def read (c : Cell) (type : ColumnType) (of? : Value → Option α) : Stored (Option α) :=
  match c.value with
  | none => .ok none
  | some v =>
    match of? v with
    | some a => if c.type = type then .ok (some a) else .error .database
    | none => .error .database

end Cell

/-- The cells of a row under the names of their columns. -/
abbrev Row := List (String × Cell)

namespace Row

def present : Option α → Stored α
  | some a => .ok a
  | none => .error .database

def optional (row : Row) (name : String) (type : ColumnType) (read : Value → Option α) :
    Stored (Option α) :=
  match row.lookup name with
  | some c => c.read type read
  | none => .error .database

def required (row : Row) (name : String) (type : ColumnType) (read : Value → Option α) : Stored α := do
  present (← row.optional name type read)

/-- The value of the first column, whatever its name. -/
def scalar (row : Row) (type : ColumnType) (read : Value → Option α) : Stored α := do
  match row with
  | (_, c) :: _ => present (← c.read type read)
  | [] => throw .database

def asUuid? : Value → Option Uuid
  | .uuid v => some v
  | _ => none

def asText? : Value → Option String
  | .text v => some v
  | _ => none

def asBool? : Value → Option Bool
  | .bool v => some v
  | _ => none

def asInt? : Value → Option Int
  | .int v => some v
  | _ => none

def asTime? : Value → Option Instant
  | .time v => some v
  | _ => none

def asJson? : Value → Option Json
  | .json v => some v
  | _ => none

def id {kind : IdKind} (row : Row) (name : String) : Stored (Id kind) :=
  Id.mk <$> row.required name .uuid asUuid?

def text (row : Row) (name : String) : Stored String := row.required name .text asText?

def bool (row : Row) (name : String) : Stored Bool := row.required name .bool asBool?

def soleBool (row : Row) : Stored Bool := row.scalar .bool asBool?

def int4 (row : Row) (name : String) : Stored Int := row.required name .int4 asInt?

def int8 (row : Row) (name : String) : Stored Int := row.required name .int8 asInt?

def soleInt8 (row : Row) : Stored Int := row.scalar .int8 asInt?

def time (row : Row) (name : String) : Stored Instant := row.required name .timestamptz asTime?

def json (row : Row) (name : String) : Stored Json := row.required name .jsonb asJson?

end Row
end Turnstile.Sql
