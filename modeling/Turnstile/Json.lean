/-!
JSON values. An integer of 64 bits is kept exactly; any other number is kept as its literal, since no
format of this library reads one.
-/

namespace Turnstile

inductive Json where
  | null
  | bool (value : Bool)
  | int (value : Int)
  | decimal (literal : String)
  | string (value : String)
  | array (items : List Json)
  | object (fields : List (String × Json))
  deriving BEq, Repr, Inhabited

namespace Json

def nat (n : Nat) : Json := .int n

def option (encode : α → Json) : Option α → Json
  | none => .null
  | some a => encode a

def list (encode : α → Json) (items : List α) : Json := .array (items.map encode)

def string? : Json → Option String
  | .string s => some s
  | _ => none

def bool? : Json → Option Bool
  | .bool b => some b
  | _ => none

/-- Reads a non-negative integer below `bound`. -/
def below? (bound : Nat) : Json → Option Nat
  | .int n => if 0 ≤ n ∧ n < bound then some n.toNat else none
  | _ => none

def uint32? (j : Json) : Option UInt32 := (j.below? UInt32.size).map UInt32.ofNat

def array? : Json → Option (List Json)
  | .array items => some items
  | _ => none

def field? (name : String) : Json → Option Json
  | .object fields => fields.lookup name
  | _ => none

/-- The fields of a record, by name. A record is an object, in which other fields are ignored, or the
array of exactly its fields in order. -/
def record? (names : List String) : Json → Option (String → Option Json)
  | .object fields => some fun name => fields.lookup name
  | .array items =>
    if items.length = names.length then some fun name => (names.zip items).lookup name else none
  | _ => none

/-- The name of a field that stands for its whole object: the value is written in the field's text. -/
def enclosedName : String := "$serde_json::private::RawValue"

/-- Whether the reserved name is the least of some names. -/
def enclosedFirst (names : List String) : Bool :=
  names.contains enclosedName && names.all fun name => !decide (name < enclosedName)

mutual

/-- Whether a value that was read can be read again with all fields in the order of their names. -/
def rereadable : Json → Bool
  | .array items => rereadableItems items
  | .object fields => !enclosedFirst (fields.map Prod.fst) && rereadableFields fields
  | .null | .bool _ | .int _ | .decimal _ | .string _ => true

def rereadableItems : List Json → Bool
  | [] => true
  | v :: rest => rereadable v && rereadableItems rest

def rereadableFields : List (String × Json) → Bool
  | [] => true
  | (_, v) :: rest => rereadable v && rereadableFields rest

end

/-- A value of any kind within a record. -/
def any? (j : Json) : Option Json := if j.rereadable then some j else none

/-- An optional field may be absent or null. -/
def optional? (decode : Json → Option α) : Option Json → Option (Option α)
  | none | some .null => some none
  | some j => (decode j).map some

/-- The name of a constant: the text itself, or an object that maps only this name to a unit. -/
def constant? (unit : Json → Bool) : Json → Option String
  | .string name => some name
  | .object [(name, value)] => if unit value then some name else none
  | _ => none

def isNull : Json → Bool
  | .null => true
  | _ => false

/-- A unit within the content of a tagged value is null or the empty object. -/
def isEmpty : Json → Bool
  | .null | .object [] => true
  | _ => false

end Json
end Turnstile
