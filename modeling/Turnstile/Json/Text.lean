import Turnstile.Json.Number
import Turnstile.Numeral

/-!
The text of JSON values. A text holds one value, with blanks around its parts; of several fields with
one name the last counts, and values nest at most 127 deep. An object whose first field has a reserved
name has no other field and stands for the value written in that field's text.
-/

namespace Turnstile.Json

abbrev Reader := StateT (List Char) Option

namespace Reader

def next : Reader Char := do
  match ← get with
  | c :: rest => set rest; pure c
  | [] => failure

/-- Skips one character of the given class, if there is one, and says whether there was. -/
def accept (p : Char → Bool) : Reader Bool := do
  match ← get with
  | c :: rest => if p c then set rest; pure true else pure false
  | [] => pure false

def expect (text : String) : Reader Unit := text.toList.forM fun c => do guard ((← next) = c)

def blanks : Reader Unit := modify (·.dropWhile fun c => c = ' ' ∨ c = '\t' ∨ c = '\n' ∨ c = '\r')

/-- The values of the digits of a numeral. -/
def digits : Reader (List Nat) := do
  let ds := (← get).takeWhile Char.isDigit
  guard (ds ≠ [])
  modify (·.drop ds.length)
  liftM (ds.mapM (Numeral.digit? 10))

def exponent : Reader (Option Int) := do
  if ← accept fun c => c == 'e' || c == 'E' then
    let negative := (← get).head? = some '-'
    discard <| accept fun c => c == '+' || c == '-'
    let n := Decimal.valueOf (← digits)
    return some (if negative then -n else n)
  else return none

/-- The characters of numbers. In a readable text none of them follows a number directly. -/
def numeric (c : Char) : Bool := c.isDigit || c ∈ ['-', '+', '.', 'e', 'E']

/-- Only a number without fraction, exponent and negative zero is an integer. -/
def number : Reader Json := do
  let literal := String.ofList ((← get).takeWhile numeric)
  let negative ← accept (· == '-')
  let whole ← digits
  guard (whole.length = 1 ∨ whole.head? ≠ some 0)
  let fraction ← if ← accept (· == '.') then digits else pure []
  let exponent ← exponent
  guard (Decimal.isFinite ⟨whole, fraction, exponent.getD 0⟩)
  if fraction ≠ [] ∨ exponent ≠ none then return .decimal literal
  let n : Int := if negative then -Decimal.valueOf whole else Decimal.valueOf whole
  if isInteger64 n ∧ ¬(negative ∧ n = 0) then return .int n
  return .decimal (literal ++ ".0")

def hexUnit : Reader Nat := do Numeral.value? 16 [← next, ← next, ← next, ← next]

/-- Characters beyond 16 bits are escaped as two surrogates, which stand for nothing alone. -/
def escaped : Reader Char := do
  match ← next with
  | '"' => pure '"'
  | '\\' => pure '\\'
  | '/' => pure '/'
  | 'b' => pure '\x08'
  | 'f' => pure '\x0c'
  | 'n' => pure '\n'
  | 'r' => pure '\r'
  | 't' => pure '\t'
  | 'u' =>
    let high ← hexUnit
    if 0xd800 ≤ high ∧ high < 0xdc00 then
      expect "\\u"
      let low ← hexUnit
      guard (0xdc00 ≤ low ∧ low < 0xe000)
      pure (.ofNat (0x10000 + (high - 0xd800) * 0x400 + (low - 0xdc00)))
    else
      guard (high < 0xdc00 ∨ 0xe000 ≤ high)
      pure (.ofNat high)
  | _ => failure

/-- How deep values may nest. -/
def maxDepth : Nat := 127

/-- The rest of a text whose opening quote was read, at most `limit` characters. -/
def textRest : (limit : Nat) → List Char → Reader String
  | 0, _ => failure
  | limit + 1, done => do
    match ← next with
    | '"' => pure (.ofList done.reverse)
    | '\\' => do textRest limit ((← escaped) :: done)
    | c => do
      guard (' ' ≤ c)
      textRest limit (c :: done)

def text (limit : Nat) : Reader String := do
  guard ((← next) = '"')
  textRest limit []

mutual

/-- Reads a value by at most `limit` nested steps, its texts of at most as many characters. -/
def value : (limit depth : Nat) → Reader Json
  | 0, _ => failure
  | limit + 1, depth => do
    blanks
    match (← get).head? with
    | some '\x7b' =>
      guard (depth ≠ 0)
      discard next
      blanks
      if ← accept (· == '\x7d') then pure (.object []) else fields limit (depth - 1) []
    | some '[' =>
      guard (depth ≠ 0)
      discard next
      blanks
      if ← accept (· == ']') then pure (.array []) else items limit (depth - 1) []
    | some '"' => .string <$> text limit
    | some 't' => expect "true"; pure (.bool true)
    | some 'f' => expect "false"; pure (.bool false)
    | some 'n' => expect "null"; pure .null
    | _ => number

def items : (limit depth : Nat) → List Json → Reader Json
  | 0, _, _ => failure
  | limit + 1, depth, done => do
    let v ← value limit depth
    blanks
    match ← next with
    | ',' => items limit depth (v :: done)
    | ']' => pure (.array (v :: done).reverse)
    | _ => failure

def fields : (limit depth : Nat) → List (String × Json) → Reader Json
  | 0, _, _ => failure
  | limit + 1, depth, done => do
    blanks
    let name ← text limit
    blanks
    expect ":"
    if done.isEmpty && name = enclosedName then
      blanks
      let inner ← text limit
      let (v, rest) ← (do let v ← value limit maxDepth; blanks; pure v : Reader Json).run inner.toList
      guard rest.isEmpty
      blanks
      expect "\x7d"
      return v
    let v ← value limit depth
    blanks
    let done := (name, v) :: done.filter fun f => f.1 ≠ name
    match ← next with
    | ',' => fields limit depth done
    | '\x7d' => pure (.object done.reverse)
    | _ => failure

end

end Reader

/-- Of two nested steps one takes a character, so twice their number is enough. -/
def parse? (s : String) : Option Json := do
  let text := s.toList
  let (v, rest) ← (do let v ← Reader.value (2 * text.length + 1) Reader.maxDepth; Reader.blanks; pure v).run text
  if rest.isEmpty then some v else none

def escape : Char → List Char
  | '"' => ['\\', '"']
  | '\\' => ['\\', '\\']
  | c => if c < ' ' then "\\u".toList ++ Numeral.padded 16 4 c.toNat else [c]

def quoted (s : String) : String := .ofList ('"' :: s.toList.flatMap escape ++ ['"'])

mutual

def render : Json → String
  | .null => "null"
  | .bool b => if b then "true" else "false"
  | .int n => toString n
  | .decimal literal => literal
  | .string s => quoted s
  | .array items => "[" ++ ",".intercalate (renderItems items) ++ "]"
  | .object fields => "\x7b" ++ ",".intercalate (renderFields fields) ++ "\x7d"

def renderItems : List Json → List String
  | [] => []
  | v :: rest => render v :: renderItems rest

def renderFields : List (String × Json) → List String
  | [] => []
  | (name, v) :: rest => (quoted name ++ ":" ++ render v) :: renderFields rest

end

end Turnstile.Json
