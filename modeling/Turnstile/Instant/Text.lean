import Turnstile.Instant
import Turnstile.Json
import Turnstile.Numeral
import Turnstile.Text.Blank

/-!
The text of an instant. It is written in UTC with as few of 0, 3, 6 or 9 fraction digits as are exact.
It is read with any offset, with blanks around each part, and with one to two digits per part.
-/

namespace Turnstile.Instant

def fraction (nano : Nat) : List Char :=
  if nano = 0 then []
  else if nano % 1_000_000 = 0 then '.' :: Numeral.padded 10 3 (nano / 1_000_000)
  else if nano % 1_000 = 0 then '.' :: Numeral.padded 10 6 (nano / 1_000)
  else '.' :: Numeral.padded 10 9 nano

/-- Years outside 0 to 9999 carry a sign. -/
def yearText (year : Int) : List Char :=
  let n := year.natAbs
  let digits := Numeral.padded 10 (if n < 10_000 then 4 else if n < 100_000 then 5 else 6) n
  if year < 0 then '-' :: digits else if n < 10_000 then digits else '+' :: digits

def toChars (t : Instant) : List Char :=
  let date := Date.ofDays (t.second / 86400)
  let clock := (t.second % 86400).toNat
  let leap := if t.IsLeap then 1 else 0
  yearText date.year ++ '-' :: Numeral.padded 10 2 date.month ++ '-' :: Numeral.padded 10 2 date.day ++
    'T' :: Numeral.padded 10 2 (clock / 3600) ++ ':' :: Numeral.padded 10 2 (clock / 60 % 60) ++
    ':' :: Numeral.padded 10 2 (clock % 60 + leap) ++ fraction (t.nano % 1_000_000_000) ++ ['Z']

instance : ToString Instant := ⟨fun t => String.ofList t.toChars⟩

abbrev Reader := StateT (List Char) Option

namespace Reader

def blanks : Reader Unit := modify (·.dropWhile Text.isBlank)

/-- The remaining text must start with a character accepted by `p`. -/
def char (p : Char → Bool) : Reader Char := do
  match ← get with
  | c :: rest => if p c then set rest; pure c else failure
  | [] => failure

/-- A number of one to `limit` digits. -/
def number (limit : Nat) : Reader Nat := do
  let text ← get
  let digits := (text.take limit).takeWhile Char.isDigit
  guard (digits ≠ [])
  set (text.drop digits.length)
  Numeral.value? 10 digits

/-- A part of a date or time within its bounds, with blanks before it. -/
def part (limit low high : Nat) : Reader Nat := do
  blanks
  let n ← number limit
  guard (low ≤ n ∧ n ≤ high)
  pure n

def separator (c : Char) : Reader Unit := do
  blanks
  discard <| char (· == c)

/-- A year has four digits at most unless it is signed. -/
def year : Reader Int := do
  blanks
  match ← get with
  | '-' :: rest => set rest; return -(← number rest.length)
  | '+' :: rest => set rest; return ← number rest.length
  | _ => return ← number 4

/-- The date at the place of the offset lies within the same years as the instant itself. -/
def date : Reader Date := do
  let year ← year
  separator '-'
  let month ← part 2 1 12
  separator '-'
  let day ← part 2 1 31
  let date : Date := ⟨year, month, day⟩
  guard (firstYear ≤ year ∧ year ≤ lastYear ∧ date.Valid)
  pure date

/-- Digits of a fraction beyond the ninth are dropped. -/
def fraction : Reader Nat := do
  match ← get with
  | '.' :: rest =>
    set rest
    let n ← number 9
    let used := rest.length - (← get).length
    modify (·.dropWhile Char.isDigit)
    pure (n * Nat.pow 10 (9 - used))
  | _ => pure 0

/-- A clock reading as seconds of the day and nanoseconds; second 60 is a leap second. -/
def clock : Reader (Nat × Nat) := do
  let hour ← part 2 0 23
  separator ':'
  let minute ← part 2 0 59
  separator ':'
  let second ← part 2 0 60
  let nano ← fraction
  if second = 60 then pure (hour * 3600 + minute * 60 + 59, nano + 1_000_000_000)
  else pure (hour * 3600 + minute * 60 + second, nano)

def twoDigits (high : Nat) : Reader Nat := do
  let tens ← char Char.isDigit
  let ones ← char Char.isDigit
  let n ← Numeral.value? 10 [tens, ones]
  guard (n ≤ high)
  pure n

/-- The offset from UTC in seconds: a letter Z, the letters UTC, or signed hours and minutes. -/
def offset : Reader Int := do
  blanks
  let text ← get
  if (text.take 3).map Char.toUpper = "UTC".toList then set (text.drop 3); pure 0
  else match text with
  | c :: rest =>
    set rest
    if c = 'Z' ∨ c = 'z' then pure 0
    else
      guard (c = '+' ∨ c = '-' ∨ c = '\u2212')
      let hours ← twoDigits 23
      modify (·.dropWhile fun c => c == ':' || Text.isBlank c)
      let minutes ← twoDigits 59
      pure ((if c = '+' then 1 else -1) * (hours * 3600 + minutes * 60 : Int))
  | [] => failure

def instant : Reader Instant := do
  let date ← date
  discard <| char fun c => c == 'T' || c == 't' || c == ' '
  let (clock, nano) ← clock
  let offset ← offset
  blanks
  of? (date.toDays * 86400 + clock - offset) nano

end Reader

def ofChars? (text : List Char) : Option Instant := do
  let (t, rest) ← Reader.instant.run text
  if rest.isEmpty then some t else none

def toJson (t : Instant) : Json := .string (toString t)

def ofJson? (j : Json) : Option Instant := j.string?.bind fun s => ofChars? s.toList

end Turnstile.Instant
