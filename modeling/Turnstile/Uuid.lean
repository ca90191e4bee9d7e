import Turnstile.Numeral

/-!
Identifiers of 128 bits, as two words. They are printed hyphenated in lower case and read in the
hyphenated, plain, braced and URN spellings.
-/

namespace Turnstile

structure Uuid where
  high : UInt64
  low : UInt64
  deriving DecidableEq, Hashable, Repr, Inhabited

namespace Uuid

/-- The order of the 128-bit numbers. -/
def compare (a b : Uuid) : Ordering :=
  (Ord.compare a.high b.high).then (Ord.compare a.low b.low)

def digits (u : Uuid) : List Char :=
  Numeral.padded 16 16 u.high.toNat ++ Numeral.padded 16 16 u.low.toNat

def simple (u : Uuid) : String := String.ofList u.digits

/-- The widths of the hyphenated groups. -/
def groups : List Nat := [8, 4, 4, 4, 12]

def hyphenate : List Nat → List Char → List Char
  | [], digits => digits
  | [_], digits => digits
  | width :: rest, digits => digits.take width ++ '-' :: hyphenate rest (digits.drop width)

def hyphenated (u : Uuid) : String := String.ofList (hyphenate groups u.digits)

instance : ToString Uuid := ⟨hyphenated⟩

def ofDigits? (digits : List Char) : Option Uuid := do
  let high ← Numeral.value? 16 (digits.take 16)
  let low ← Numeral.value? 16 (digits.drop 16)
  if digits.length = 32 then some ⟨.ofNat high, .ofNat low⟩ else none

def unhyphenate? : List Nat → List Char → Option (List Char)
  | [], text => some text
  | [_], text => some text
  | width :: rest, text =>
    match text.drop width with
    | '-' :: text' => (unhyphenate? rest text').map (text.take width ++ ·)
    | _ => none

def ofHyphenated? (text : List Char) : Option Uuid :=
  (unhyphenate? groups text).bind ofDigits?

def urn : List Char := "urn:uuid:".toList

def ofChars? (text : List Char) : Option Uuid :=
  if text.length = 32 then ofDigits? text
  else if text.length = 36 then ofHyphenated? text
  else if text.length = 38 then
    if text.head? = some '{' ∧ text.getLast? = some '}' then ofHyphenated? (text.drop 1).dropLast
    else none
  else if text.length = 45 then
    if (text.take 9).map Char.toLower = urn then ofHyphenated? (text.drop 9) else none
  else none

def ofString? (s : String) : Option Uuid := ofChars? s.toList

end Uuid
end Turnstile
