import Turnstile.Numeral

/-!
Percent-encoded text: a percent sign and two hexadecimal digits stand for one byte. A percent sign that
is not followed by two digits stands for itself.
-/

namespace Turnstile.Text

def percentBytes : List Char → List UInt8
  | [] => []
  | '%' :: a :: b :: rest =>
    match Numeral.value? 16 [a, b] with
    | some n => .ofNat n :: percentBytes rest
    | none => String.utf8EncodeChar '%' ++ percentBytes (a :: b :: rest)
  | c :: rest => String.utf8EncodeChar c ++ percentBytes rest

/-- The decoded text, if its bytes are UTF-8. -/
def percentDecoded? (text : String) : Option String :=
  String.fromUTF8? ⟨(percentBytes text.toList).toArray⟩

end Turnstile.Text
