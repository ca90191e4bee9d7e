import Turnstile.Text.GraphemeExtend
import Turnstile.Text.Printable

/-!
Quoted text for diagnostics. Quotes, backslashes and characters that show nothing of their own are
written as escapes.
-/

namespace Turnstile.Text

/-- The halfwidth sound marks extend a grapheme but stand beside it. -/
def isSoundMark (c : Char) : Bool := c = '\uff9e' || c = '\uff9f'

/-- Letters that fill a place without showing. -/
def isFiller (c : Char) : Bool := c ∈ ['\u115f', '\u1160', '\u3164', '\uffa0']

def isVisible (c : Char) : Bool :=
  isPrintable c && !isFiller c && (isSoundMark c || !isGraphemeExtend c)

def escaped : Char → List Char
  | '"' => ['\\', '"']
  | '\\' => ['\\', '\\']
  | '\t' => ['\\', 't']
  | '\n' => ['\\', 'n']
  | '\r' => ['\\', 'r']
  | '\x00' => ['\\', '0']
  | c => if isVisible c then [c] else "\\u\x7b".toList ++ Nat.toDigits 16 c.toNat ++ ['\x7d']

def quoted (s : String) : String := .ofList ('"' :: s.toList.flatMap escaped ++ ['"'])

end Turnstile.Text
