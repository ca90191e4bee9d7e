/-!
Requests of operators: a method and a target. The target is a path on this server, perhaps with a query,
or names a server as well, or is a server alone, or is `*`. What stands behind `#` does not count.
-/

namespace Turnstile.Http

structure Request where
  method : String
  /-- The path of the target as it is written, empty for a server alone. -/
  path : String
  deriving DecidableEq, Repr

namespace Request

def isMethodChar (c : Char) : Bool := c.isAlphanum || c ∈ "!#$%&'*+-.^_`|~".toList

def isSchemeChar (c : Char) : Bool := c.isAlphanum || c ∈ "+-.~".toList

/-- What is neither a blank nor a control character. Beyond ASCII every character counts. -/
def isVisible (c : Char) : Bool := '!' ≤ c && c ≠ '\x7f'

def isPathChar (c : Char) : Bool := isVisible c && c ∉ "<>`".toList

def isQueryChar (c : Char) : Bool := isVisible c && c ∉ "\"<>".toList

/-- What was read of the name of a server, since its last `@` or closing bracket as to colons and
percent signs. -/
structure Authority where
  colons : Nat := 0
  percent : Bool := false
  opened : Bool := false
  closed : Bool := false

namespace Authority

def next (a : Authority) : Char → Option Authority
  | ':' => if a.colons < 8 then some { a with colons := a.colons + 1 } else none
  | '[' => if a.percent || a.opened then none else some { a with opened := true }
  | ']' =>
    if a.opened && !a.closed then some { a with colons := 0, percent := false, closed := true } else none
  | '@' => some { a with colons := 0, percent := false }
  | '%' => some { a with percent := true }
  | c => if c.isAlphanum || c ∈ "!$&'()*+,-.;=_~".toList then some a else none

/-- Only the part before an `@` and an address in brackets may hold percent signs or several colons. -/
def isWhole (a : Authority) : Bool := a.opened = a.closed && a.colons ≤ 1 && !a.percent

end Authority

def isAuthority (text : List Char) : Bool :=
  text ≠ [] && text.getLast? ≠ some '@' && (text.foldlM Authority.next {}).any Authority.isWhole

/-- The path before a query, if both are well-formed. -/
def localPath? (text : List Char) : Option (List Char) :=
  let path := text.takeWhile fun c => c ≠ '?' ∧ c ≠ '#'
  let query := (text.drop path.length).takeWhile (· ≠ '#')
  if path.all isPathChar && query.all isQueryChar then some path else none

def serverPath? (text : List Char) : Option (List Char) := do
  let authority := text.takeWhile fun c => c ∉ "/?#".toList
  guard (isAuthority authority)
  let path ← localPath? (text.drop authority.length)
  some (if path = [] then ['/'] else path)

def maxSchemeLength : Nat := 64

/-- The path of a target, if the target is well-formed. -/
def path? (text : List Char) : Option (List Char) :=
  if text = ['*'] then some text
  else if text.head? = some '/' then localPath? text
  else
    let scheme := text.takeWhile isSchemeChar
    match text.drop scheme.length with
    | ':' :: '/' :: '/' :: rest => if scheme.length ≤ maxSchemeLength then serverPath? rest else none
    | _ => if isAuthority text then some [] else none

/-- How many bytes a target may have. -/
def maxTargetSize : Nat := 65_534

def ofTarget? (method target : String) : Option Request := do
  guard (method ≠ "" ∧ method.toList.all isMethodChar)
  guard (target.utf8ByteSize ≤ maxTargetSize)
  some ⟨method, .ofList (← path? target.toList)⟩

end Request
end Turnstile.Http
