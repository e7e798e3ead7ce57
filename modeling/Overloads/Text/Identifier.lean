/-! Identifiers made out of names. -/
namespace Overloads.Text

def keywords : List String := [
  "False", "None", "True", "and", "as", "assert", "async", "await", "break", "class", "continue",
  "def", "del", "elif", "else", "except", "finally", "for", "from", "global", "if", "import", "in",
  "is", "lambda", "nonlocal", "not", "or", "pass", "raise", "return", "try", "while", "with", "yield"]

def isIdentifierChar (c : Char) : Bool := c.isAlphanum || c = '_'

/-- Keeps what an identifier can hold. Nothing left, or a digit in front, calls for the fallback. -/
def identifierText (s fallback : String) : String :=
  match s.toList.filter isIdentifierChar with
  | [] => fallback
  | c :: cs =>
    if c.isDigit then fallback ++ String.ofList (c :: cs) else String.ofList (c :: cs)

/-- The identifier for a name: hyphens become underscores, and a keyword gets one at its end. -/
def identifier (name : String) (fallback : String) : String :=
  let s := identifierText (String.ofList (name.toList.map fun c => if c = '-' then '_' else c)) fallback
  if s ∈ keywords then s ++ "_" else s

/-- What identifiers start with where a name gives no start. -/
def defaultFallback : String := "routine"

/-- The first of `base2`, `base3`, … from `counter` on that is not taken, within `fuel` attempts. -/
def numbered (base : String) (taken : List String) (counter : Nat) : Nat → String
  | 0 => base ++ toString counter
  | fuel + 1 =>
    let name := base ++ toString counter
    if name ∈ taken then numbered base taken (counter + 1) fuel else name

/-- The base itself, or the first numbered form of it that is not taken. -/
def uniqueIdentifier (base : String) (taken : List String) : String :=
  if base ∈ taken then numbered base taken 2 taken.length else base

end Overloads.Text
