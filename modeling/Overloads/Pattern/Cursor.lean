import Overloads.Number.Shortest
import Overloads.Pattern.Syntax
import Overloads.Text.Quoted

/-! Reading the text of an expression token by token. -/
namespace Overloads.Pattern

/-- What is wrong with the text of an expression. -/
inductive Fault where
  | malformed (what : String) (position : Option Nat)
  | repetitionTooLarge
  | incompatibleFlags
  | tooDeep
  /-- What stands before a place is wider than a search can go back. -/
  | tooWide
  deriving DecidableEq, Repr

/-- A character, or a backslash together with the character after it. -/
inductive Token where
  | plain (c : Char)
  | escape (c : Char)
  deriving DecidableEq, Repr

def Token.text : Token → List Char
  | .plain c => [c]
  | .escape c => ['\\', c]

/--
The text still to be read and what is known from the part already read. `groupCount` counts the whole
expression as a group; `outside` is that number where the outermost look-behind began. `awaited` are the
groups that conditions ask for by number, with their places.
-/
structure Cursor where
  rest : List Char
  position : Nat
  flags : Flags
  groupCount : Nat
  names : List (String × Nat)
  widths : List (Nat × Nat × Nat)
  outside : Option Nat
  awaited : List (Nat × Nat)

abbrev Reader := StateT Cursor (Except Fault)

namespace Reader

def failAt {α : Type} (what : String) (position : Nat) : Reader α :=
  throw (.malformed what (some position))

/-- Fails `offset` characters before the next token. -/
def fail {α : Type} (what : String) (offset : Nat) : Reader α := do
  failAt what ((← get).position - offset)

/-- The next token. -/
def peek : Reader (Option Token) := do
  match (← get).rest with
  | [] => return none
  | '\\' :: d :: _ => return some (.escape d)
  | c :: _ => return some (.plain c)

/-- A backslash at the end of the text is no token. -/
def checkToken : Reader Unit := do
  let c ← get
  if c.rest = ['\\'] then failAt "bad escape (end of pattern)" c.position

/-- The next token, which is passed. -/
def next : Reader (Option Token) := do
  let t ← peek
  let n := (t.map (·.text.length)).getD 0
  modify fun c => { c with rest := c.rest.drop n, position := c.position + n }
  checkToken
  return t

/-- Passes the next token if it is this character. -/
def accept (c : Char) : Reader Bool := do
  if (← peek) = some (.plain c) then
    let _ ← next
    return true
  else return false

/-- Passes up to `limit` characters that satisfy `holds`. -/
def takeWhile (holds : Char → Bool) : Nat → Reader (List Char)
  | 0 => return []
  | limit + 1 => do
    match ← peek with
    | some (.plain c) =>
      if holds c then
        let _ ← next
        return c :: (← takeWhile holds limit)
      else return []
    | _ => return []

/-- The digits that come next. -/
def digits : Reader (List Char) := do takeWhile Char.isDigit (← get).rest.length

/-- The text up to a terminator, which is passed. `read` is the text so far, within `fuel` tokens. -/
def takeUntil (terminator : Char) (what : String) (read : List Char) : Nat → Reader (List Char)
  | 0 => fail ("missing " ++ what) 0
  | fuel + 1 => do
    match ← next with
    | none =>
      if read.isEmpty then fail ("missing " ++ what) 0
      else fail ("missing " ++ String.singleton terminator ++ ", unterminated name") read.length
    | some t =>
      if t = .plain terminator then
        if read.isEmpty then fail ("missing " ++ what) 1 else return read
      else takeUntil terminator what (read ++ t.text) fuel

/-- The name up to a terminator. -/
def nameUntil (terminator : Char) (what : String) : Reader (List Char) := do
  takeUntil terminator what [] ((← get).rest.length + 1)

/-- Whether a group is complete. -/
def isClosed (number : Nat) : Reader Bool := do return ((← get).widths.lookup number).isSome

/-- Inside a look-behind only groups that were complete before it can be referred to. -/
def checkLookBehind (number : Nat) : Reader Unit := do
  match (← get).outside with
  | none => return ()
  | some outside =>
    if !(← isClosed number) then fail "cannot refer to an open group" 0
    if outside ≤ number then
      fail "cannot refer to group defined in the same lookbehind subpattern" 0

end Reader

end Overloads.Pattern
