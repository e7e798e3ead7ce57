import Overloads.Failure
import Overloads.Pattern.Matching
import Overloads.Pattern.Reading

/-! Searching texts, and joining several expressions into one. -/
namespace Overloads.Pattern

/-- The first match that starts at the place or after it, within `fuel` further characters. -/
def searchFrom (m : Matcher) : Nat → Place → Option Place
  | 0, p => m p some
  | fuel + 1, p =>
    match m p some with
    | some q => some q
    | none =>
      match p.rest with
      | [] => none
      | c :: rest => searchFrom m fuel { p with before := c :: p.before, rest := rest }

/-- Whether a text holds a match. -/
def Compiled.found (c : Compiled) (text : String) : Bool :=
  (searchFrom (runAll c.nodes c.flags) text.length (Place.start text.toList)).isSome

/-- What a fault in a text means to the user. -/
def Fault.failure (text : String) : Fault → Failure
  | .malformed what position => .badPattern text (complaint text what position)
  | .repetitionTooLarge => .repetitionTooLarge
  | .incompatibleFlags => .incompatibleFlags
  | .tooDeep => .tooDeep
  | .tooWide => .impossibleCode

/-- The expression that a text writes. -/
def ofText (text : String) : Except Failure Compiled :=
  match compile text with
  | .ok c => .ok c
  | .error fault => .error (fault.failure text)

def ofText? (text : Option String) : Except Failure (Option Compiled) :=
  match text with
  | none => .ok none
  | some s => (ofText s).map some

/-- One text for several: the alternatives of all of them. Each has to be well-formed by itself. -/
def combined (texts : List String) : Except Failure (Option String) := do
  texts.forM fun s => discard (ofText s)
  match texts with
  | [] => return none
  | [s] => return some s
  | _ => return some ("|".intercalate (texts.map fun s => "(?:" ++ s ++ ")"))

end Overloads.Pattern
