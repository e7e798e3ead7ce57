import Overloads.Failure
import Overloads.Text.Blank
import Overloads.Text.LowerCase

/-! In which order members are taken. -/
namespace Overloads

open Overloads.Text

inductive OrderPolicy where
  /-- Sorted by name and descriptor. -/
  | sort
  /-- As declared. -/
  | trust
  deriving DecidableEq, Repr

namespace OrderPolicy

def text : OrderPolicy → String
  | .sort => "sort"
  | .trust => "trust"

/-- The policies by their names. -/
def names : List (String × OrderPolicy) :=
  [("sort", .sort), ("trust", .trust), ("sorted", .sort), ("declared", .trust)]

/-- The policy that a text names, in any case and with white space around it. -/
def ofText? (s : String) : Option OrderPolicy :=
  names.lookup (String.ofList (lowerText (trimmed s.toList)))

def unknown : String := "unknown order policy"

/-- The policy that a value names. -/
def normalize (v : Value) : Except Failure OrderPolicy :=
  match v.text.bind ofText? with
  | some p => .ok p
  | none => .error (.broken unknown [("policy", v.literal.getD "")])

def ofText (s : String) : Except Failure OrderPolicy := normalize (.str s)

end OrderPolicy

end Overloads
