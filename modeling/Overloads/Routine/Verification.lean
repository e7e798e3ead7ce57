import Overloads.Routine.Clause

/-! Checking that a routine answers every number of arguments that its members take. -/
namespace Overloads.Routine

open Overloads.Number (decimalText)

def outOfOrder : String := "fixed clause sets out of order"

def unreached : String := "member arity has no clause set"

def noTail : String := "variadic member has no tail clause set"

def gap : String := "arity gap below variadic tail"

def isIncreasing : List Nat → Bool
  | a :: b :: rest => a < b && isIncreasing (b :: rest)
  | _ => true

/-- The least number beyond the member's own and every fixed arity. -/
def beyond (r : Routine) (m : Member) : Nat := r.fixedArities.foldl max m.parameterCount + 1

/-- Checks one member against the sets of the routine. -/
def verifyMember (r : Routine) (m : Member) : Except Failure Unit :=
  let routine : String × String := ("routine", Text.quoted r.name)
  let reached (count : Nat) : Bool := (r.clauseSetFor? count).isSome
  if !reached m.parameterCount then
    .error (.broken unreached [routine, ("member", m.descriptor)])
  else if !m.isVariadic then .ok ()
  else if !reached (r.beyond m) then
    .error (.broken noTail [routine, ("member", m.descriptor)])
  else
    match (List.range' m.parameterCount (r.beyond m - m.parameterCount)).find? (!reached ·) with
    | some count => .error (.broken gap [routine, ("arity", decimalText count)])
    | none => .ok ()

/-- The fixed sets ascend, and every number of arguments that a member takes has a set. -/
def verify (r : Routine) (members : List Member) : Except Failure Unit :=
  if !isIncreasing r.fixedArities then
    .error (.broken outOfOrder [("routine", Text.quoted r.name),
      ("arities", "[" ++ ", ".intercalate (r.fixedArities.map fun (n : Nat) => decimalText n) ++ "]")])
  else members.forM r.verifyMember

end Overloads.Routine
