import Overloads.Failure
import Overloads.Member.Basic

/-! Clauses, sets of clauses for one number of arguments, and routines. -/
namespace Overloads

open Overloads.Number (decimalText)

/--
A member together with the arguments that it is tried on: exactly `arity` of them, or with `tail` any
number from `arity` on. An unguarded clause takes its arguments untested.
-/
structure Clause where
  member : Member
  arity : Nat
  tail : Bool
  guarded : Bool
  deriving BEq, Repr

/-- The types that the leading arguments are tested for. -/
def Clause.guardTypes (c : Clause) : List TypeRef := c.member.parameterTypes c.arity

/-- The clauses tried in order on `arity` arguments, or with `tail` on `arity` or more. -/
structure ClauseSet where
  arity : Nat
  clauses : List Clause
  owner : String
  memberName : String
  tail : Bool
  deriving BEq, Repr

namespace ClauseSet

def accepts (s : ClauseSet) (count : Nat) : Bool :=
  if s.tail then s.arity ≤ count else count = s.arity

/-- The same for any number, of which none below zero is accepted. -/
def acceptsCount (s : ClauseSet) (count : Int) : Bool := 0 ≤ count && s.accepts count.toNat

def noCandidates : String := "fixed clause set without candidates"

def wrongFixed : String := "fixed member does not take exactly the clause arity"

def wrongVariadic : String := "variadic member is not active at the clause arity"

def noVariadics : String := "tail clause set without variadic members"

def wrongAnchor : String := "tail member cannot anchor at the clause arity"

/-- Whether a member takes exactly `arity` arguments and no more. -/
def fitsFixed (arity : Int) (m : Member) : Bool := !m.isVariadic && m.parameterCount = arity

/-- Whether a member takes `arity` arguments and any number more. -/
def fitsVariadic (arity : Int) (m : Member) : Bool := m.isVariadic && m.parameterCount ≤ arity

/--
The clauses for exactly `arity` arguments: the fixed members first, then the variadic ones. A single
candidate for no arguments needs no guard.
-/
def fixed? (arity : Int) (fixed variadic : List Member) : Except Failure ClauseSet :=
  let fact : String × String := ("arity", decimalText arity)
  match fixed ++ variadic with
  | [] => .error (.broken noCandidates [fact])
  | first :: rest =>
    match fixed.find? (!fitsFixed arity ·) with
    | some m => .error (.broken wrongFixed [fact, ("member", m.descriptor)])
    | none =>
      match variadic.find? (!fitsVariadic arity ·) with
      | some m => .error (.broken wrongVariadic [fact, ("member", m.descriptor)])
      | none =>
        let guarded := !(arity = 0 && rest.isEmpty)
        .ok { arity := arity.toNat
              clauses := (first :: rest).map (⟨·, arity.toNat, false, guarded⟩)
              owner := first.owner.text
              memberName := first.name
              tail := false }

/-- The clauses for `arity` or more arguments, all of variadic members. -/
def tail? (arity : Int) (variadic : List Member) : Except Failure ClauseSet :=
  let fact : String × String := ("min_arity", decimalText arity)
  match variadic with
  | [] => .error (.broken noVariadics [fact])
  | first :: _ =>
    match variadic.find? (!fitsVariadic arity ·) with
    | some m => .error (.broken wrongAnchor [fact, ("member", m.descriptor)])
    | none =>
      .ok { arity := arity.toNat
            clauses := variadic.map (⟨·, arity.toNat, true, true⟩)
            owner := first.owner.text
            memberName := first.name
            tail := true }

end ClauseSet

/-- The names of the parameter types and of the result type of one member. -/
structure DeclaredSignature where
  params : List String
  returns : String
  deriving DecidableEq, Repr

/-- Everything that one name of a class can be called with. -/
structure Routine where
  name : String
  identifier : String
  memberName : String
  owner : String
  signatures : List DeclaredSignature
  clauseSets : List ClauseSet
  deriving BEq, Repr

namespace Routine

/-- The set for any larger number of arguments, which comes last if there is one. -/
def tail? (r : Routine) : Option ClauseSet :=
  match r.clauseSets.getLast? with
  | some s => if s.tail then some s else none
  | none => none

def fixedArities (r : Routine) : List Nat := (r.clauseSets.filter (!·.tail)).map (·.arity)

/-- The set tried on `count` arguments. -/
def clauseSetFor? (r : Routine) (count : Nat) : Option ClauseSet :=
  match r.clauseSets.find? fun s => !s.tail && s.arity = count with
  | some s => some s
  | none => r.tail?.filter (·.accepts count)

/-- The same for any number; no set is tried below zero. -/
def clauseSetForCount? (r : Routine) (count : Int) : Option ClauseSet :=
  if count < 0 then none else r.clauseSetFor? count.toNat

end Routine

end Overloads
