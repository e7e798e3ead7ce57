import Overloads.Class.Names
import Overloads.Hook.Basic
import Overloads.Routine.Documentation

/-! Source code of routines as a tree, and the tree that a routine is written as. -/
namespace Overloads.Source

/--
An expression about the arguments `args` of the function, or about one `item` of them. Hooks and classes
are given by their dotted paths.
-/
inductive Expr where
  | argument (index : Nat)
  | item
  | coerced (hook : String) (e : Expr) (target : String)
  | cast (c : Cast) (e : Expr)
  deriving DecidableEq, Repr

/-- A test: of one expression, or of each argument from `start` on. -/
inductive Test where
  | isInstance (e : Expr) (path : String)
  | allInstances (start : Nat) (e : Expr) (path : String)
  deriving DecidableEq, Repr

/-- What is passed to a target: one value, the arguments from `start` on, or something for each of them. -/
inductive Passed where
  | one (e : Expr)
  | rest (start : Nat)
  | each (start : Nat) (e : Expr)
  deriving DecidableEq, Repr

structure Invocation where
  path : String
  passed : List Passed
  deriving DecidableEq, Repr

/-- Where no test succeeds: an invocation without a test, or an error about the owner's member. -/
inductive Ending where
  | call (i : Invocation)
  | refusal (owner memberName : String)
  deriving DecidableEq, Repr

/-- The code for one clause set: invocations that are reached if their tests succeed, and then its end. -/
structure Block where
  arity : Nat
  orMore : Bool
  branches : List (List Test × Invocation)
  ending : Ending
  deriving DecidableEq, Repr

/-- The code for a routine. Arguments that no block takes give an error about the owner's member. -/
structure Definition where
  name : String
  documentation : Option String
  blocks : List Block
  owner : String
  memberName : String
  deriving DecidableEq, Repr

/-- The expression coerced by the hook with this path, if there is one. -/
def coercedBy (hook : Option String) (e : Expr) (t : TypeRef) : Expr :=
  match hook with
  | some path => .coerced path e t.boxed.text
  | none => e

def castFor (t : TypeRef) (e : Expr) : Expr :=
  match t.cast? with
  | some c => .cast c e
  | none => e

def guardTests (hook : Option String) (c : Clause) : List Test :=
  let leading := c.guardTypes.mapIdx fun i t =>
    Test.isInstance (coercedBy hook (.argument i) t) t.boxed.text
  let element := c.member.varargs.getD .object
  if c.tail then
    leading ++ [.allInstances c.arity (coercedBy hook .item element) element.boxed.text]
  else leading

def invocation (hook : Option String) (c : Clause) : Invocation :=
  let m := c.member
  let leading := m.declared.mapIdx fun i t =>
    Passed.one (castFor t (coercedBy hook (.argument i) t))
  let further := match m.varargs with
    | none => []
    | some t =>
      match hook with
      | none => [.rest m.parameterCount]
      | some _ => [.each m.parameterCount (coercedBy hook .item t)]
  ⟨m.path, leading ++ further⟩

/-- The end of the code for a clause set. A clause without a guard leaves no way past it. -/
def ending (hook : Option String) (s : ClauseSet) : Ending :=
  match s.clauses.find? (!·.guarded) with
  | some c => .call (invocation hook c)
  | none => .refusal s.owner s.memberName

def block (hook : Option String) (s : ClauseSet) : Block where
  arity := s.arity
  orMore := s.tail
  branches := (s.clauses.takeWhile (·.guarded)).map fun c => (guardTests hook c, invocation hook c)
  ending := ending hook s

/--
The code for a routine. With `documented` it has its documentation, in lines of the width inside if
there is one.
-/
def definition (hook : Option String) (documented : Option (Option Int)) (r : Routine) : Definition where
  name := r.identifier
  documentation := documented.map r.documentation
  blocks := r.clauseSets.map (block hook)
  owner := r.owner
  memberName := r.memberName

namespace Expr

def paths : Expr → List String
  | .argument _ | .item => []
  | .coerced hook e target => hook :: target :: e.paths
  | .cast _ e => e.paths

/-- Whether a hook occurs. -/
def hasHook : Expr → Bool
  | .argument _ | .item => false
  | .coerced _ _ _ => true
  | .cast _ e => e.hasHook

end Expr

def Test.paths : Test → List String
  | .isInstance e path | .allInstances _ e path => path :: e.paths

def Passed.paths : Passed → List String
  | .one e | .each _ e => e.paths
  | .rest _ => []

def Invocation.paths (i : Invocation) : List String := i.path :: i.passed.flatMap (·.paths)

def Ending.paths : Ending → List String
  | .call i => i.paths
  | .refusal _ _ => []

def Block.paths (b : Block) : List String :=
  (b.branches.flatMap fun (tests, i) => tests.flatMap (·.paths) ++ i.paths) ++ b.ending.paths

/-- The function that tests an argument. -/
def instanceTest : String := "tortilla.types.is_instance"

/-- The error for arguments that fit nothing. -/
def refusal : String := "tortilla.exceptions.OverloadResolutionError"

/-- The dotted paths that the code refers to. -/
def Definition.paths (d : Definition) : List String :=
  instanceTest :: refusal :: d.blocks.flatMap (·.paths)

def Test.hasHook : Test → Bool
  | .isInstance e _ | .allInstances _ e _ => e.hasHook

def Passed.hasHook : Passed → Bool
  | .one e | .each _ e => e.hasHook
  | .rest _ => false

def Invocation.hasHook (i : Invocation) : Bool := i.passed.any (·.hasHook)

def Ending.hasHook : Ending → Bool
  | .call i => i.hasHook
  | .refusal _ _ => false

/-- Whether a block calls a hook. -/
def Block.hasHook (b : Block) : Bool :=
  b.branches.any (fun (tests, i) => tests.any (·.hasHook) || i.hasHook) || b.ending.hasHook

end Overloads.Source
