import Overloads.Source.Basic
import Overloads.Routine.Dispatch
import Overloads.Text.Identifier

/-! What rendered code does when it is called. -/
namespace Overloads.Source

/-- A letter, a digit or an underscore, of ASCII or beyond. -/
def isNameChar (c : Char) : Bool := Text.isIdentifierChar c || 128 ≤ c.toNat

def isPathChar (c : Char) : Bool := isNameChar c || c = '.'

/-- What can be read as a name with dots in it. -/
def isPath (s : String) : Bool := !s.isEmpty && s.toList.all isPathChar

/-- What dotted paths stand for where code uses them as classes, as hooks and as targets. -/
structure Names (M : Type → Type) where
  type? : String → Option ClassName
  hook? : String → Option (Value → ClassName → M Value)
  target? : String → Option Target
  isPath_of_type : ∀ {p c}, type? p = some c → isPath p = true
  isPath_of_hook : ∀ {p f}, hook? p = some f → isPath p = true
  isPath_of_target : ∀ {p t}, target? p = some t → isPath p = true

/-- The builtin functions that code calls by their plain names. -/
inductive Builtin where
  | len | all
  | cast (c : Cast)
  deriving DecidableEq, Repr

def Builtin.name : Builtin → String
  | .len => "len"
  | .all => "all"
  | .cast c => c.text

/--
What code meets outside of itself: what targets answer, the object that asks tests as it is run
through, and which values count as true.
-/
structure Surroundings (M : Type → Type) where
  call : Target → List Value → M Value
  generator : List (M Bool) → Value
  truth : Value → M Bool

/-- The function that is called in the place of a builtin one, where one has its name. -/
abbrev Shadows (M : Type → Type) := Builtin → Option (List Value → M Value)

/-- A function hides the builtin function of its name. -/
def shadowedBy {M : Type → Type} (name : String) (self : List Value → M Value) : Shadows M := fun b =>
  if b.name = name then some self else none

variable {M : Type → Type} [Monad M] [MonadExcept Failure M]
variable (w : World) (names : Names M) (around : Surroundings M) (own : Shadows M)
variable (args : List Value)

/-- What a name stands for, or the error for an unknown name. -/
def known {α : Type} (name : String) : Option α → M α
  | some a => pure a
  | none => throw (.unknownName name)

/-- A conversion, or what is called in its place. -/
def Builtin.convert (c : Cast) (v : Value) : M Value :=
  match own (.cast c) with
  | none => MonadExcept.ofExcept (w.cast c v)
  | some f => f [v]

/-- The value of an expression, where `item` is what `value` stands for. -/
def Expr.eval (item : Option Value) : Expr → M Value
  | .argument i =>
    match args[i]? with
    | some v => pure v
    | none => throw (.noItem "tuple index")
  | .item => known "value" item
  | .coerced hook e target => do
    let f ← known hook (names.hook? hook)
    let v ← e.eval item
    let c ← known target (names.type? target)
    f v c
  | .cast c e => do Builtin.convert w own c (← e.eval item)

/-- Whether the value of an expression is an instance of the class with this path. -/
def Expr.isInstance (item : Option Value) (e : Expr) (path : String) : M Bool := do
  let v ← e.eval w names own args item
  let c ← known path (names.type? path)
  MonadExcept.ofExcept (w.isInstance v (.reference c))

/-- Asks from left to right up to the first refusal. -/
def allHold {α : Type} (ask : α → M Bool) : List α → M Bool
  | [] => pure true
  | a :: rest => do if ← ask a then allHold ask rest else pure false

/-- Whether all tests hold, or whether what is called in the place of asking them counts as true. -/
def Builtin.conjunction (tests : List (M Bool)) : M Bool :=
  match own .all with
  | none => allHold id tests
  | some f => do around.truth (← f [around.generator tests])

def Test.eval : Test → M Bool
  | .isInstance e path => e.isInstance w names own args none path
  | .allInstances start e path =>
    Builtin.conjunction around own ((args.drop start).map fun v =>
      e.isInstance w names own args (some v) path)

def Passed.eval : Passed → M (List Value)
  | .one e => do return [← e.eval w names own args none]
  | .rest start => return args.drop start
  | .each start e => (args.drop start).mapM fun v => e.eval w names own args (some v)

@[simp] theorem Test.eval_isInstance (e : Expr) (path : String) :
    (Test.isInstance e path).eval w names around own args =
      e.isInstance w names own args none path := rfl

@[simp] theorem Test.eval_allInstances (start : Nat) (e : Expr) (path : String) :
    (Test.allInstances start e path).eval w names around own args =
      Builtin.conjunction around own ((args.drop start).map fun v =>
        e.isInstance w names own args (some v) path) := rfl

@[simp] theorem Passed.eval_one (e : Expr) :
    (Passed.one e).eval w names own args = (do return [← e.eval w names own args none]) := rfl

@[simp] theorem Passed.eval_rest (start : Nat) :
    (Passed.rest start).eval w names own args = pure (args.drop start) := rfl

@[simp] theorem Passed.eval_each (start : Nat) (e : Expr) :
    (Passed.each start e).eval w names own args =
      (args.drop start).mapM fun v => e.eval w names own args (some v) := rfl

/-- The target that is called, with what it gets. -/
def Invocation.eval (i : Invocation) : M (Target × List Value) := do
  let target ← known i.path (names.target? i.path)
  let parts ← i.passed.mapM (·.eval w names own args)
  return (target, parts.flatten)

def Ending.eval : Ending → M (Target × List Value)
  | .call i => i.eval w names own args
  | .refusal owner memberName =>
    throw (.noOverload owner memberName (args.map w.typeName) Failure.unrecognised)

/-- Takes the first branch all of whose tests succeed. -/
def runBranches (ending : M (Target × List Value)) :
    List (List Test × Invocation) → M (Target × List Value)
  | [] => ending
  | (tests, i) :: rest => do
    if ← allHold (·.eval w names around own args) tests then i.eval w names own args
    else runBranches ending rest

/-- Whether a block is for this number of arguments. -/
def Block.takes (b : Block) (count : Nat) : Bool :=
  if b.orMore then b.arity ≤ count else count = b.arity

def Block.run (b : Block) : M (Target × List Value) :=
  runBranches w names around own args (b.ending.eval w names own args) b.branches

/--
The number of the arguments. A function that hides the function for it calls itself before it does
anything else, so no such call is answered and nothing has to be said of an answer.
-/
def Builtin.count : M Nat :=
  match own .len with
  | none => pure args.length
  | some f => do
    let _ ← f [.tuple args]
    throw .tooDeep

/-- The first block that takes the number of arguments, which is counted for each, ends the call. -/
def Definition.runBlocks (d : Definition) : List Block → M (Target × List Value)
  | [] => do
    let count ← Builtin.count own args
    throw (.noOverload d.owner d.memberName (args.map w.typeName) (Failure.wrongNumber count))
  | b :: rest => do
    if b.takes (← Builtin.count own args) then b.run w names around own args
    else d.runBlocks rest

/-- What a call inside of another one answers: what it reaches is called. -/
def Surroundings.follow (reach : List Value → M (Target × List Value)) (args : List Value) :
    M Value := do
  let (target, passed) ← reach args
  around.call target passed

/--
A call of the function, which may call itself under the name of a builtin function. There is room for
so many calls inside one another; how much there really is depends on the calls around.
-/
def Definition.run (d : Definition) : Nat → List Value → M (Target × List Value)
  | 0, _ => throw .tooDeep
  | room + 1, args =>
    d.runBlocks w names around (shadowedBy d.name (around.follow (d.run room))) args d.blocks

end Overloads.Source
