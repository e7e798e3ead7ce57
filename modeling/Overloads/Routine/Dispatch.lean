import Overloads.Hook.Basic
import Overloads.Routine.Clause

/-! Choosing the member that answers a call, and the arguments that it gets. -/
namespace Overloads

variable {m : Type → Type} [Monad m] [MonadExcept Failure m]

/-- A call to make: a member with the arguments passed to it. -/
structure Call where
  member : Member
  args : List Value
  deriving BEq, Repr

/-- The value as the hook turns it into what a parameter asks for. -/
def coerced (hook : Option (Hook m)) (v : Value) (t : TypeRef) : m Value :=
  match hook with
  | none => pure v
  | some h => h.apply v t.boxed

/-- Whether a parameter takes the value once it is coerced. -/
def admits (w : World) (hook : Option (Hook m)) (v : Value) (t : TypeRef) : m Bool := do
  MonadExcept.ofExcept (w.isInstance (← coerced hook v t) t)

/-- Tests values against types from left to right up to the first refusal. -/
def admitsAll (w : World) (hook : Option (Hook m)) : List (Value × TypeRef) → m Bool
  | [] => pure true
  | (v, t) :: rest => do
    if ← admits w hook v t then admitsAll w hook rest else pure false

/-- The value that is passed on: coerced, and cast where its type asks for that. -/
def bound (w : World) (hook : Option (Hook m)) (v : Value) (t : TypeRef) : m Value := do
  let v ← coerced hook v t
  match t.cast? with
  | none => pure v
  | some c => MonadExcept.ofExcept (w.cast c v)

namespace Clause

/-- The type of what follows the finite parameters. -/
def elementType (c : Clause) : TypeRef := c.member.varargs.getD .object

/-- Whether the guard of the clause lets the arguments pass. -/
def accepts (w : World) (hook : Option (Hook m)) (c : Clause) (args : List Value) : m Bool := do
  if !c.guarded then pure true
  else if ← admitsAll w hook ((args.take c.arity).zip c.guardTypes) then
    if c.tail then admitsAll w hook ((args.drop c.arity).map (·, c.elementType))
    else pure true
  else pure false

/-- The call that the clause makes. What a variadic member collects is coerced and not cast. -/
def call (w : World) (hook : Option (Hook m)) (c : Clause) (args : List Value) : m Call := do
  let count := c.member.parameterCount
  let leading ← ((args.take count).zip c.member.declared).mapM fun (v, t) =>
    bound w hook v t
  let further ← match c.member.varargs with
    | some t => (args.drop count).mapM (coerced hook · t)
    | none => pure []
  return ⟨c.member, leading ++ further⟩

end Clause

namespace ClauseSet

/-- The failure of a set none of whose clauses lets the arguments pass. -/
def refusal (w : World) (s : ClauseSet) (args : List Value) : Failure :=
  .noOverload s.owner s.memberName (args.map w.typeName) Failure.unrecognised

/-- The call of the first clause whose guard lets the arguments pass. -/
def dispatch (w : World) (hook : Option (Hook m)) (s : ClauseSet) (args : List Value) : m Call :=
  first s.clauses
where
  first : List Clause → m Call
    | [] => throw (s.refusal w args)
    | c :: rest => do if ← c.accepts w hook args then c.call w hook args else first rest

end ClauseSet

namespace Routine

/-- The failure of a routine that has no set for the number of arguments. -/
def refusal (w : World) (r : Routine) (args : List Value) : Failure :=
  .noOverload r.owner r.memberName (args.map w.typeName) (Failure.wrongNumber args.length)

/-- The call that answers the arguments. -/
def dispatch (w : World) (hook : Option (Hook m)) (r : Routine) (args : List Value) : m Call :=
  match r.clauseSetFor? args.length with
  | some s => s.dispatch w hook args
  | none => throw (r.refusal w args)

end Routine

end Overloads
