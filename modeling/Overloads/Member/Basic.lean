import Overloads.Class.Description

/-! Members: one signature of a constructor or method, and what a call of it reaches. -/
namespace Overloads

inductive MemberKind where
  | constructor | method
  deriving DecidableEq, Repr

def MemberKind.text : MemberKind → String
  | .constructor => "constructor"
  | .method => "method"

/-- What an invocation reaches. -/
inductive Target where
  | construct (c : ClassName)
  /-- A function; one that belongs to a class gets the class as its first argument. -/
  | function (f : Function) (owner : Option ClassName)
  /-- A function that takes any arguments. -/
  | scripted (label : String) (body : Body)
  /-- A function of a native class, which gets the owner if it is a function of classes. -/
  | native (holder : ClassName) (name : String) (owner : Option ClassName)
  deriving BEq, Repr, Inhabited

/--
One signature of a constructor or method. `declared` is the finite beginning of its parameters; a
method of instances takes the receiver as the first. With `varargs` it takes any number of further
arguments of that type.
-/
structure Member where
  name : String
  kind : MemberKind
  declared : List TypeRef
  returns : TypeRef
  owner : ClassName
  target : Target
  path : String
  varargs : Option TypeRef
  isStatic : Bool
  deriving BEq, Repr

namespace Member

def isVariadic (m : Member) : Bool := m.varargs.isSome

def parameterCount (m : Member) : Nat := m.declared.length

/-- The first `n` parameter types; a variadic member has as many as asked for. -/
def parameterTypes (m : Member) (n : Nat) : List TypeRef :=
  m.declared.take n ++
    match m.varargs with
    | some t => List.replicate (n - m.declared.length) t
    | none => []

/-- The member in one line, such as `join(str,object...):str`. -/
def descriptor (m : Member) : String :=
  let names := (m.declared ++ m.varargs.toList).map (·.text)
  m.name ++ "(" ++ ",".intercalate names ++ (if m.isVariadic then "..." else "") ++ "):" ++
    m.returns.text

/-- The names of the parameter types, the variadic one marked by a star. -/
def signature (m : Member) : List String :=
  m.declared.map (·.text) ++ m.varargs.toList.map ("*" ++ ·.text)

@[simp] theorem parameterTypes_length_of_fixed {m : Member} (h : m.varargs = none) :
    m.parameterTypes m.parameterCount = m.declared := by
  simp [parameterTypes, parameterCount, h]

end Member

end Overloads
