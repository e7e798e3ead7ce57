import Overloads.Class.Description

/-! Binding positional arguments to the parameters of a signature. -/
namespace Overloads.Signature

def positional (s : Signature) : List Param := s.params.filter (·.kind.isPositional)

def variadic? (s : Signature) : Option Param := s.params.find? (·.kind = .variadic)

/-- Whether some parameter can be passed only by keyword and has no default. -/
def needsKeyword (s : Signature) : Bool :=
  s.params.any fun p => p.kind = .keywordOnly && p.default.isNone

/-- The values of the parameters that got no argument, if each has a default. -/
def defaults (params : List Param) : Option (List Value) := params.mapM (·.default)

/--
The values that the positional parameters get, what a variadic one collects following them. None if an
argument is missing or left over.
-/
def bind (s : Signature) (args : List Value) : Option (List Value) := do
  let params := s.positional
  if s.needsKeyword then none
  else if params.length < args.length && s.variadic?.isNone then none
  else
    let filled ← defaults (params.drop args.length)
    return args.take params.length ++ filled ++ args.drop params.length

end Overloads.Signature
