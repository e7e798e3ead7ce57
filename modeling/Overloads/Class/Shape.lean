import Overloads.Class.World

/-! The positional shapes that a signature accepts. -/
namespace Overloads

/-- A parameter as reflection sees it. -/
structure ShownParam where
  kind : ParamKind
  hasDefault : Bool
  hint : Annotation
  deriving BEq, Repr

structure ShownSignature where
  params : List ShownParam
  returns : Annotation
  deriving BEq, Repr

/-- A list of positional parameter types, possibly open at its end, and a result type. -/
structure Shape where
  params : List TypeRef
  varargs : Option TypeRef
  returns : TypeRef
  deriving DecidableEq, Repr

namespace Signature

/-- Evaluates every annotation of the signature. -/
def shownWith (evaluate : AnnotationText → Option Annotation) (s : Signature) :
    Option ShownSignature := do
  let optional (a : Option AnnotationText) : Option Annotation :=
    match a with
    | some a => evaluate a
    | none => some .missing
  let params ← s.params.mapM fun p => do
    return (⟨p.kind, p.default.isSome, ← optional p.hint⟩ : ShownParam)
  return ⟨params, ← optional s.returns⟩

/-- The first annotation that does not evaluate. -/
def fault? (postponed : Bool) (s : Signature) : Option Fault :=
  (s.evaluationOrder.filterMap (·.hint) ++ s.returns.toList).findSome? fun a =>
    match a.resolve postponed with
    | .error fault => some fault
    | .ok _ => none

/-- Why text in the signature stays text, where it does and the signature is kept. -/
def unresolved? (postponed : Bool) (s : Signature) : Option Unresolved :=
  match s.fault? postponed with
  | some (.unresolved reason) => some reason
  | _ => none

/-- Whether the signature can be part of a definition. -/
def isDefinable (postponed : Bool) (s : Signature) : Bool :=
  (s.params.filterMap (·.hint) ++ s.returns.toList).all (·.isDefinable postponed)

/--
The signature as reflection sees it. Where a name is unknown all text stays text; where an expression
fails there is no signature.
-/
def shown? (postponed : Bool) (s : Signature) : Option ShownSignature :=
  match s.fault? postponed with
  | some .failing => none
  | some (.unresolved _) => s.shownWith fun a => some (a.unresolved postponed)
  | none => s.shownWith fun a => (a.resolve postponed).toOption

end Signature

namespace ShownSignature

/-- No parameters. -/
def nullary : ShownSignature := ⟨[], .missing⟩

/-- Positional parameters without annotations, those from `required` on with a default. -/
def untyped (required total : Nat) : ShownSignature :=
  ⟨(List.range total).map fun i => ⟨.positionalOnly, required ≤ i, .missing⟩, .missing⟩

/-- What is left once the first argument is fixed; none where no argument could be passed. -/
def bound? (s : ShownSignature) : Option ShownSignature :=
  match s.params with
  | [] => none
  | p :: rest =>
    match p.kind with
    | .positional | .positionalOnly => some { s with params := rest }
    | .variadic => some s
    | .keywordOnly | .keywords => none

/-- Leaves out a positional receiver. -/
def withoutReceiver (s : ShownSignature) : ShownSignature :=
  match s.params with
  | p :: rest => if p.kind.isPositional then { s with params := rest } else s
  | [] => s

def needsKeyword (s : ShownSignature) : Bool :=
  s.params.any fun p => p.kind = .keywordOnly && !p.hasDefault

def positional (s : ShownSignature) : List ShownParam := s.params.filter (·.kind.isPositional)

def variadic? (s : ShownSignature) : Option ShownParam := s.params.find? (·.kind = .variadic)

/--
One shape for each number of arguments: parameters with defaults may be left out from the end. A
parameter that has to be passed by keyword leaves no shape.
-/
def shapes (s : ShownSignature) (checkable : ClassName → ClassName) : List Shape :=
  if s.needsKeyword then []
  else
    let params := s.positional
    let declared := params.map (·.hint.type checkable)
    let required := (params.takeWhile (!·.hasDefault)).length
    let returns := s.returns.type checkable
    let shorter := (List.range' required (declared.length - required)).map fun count =>
      (⟨declared.take count, none, returns⟩ : Shape)
    shorter ++ [⟨declared, s.variadic?.map (·.hint.type checkable), returns⟩]

end ShownSignature

end Overloads
