import Overloads.Class.Name

/-! Types by their written names. -/
namespace Overloads

/-- Modules of classes that are there before any is described. -/
def knownModules : List (List String) :=
  [Primitive.boxModule, ["collections", "abc"], ["fractions"]]

/-- The class of a dotted name. The longest beginning that is a module holds it, or else it is builtin. -/
def ClassName.ofText (modules : List (List String)) (s : String) : ClassName :=
  let parts := splitDots s
  let known := modules ++ knownModules
  match (List.range parts.length).reverse.find? fun n => n ≠ 0 && known.contains (parts.take n) with
  | some n => ⟨parts.take n, parts.drop n⟩
  | none => ⟨builtinModule, parts⟩

/-- The primitive type whose name stands behind an at sign. -/
def Primitive.ofText? (s : String) : Option Primitive := all.find? fun p => "@" ++ p.text = s

/-- A primitive type or a class. -/
def TypeRef.ofText (modules : List (List String)) (s : String) : TypeRef :=
  match Primitive.ofText? s with
  | some p => .primitive p
  | none => .reference (.ofText modules s)

end Overloads
