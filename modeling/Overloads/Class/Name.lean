/-! Names of classes and the types a parameter can have. -/
namespace Overloads

/-- Names joined by dots. -/
def dotted (parts : List String) : String := ".".intercalate parts

/-- The parts of a dotted text; empty parts are kept. -/
def splitDots (s : String) : List String := (s.toList.splitOn '.').map .ofList

/-- A class, by the module that holds it and the nesting path inside that module. -/
structure ClassName where
  module : List String
  path : List String
  deriving DecidableEq, Repr, Inhabited

namespace ClassName

def builtinModule : List String := ["builtins"]

def builtin (name : String) : ClassName := ⟨builtinModule, [name]⟩

def object : ClassName := builtin "object"

/-- The full dotted path. -/
def fullPath (c : ClassName) : String := dotted (c.module ++ c.path)

/-- The name shown to a user: builtin classes go without their module. -/
def text (c : ClassName) : String :=
  if c.module = builtinModule then dotted c.path else c.fullPath

/-- The last part of the path. -/
def simpleName (c : ClassName) : String := c.path.getLast?.getD ""

end ClassName

/-- Primitive types of signatures. No value has one; each has a boxed class. -/
inductive Primitive where
  | byte | short | int | long | float | double | char | boolean | void
  deriving DecidableEq, Repr, Inhabited

namespace Primitive

def text : Primitive → String
  | .byte => "byte"
  | .short => "short"
  | .int => "int"
  | .long => "long"
  | .float => "float"
  | .double => "double"
  | .char => "char"
  | .boolean => "boolean"
  | .void => "void"

def all : List Primitive := [.byte, .short, .int, .long, .float, .double, .char, .boolean, .void]

/-- The module of the boxes that are not builtin classes. -/
def boxModule : List String := ["tortilla", "types"]

/-- The class whose instances a parameter of this type takes. -/
def boxed : Primitive → ClassName
  | .byte => ⟨boxModule, ["Byte"]⟩
  | .short => ⟨boxModule, ["Short"]⟩
  | .int => ⟨boxModule, ["Integer"]⟩
  | .long => .builtin "int"
  | .float => ⟨boxModule, ["Float"]⟩
  | .double => .builtin "float"
  | .char => ⟨boxModule, ["Character"]⟩
  | .boolean => .builtin "bool"
  | .void => .object

end Primitive

/-- Conversions applied to an argument on its way into a routine's target. -/
inductive Cast where
  | int | float
  deriving DecidableEq, Repr

def Cast.text : Cast → String
  | .int => "int"
  | .float => "float"

/-- The type of a parameter or a result. -/
inductive TypeRef where
  | primitive (p : Primitive)
  | reference (c : ClassName)
  deriving DecidableEq, Repr, Inhabited

namespace TypeRef

def object : TypeRef := .reference .object

def text : TypeRef → String
  | .primitive p => p.text
  | .reference c => c.text

def boxed : TypeRef → ClassName
  | .primitive p => p.boxed
  | .reference c => c

/-- Only `long` and `double` are passed on in their primitive form. -/
def cast? : TypeRef → Option Cast
  | .primitive .long => some .int
  | .primitive .double => some .float
  | _ => none

end TypeRef

end Overloads
