import Overloads.Class.Testing

/-! How instances are laid out: which classes one instance can belong to, and what it holds. -/
namespace Overloads

namespace Native

/-- Builtin classes that cannot be extended. -/
def closedClasses : List String := ["bool", "memoryview", "range", "slice", "NoneType"]

def isClosed (c : ClassName) : Bool :=
  c.module = ClassName.builtinModule && closedClasses.contains c.simpleName

/-- Builtin classes whose instances hold their items in line. -/
def inlineClasses : List ClassName := ["int", "tuple", "bytes"].map .builtin

/-- Other builtin classes whose instances have a layout of their own. -/
def layoutClasses : List ClassName :=
  Value.fractionClass :: [
    "float", "complex", "str", "bytearray", "list", "dict", "set", "frozenset", "type", "property",
    "classmethod", "staticmethod", "super", "enumerate", "reversed", "zip", "map", "filter",
    "BaseException", "AttributeError", "BaseExceptionGroup", "ImportError", "NameError", "OSError",
    "StopIteration", "SyntaxError", "SystemExit", "UnicodeDecodeError", "UnicodeEncodeError",
    "UnicodeTranslateError"].map .builtin

/-- Whether instances of a native class hold something that its attributes do not show. -/
def holdsContent (c : ClassName) : Bool :=
  c.module = Primitive.boxModule || c = Value.fractionClass ||
    (c.module = ClassName.builtinModule && c ≠ .object)

/-- Whether a native class that holds content makes its instances out of plain ones. -/
def makesPlainly (c : ClassName) : Bool := c = Value.fractionClass

/-- The names that an abstract class of numbers leaves to its subclasses. -/
def abstractNumberNames (name : String) : List String :=
  match name with
  | "Complex" => [
    "__complex__", "real", "imag", "__add__", "__radd__", "__neg__", "__pos__", "__mul__", "__rmul__",
    "__truediv__", "__rtruediv__", "__pow__", "__rpow__", "__abs__", "conjugate", "__eq__"]
  | "Real" => [
    "__float__", "__trunc__", "__floor__", "__ceil__", "__round__", "__floordiv__", "__rfloordiv__",
    "__mod__", "__rmod__", "__lt__", "__le__"]
  | "Rational" => ["numerator", "denominator"]
  | "Integral" => [
    "__int__", "__pow__", "__lshift__", "__rlshift__", "__rshift__", "__rrshift__", "__and__",
    "__rand__", "__xor__", "__rxor__", "__or__", "__ror__", "__invert__"]
  | _ => []

/-- The names that a native abstract class leaves to its subclasses. -/
def abstractNames (c : ClassName) : List String :=
  if c.module = numberModule then abstractNumberNames c.simpleName
  else if c.module ≠ collectionModule then []
  else match c.simpleName with
    | "Iterable" => ["__iter__"]
    | "Sized" => ["__len__"]
    | "Container" => ["__contains__"]
    | "Reversible" => ["__reversed__"]
    | "Sequence" | "Mapping" => ["__getitem__"]
    | "Callable" => ["__call__"]
    | _ => []

end Native

namespace World

/-- Whether a class cannot be extended: closed builtin classes and enumerations. -/
def isClosed (w : World) (c : ClassName) : Bool :=
  Native.isClosed c || (c ≠ Native.enumeration && w.isSubclass c Native.enumeration)

/-- Whether a class is the first to extend one whose items lie in line. -/
def extendsInline (w : World) (c : ClassName) : Bool :=
  let above := (w.linearization c).drop 1
  Native.inlineClasses.any fun n =>
    above.contains n && above.all fun k => k = n || !w.isSubclass k n

/-- Whether instances of a class have a layout that no class above it has. -/
def hasOwnLayout (w : World) (c : ClassName) : Bool :=
  Native.inlineClasses.contains c || Native.layoutClasses.contains c || w.extendsInline c

/-- The class that lays out the instances of a class. -/
def layout (w : World) (c : ClassName) : ClassName :=
  ((w.linearization c).find? w.hasOwnLayout).getD .object

/-- Whether one of the layouts of some classes extends all the others. -/
def layoutsAgree (w : World) (cs : List ClassName) : Bool :=
  let layouts := cs.map w.layout
  layouts.any fun l => layouts.all (w.isSubclass l)

/-- The native class whose content the instances of a class have. -/
def contentClass? (w : World) (c : ClassName) : Option ClassName :=
  (w.linearization c).find? fun k => (w.described? k).isNone && Native.holdsContent k

/-- Whether a class leaves a name open that an abstract class above it asks for. -/
def isAbstract (w : World) (c : ClassName) : Bool :=
  (w.linearization c).any fun k => (Native.abstractNames k).any fun n =>
    match w.lookup c n with
    | some (holder, _) => (Native.abstractNames holder).contains n
    | none => false

end World

end Overloads
