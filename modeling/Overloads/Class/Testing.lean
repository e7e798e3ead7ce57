import Overloads.Class.World

/-! The classes of values, and what abstract classes and protocols ask of a class. -/
namespace Overloads

namespace World

def isProtocol (w : World) (c : ClassName) : Bool := ((w.info? c).map (·.isProtocol)).getD false

/-- Whether a class lists the keys of plain dictionaries. -/
def isTypedDict (w : World) (c : ClassName) : Bool := ((w.info? c).map (·.isTypedDict)).getD false

/-- Whether a class is a protocol or lies below one. -/
def isBelowProtocol (w : World) (c : ClassName) : Bool :=
  (w.linearization c).contains Native.protocolClass

/-- Whether a class is one of the native abstract collections and numbers or lies below one. -/
def isBelowAbstract (w : World) (c : ClassName) : Bool :=
  (w.linearization c).any fun k => k.module = Native.collectionModule || k.module = Native.numberModule

/-- The class of a class. -/
def metaclass (w : World) (c : ClassName) : ClassName :=
  if w.isBelowProtocol c then Native.protocolMetaclass
  else if w.isSubclass c Native.enumeration then Native.enumerationMetaclass
  else if w.isBelowAbstract c then Native.abstractMetaclass
  else if w.isTypedDict c then Native.typedDictMetaclass
  else .builtin "type"

/-- The class that a value belongs to. -/
def classOf (w : World) : Value → ClassName
  | .nothing => .builtin "NoneType"
  | .bool _ => .builtin "bool"
  | .int _ => .builtin "int"
  | .boxedInt b _ => b.name
  | .float _ => .builtin "float"
  | .boxedFloat _ => Primitive.boxed .float
  | .str _ => .builtin "str"
  | .character _ => Primitive.boxed .char
  | .list _ => .builtin "list"
  | .tuple _ => .builtin "tuple"
  | .dict _ => .builtin "dict"
  | .bytes _ => .builtin "bytes"
  | .fraction _ _ => Value.fractionClass
  | .type c => w.metaclass c
  | .native c _ _ => c
  | .object c _ _ => c
  | .traced _ _ => .builtin "dict"

/-- The builtin sequences. -/
def sequenceNames : List String :=
  ["str", "bytes", "bytearray", "list", "tuple", "range", "memoryview"]

/-- The builtin views of dictionaries. -/
def viewNames : List String := ["dict_keys", "dict_items", "dict_values"]

/-- The builtin classes whose instances an abstract collection takes. -/
def collectionMembers (name : String) : List String :=
  match name with
  | "Iterable" | "Sized" | "Container" | "Collection" =>
    sequenceNames ++ ["dict", "set", "frozenset"] ++ viewNames
  | "Reversible" => sequenceNames ++ ["dict"] ++ viewNames
  | "Sequence" => sequenceNames
  | "Mapping" => ["dict"]
  | "Set" => ["set", "frozenset", "dict_keys", "dict_items"]
  | "MappingView" => viewNames
  | "KeysView" => ["dict_keys"]
  | "ItemsView" => ["dict_items"]
  | "ValuesView" => ["dict_values"]
  | "Callable" => ["type"]
  | _ => []

/-- The builtin classes whose instances an abstract class of numbers takes. -/
def numberMembers (name : String) : List String :=
  match name with
  | "Number" | "Complex" => ["int", "float", "complex"]
  | "Real" => ["int", "float"]
  | "Rational" | "Integral" => ["int"]
  | _ => []

/-- The builtin classes whose instances a native abstract class takes, though they do not lie below it. -/
def registered (c : ClassName) : List String :=
  if c.module = Native.collectionModule then collectionMembers c.simpleName
  else if c.module = Native.numberModule then numberMembers c.simpleName
  else []

/-- The methods by which a class joins a native abstract class that goes by methods. -/
def joiningMethods (c : ClassName) : List String :=
  if c.module ≠ Native.collectionModule then []
  else match c.simpleName with
    | "Iterable" => ["__iter__"]
    | "Sized" => ["__len__"]
    | "Container" => ["__contains__"]
    | "Collection" => ["__len__", "__iter__", "__contains__"]
    | "Reversible" => ["__reversed__", "__iter__"]
    | "Callable" => ["__call__"]
    | _ => []

/-- Whether a class has an attribute that is not None. -/
def hasMethod (w : World) (c : ClassName) (name : String) : Bool :=
  match w.lookup c name with
  | some (_, .value .nothing) => false
  | some _ => true
  | none => false

/-- Whether a class belongs to a native abstract class without inheriting from it. -/
def joins (w : World) (c abstractClass : ClassName) : Bool :=
  (registered abstractClass).any (fun n => w.isSubclass c (.builtin n)) ||
    let methods := joiningMethods abstractClass
    !methods.isEmpty && methods.all (w.hasMethod c)

/-- Names of classes that are left out when the names of a protocol are collected. -/
def protocolMarkers : List String := ["Protocol", "Generic"]

/-- Names that no protocol asks for. -/
def unaskedNames : List String := [
  "__abstractmethods__", "__annotations__", "__dict__", "__doc__", "__init__", "__module__",
  "__new__", "__slots__", "__subclasshook__", "__weakref__", "__class_getitem__",
  "__parameters__", "__orig_bases__", "__orig_class__", "_is_protocol", "_is_runtime_protocol",
  "__final__", "_MutableMapping__marker"]

/-- All names that a class declares itself. -/
def declaredNames (w : World) (c : ClassName) : List String :=
  match w.described? c with
  | some i => i.attributes.map (·.1) ++ i.annotations
  | none =>
    match Native.info? c with
    | some i => i.attributes.map (·.1) ++ Native.specialNames c
    | none => []

/-- The names that an instance of a protocol has to have. -/
def protocolNames (w : World) (c : ClassName) : List String :=
  ((w.linearization c).filter fun k =>
    k ≠ .object && !protocolMarkers.contains k.simpleName).flatMap fun k =>
      (w.declaredNames k).filter fun n => !n.startsWith "_abc_" && !unaskedNames.contains n

/-- Whether what an attribute stands for, asked of its class, can be called. -/
def isCallableAttribute (w : World) : Attribute → Bool
  | .function _ _ | .native _ _ | .unsigned _ | .special | .nested _ => true
  | .value v => w.hasMethod (w.classOf v) "__call__"
  | .cached _ _ | .property => false

/-- Whether a name of a protocol stands for something callable there. -/
def protocolCalls (w : World) (c : ClassName) (name : String) : Bool :=
  match w.lookup c name with
  | some (_, a) => w.isCallableAttribute a
  | none => false

/-- Whether all that a protocol asks for can be called. -/
def asksForCalls (w : World) (protocol : ClassName) : Bool :=
  (w.protocolNames protocol).all (w.protocolCalls protocol)

/--
Whether a class has a name that a protocol asks for: as an attribute that is not None or, if it is a protocol
itself, as an annotation.
-/
def provides (w : World) (c : ClassName) (name : String) : Bool :=
  let nearest := (w.linearization c).findSome? fun k =>
    match w.own? k name with
    | some (.value .nothing) => some false
    | some _ => some true
    | none =>
      if w.isProtocol c && ((w.info? k).any (·.annotations.contains name)) then some true else none
  nearest.getD false

/-- Whether a class has all that a protocol asks for, where that is no more than what can be called. -/
def fits (w : World) (c protocol : ClassName) : Bool :=
  w.isProtocol protocol && (w.info? protocol).any (·.runtimeCheckable) && w.asksForCalls protocol &&
    (w.protocolNames protocol).all (w.provides c)

/-- Whether a class is a class of numbers. -/
def isNumeric (w : World) (c : ClassName) : Bool :=
  w.isSubclass c (.builtin "int") || w.isSubclass c (.builtin "float")

/-- The name of a value's type. -/
def typeName (w : World) (v : Value) : String := (w.classOf v).text

end World

end Overloads
