import Overloads.Class.Native

/-! The special attributes of native classes, whose names begin with an underscore. -/
namespace Overloads.Native

/--
Special attributes by kind, each kind a text of names: functions of instances that operators stand for,
other functions of instances, functions of the class, and what is no function.
-/
structure Specials where
  name : ClassName
  slots : String
  methods : String
  statics : String
  values : String

/-- What the boxes that are not builtin classes have. -/
def boxSpecials (p : Primitive) : Specials :=
  ⟨p.boxed, "", "__repr__", "", "__module__ __dict__ __weakref__ __doc__"⟩

/-- The special attributes of classes that have more than errors have. -/
def specialRows : List Specials := [
  ⟨.builtin "object",
    "__repr__ __hash__ __str__ __getattribute__ __setattr__ __delattr__ __lt__ __le__ __eq__ " ++
    "__ne__ __gt__ __ge__ __init__",
    "__reduce_ex__ __reduce__ __getstate__ __format__ __sizeof__ __dir__",
    "__new__ __subclasshook__ __init_subclass__",
    "__class__ __doc__"⟩,
  ⟨.builtin "bool",
    "__repr__ __and__ __rand__ __xor__ __rxor__ __or__ __ror__",
    "",
    "__new__",
    "__doc__"⟩,
  ⟨.builtin "memoryview",
    "__repr__ __hash__ __getattribute__ __lt__ __le__ __eq__ __ne__ __gt__ __ge__ __iter__ " ++
    "__len__ __getitem__ __setitem__ __delitem__",
    "__enter__ __exit__",
    "__new__",
    "__doc__"⟩,
  ⟨.builtin "bytearray",
    "__repr__ __str__ __getattribute__ __lt__ __le__ __eq__ __ne__ __gt__ __ge__ __iter__ " ++
    "__init__ __mod__ __rmod__ __len__ __getitem__ __setitem__ __delitem__ __add__ __mul__ " ++
    "__rmul__ __contains__ __iadd__ __imul__",
    "__alloc__ __reduce__ __reduce_ex__ __sizeof__",
    "__new__",
    "__doc__ __hash__"⟩,
  ⟨.builtin "bytes",
    "__repr__ __hash__ __str__ __getattribute__ __lt__ __le__ __eq__ __ne__ __gt__ __ge__ " ++
    "__iter__ __mod__ __rmod__ __len__ __getitem__ __add__ __mul__ __rmul__ __contains__",
    "__getnewargs__ __bytes__",
    "__new__",
    "__doc__"⟩,
  ⟨.builtin "classmethod",
    "__repr__ __get__ __init__",
    "",
    "__new__",
    "__func__ __wrapped__ __isabstractmethod__ __dict__ __doc__"⟩,
  ⟨.builtin "complex",
    "__repr__ __hash__ __getattribute__ __lt__ __le__ __eq__ __ne__ __gt__ __ge__ __add__ " ++
    "__radd__ __sub__ __rsub__ __mul__ __rmul__ __pow__ __rpow__ __neg__ __pos__ __abs__ " ++
    "__bool__ __truediv__ __rtruediv__",
    "__complex__ __getnewargs__ __format__",
    "__new__",
    "__doc__"⟩,
  ⟨.builtin "dict",
    "__repr__ __getattribute__ __lt__ __le__ __eq__ __ne__ __gt__ __ge__ __iter__ __init__ " ++
    "__or__ __ror__ __ior__ __len__ __setitem__ __delitem__",
    "__getitem__ __contains__ __sizeof__ __reversed__",
    "__new__ __class_getitem__",
    "__hash__ __doc__"⟩,
  ⟨.builtin "enumerate",
    "__getattribute__ __iter__ __next__",
    "__reduce__",
    "__new__ __class_getitem__",
    "__doc__"⟩,
  ⟨.builtin "filter", "__getattribute__ __iter__ __next__", "__reduce__", "__new__", "__doc__"⟩,
  ⟨.builtin "float",
    "__repr__ __hash__ __getattribute__ __lt__ __le__ __eq__ __ne__ __gt__ __ge__ __add__ " ++
    "__radd__ __sub__ __rsub__ __mul__ __rmul__ __mod__ __rmod__ __divmod__ __rdivmod__ " ++
    "__pow__ __rpow__ __neg__ __pos__ __abs__ __bool__ __int__ __float__ __floordiv__ " ++
    "__rfloordiv__ __truediv__ __rtruediv__",
    "__trunc__ __floor__ __ceil__ __round__ __getnewargs__ __format__",
    "__new__ __getformat__",
    "__doc__"⟩,
  ⟨.builtin "frozenset",
    "__repr__ __hash__ __getattribute__ __lt__ __le__ __eq__ __ne__ __gt__ __ge__ __iter__ " ++
    "__sub__ __rsub__ __and__ __rand__ __xor__ __rxor__ __or__ __ror__ __len__",
    "__contains__ __reduce__ __sizeof__",
    "__new__ __class_getitem__",
    "__doc__"⟩,
  ⟨.builtin "property",
    "__getattribute__ __get__ __set__ __delete__ __init__",
    "__set_name__",
    "__new__",
    "__doc__ __isabstractmethod__"⟩,
  ⟨.builtin "int",
    "__repr__ __hash__ __getattribute__ __lt__ __le__ __eq__ __ne__ __gt__ __ge__ __add__ " ++
    "__radd__ __sub__ __rsub__ __mul__ __rmul__ __mod__ __rmod__ __divmod__ __rdivmod__ " ++
    "__pow__ __rpow__ __neg__ __pos__ __abs__ __bool__ __invert__ __lshift__ __rlshift__ " ++
    "__rshift__ __rrshift__ __and__ __rand__ __xor__ __rxor__ __or__ __ror__ __int__ " ++
    "__float__ __floordiv__ __rfloordiv__ __truediv__ __rtruediv__ __index__",
    "__trunc__ __floor__ __ceil__ __round__ __getnewargs__ __format__ __sizeof__",
    "__new__",
    "__doc__"⟩,
  ⟨.builtin "list",
    "__repr__ __getattribute__ __lt__ __le__ __eq__ __ne__ __gt__ __ge__ __iter__ __init__ " ++
    "__len__ __setitem__ __delitem__ __add__ __mul__ __rmul__ __contains__ __iadd__ __imul__",
    "__getitem__ __reversed__ __sizeof__",
    "__new__ __class_getitem__",
    "__hash__ __doc__"⟩,
  ⟨.builtin "map", "__getattribute__ __iter__ __next__", "__reduce__", "__new__", "__doc__"⟩,
  ⟨.builtin "range",
    "__repr__ __hash__ __getattribute__ __lt__ __le__ __eq__ __ne__ __gt__ __ge__ __iter__ " ++
    "__bool__ __len__ __getitem__ __contains__",
    "__reversed__ __reduce__",
    "__new__",
    "__doc__"⟩,
  ⟨.builtin "reversed",
    "__getattribute__ __iter__ __next__",
    "__length_hint__ __reduce__ __setstate__",
    "__new__",
    "__doc__"⟩,
  ⟨.builtin "set",
    "__repr__ __getattribute__ __lt__ __le__ __eq__ __ne__ __gt__ __ge__ __iter__ __init__ " ++
    "__sub__ __rsub__ __and__ __rand__ __xor__ __rxor__ __or__ __ror__ __isub__ __iand__ " ++
    "__ixor__ __ior__ __len__",
    "__contains__ __reduce__ __sizeof__",
    "__new__ __class_getitem__",
    "__hash__ __doc__"⟩,
  ⟨.builtin "slice",
    "__repr__ __getattribute__ __lt__ __le__ __eq__ __ne__ __gt__ __ge__",
    "__reduce__",
    "__new__",
    "__hash__ __doc__"⟩,
  ⟨.builtin "staticmethod",
    "__repr__ __call__ __get__ __init__",
    "",
    "__new__",
    "__func__ __wrapped__ __isabstractmethod__ __dict__ __doc__"⟩,
  ⟨.builtin "str",
    "__repr__ __hash__ __str__ __getattribute__ __lt__ __le__ __eq__ __ne__ __gt__ __ge__ " ++
    "__iter__ __mod__ __rmod__ __len__ __getitem__ __add__ __mul__ __rmul__ __contains__",
    "__format__ __sizeof__ __getnewargs__",
    "__new__",
    "__doc__"⟩,
  ⟨.builtin "super",
    "__repr__ __getattribute__ __get__ __init__",
    "",
    "__new__",
    "__thisclass__ __self__ __self_class__ __doc__"⟩,
  ⟨.builtin "tuple",
    "__repr__ __hash__ __getattribute__ __lt__ __le__ __eq__ __ne__ __gt__ __ge__ __iter__ " ++
    "__len__ __getitem__ __add__ __mul__ __rmul__ __contains__",
    "__getnewargs__",
    "__new__ __class_getitem__",
    "__doc__"⟩,
  ⟨.builtin "type",
    "__repr__ __call__ __getattribute__ __setattr__ __delattr__ __init__ __or__ __ror__",
    "__subclasses__ __instancecheck__ __subclasscheck__ __dir__ __sizeof__",
    "__new__ __prepare__",
    "__basicsize__ __itemsize__ __flags__ __weakrefoffset__ __base__ __dictoffset__ __mro__ " ++
    "__name__ __qualname__ __bases__ __module__ __abstractmethods__ __dict__ __doc__ " ++
    "__text_signature__ __annotations__"⟩,
  ⟨.builtin "zip",
    "__getattribute__ __iter__ __next__",
    "__reduce__ __setstate__",
    "__new__",
    "__doc__"⟩,
  ⟨.builtin "NoneType", "__repr__ __bool__", "", "__new__", "__doc__"⟩,
  ⟨.builtin "BaseException",
    "__repr__ __str__ __getattribute__ __setattr__ __delattr__ __init__",
    "__reduce__ __setstate__",
    "__new__",
    "__suppress_context__ __dict__ __traceback__ __context__ __cause__ __doc__"⟩,
  ⟨.builtin "BaseExceptionGroup", "__str__ __init__", "", "__new__ __class_getitem__", "__doc__"⟩,
  ⟨.builtin "AttributeError", "__str__ __init__", "", "", "__doc__"⟩,
  ⟨.builtin "ImportError", "__str__ __init__", "__reduce__", "", "__doc__"⟩,
  ⟨.builtin "NameError", "__str__ __init__", "", "", "__doc__"⟩,
  ⟨.builtin "OSError", "__str__ __init__", "__reduce__", "__new__", "__doc__"⟩,
  ⟨.builtin "SyntaxError", "__str__ __init__", "", "", "__doc__"⟩,
  ⟨.builtin "KeyError", "__str__ __init__", "", "", "__doc__"⟩,
  ⟨.builtin "UnicodeDecodeError", "__str__ __init__", "", "__new__", "__doc__"⟩,
  ⟨.builtin "UnicodeEncodeError", "__str__ __init__", "", "__new__", "__doc__"⟩,
  ⟨.builtin "UnicodeTranslateError", "__str__ __init__", "", "__new__", "__doc__"⟩,
  ⟨.builtin "ExceptionGroup", "", "", "", "__module__ __weakref__ __doc__"⟩,
  ⟨collectionClass "Iterable",
    "",
    "__iter__ __subclasshook__ __class_getitem__",
    "",
    "__module__ __slots__ __doc__ __abstractmethods__ _abc_impl"⟩,
  ⟨collectionClass "Sized",
    "",
    "__len__ __subclasshook__",
    "",
    "__module__ __slots__ __doc__ __abstractmethods__ _abc_impl"⟩,
  ⟨collectionClass "Container",
    "",
    "__contains__ __subclasshook__ __class_getitem__",
    "",
    "__module__ __slots__ __doc__ __abstractmethods__ _abc_impl"⟩,
  ⟨collectionClass "Collection",
    "",
    "__subclasshook__",
    "",
    "__module__ __slots__ __doc__ __abstractmethods__ _abc_impl"⟩,
  ⟨collectionClass "Reversible",
    "",
    "__reversed__ __subclasshook__",
    "",
    "__module__ __slots__ __doc__ __abstractmethods__ _abc_impl"⟩,
  ⟨collectionClass "Sequence",
    "",
    "__getitem__ __iter__ __contains__ __reversed__",
    "",
    "__module__ __doc__ __slots__ __abstractmethods__ _abc_impl"⟩,
  ⟨collectionClass "Mapping",
    "",
    "__getitem__ __contains__ __eq__",
    "",
    "__module__ __doc__ __slots__ __reversed__ __hash__ __abstractmethods__ _abc_impl"⟩,
  ⟨collectionClass "Set",
    "",
    "__le__ __lt__ __gt__ __ge__ __eq__ __and__ __rand__ __or__ __ror__ __sub__ __rsub__ " ++
    "__xor__ __rxor__ _hash",
    "_from_iterable",
    "__module__ __doc__ __slots__ __hash__ __abstractmethods__ _abc_impl"⟩,
  ⟨collectionClass "MappingView",
    "",
    "__init__ __len__ __repr__",
    "__class_getitem__",
    "__module__ __slots__ _mapping __doc__ __abstractmethods__ _abc_impl"⟩,
  ⟨collectionClass "KeysView",
    "",
    "__contains__ __iter__",
    "_from_iterable",
    "__module__ __slots__ __doc__ __abstractmethods__ _abc_impl"⟩,
  ⟨collectionClass "ItemsView",
    "",
    "__contains__ __iter__",
    "_from_iterable",
    "__module__ __slots__ __doc__ __abstractmethods__ _abc_impl"⟩,
  ⟨collectionClass "ValuesView",
    "",
    "__contains__ __iter__",
    "",
    "__module__ __slots__ __doc__ __abstractmethods__ _abc_impl"⟩,
  ⟨collectionClass "Callable",
    "",
    "__call__ __subclasshook__ __class_getitem__",
    "",
    "__module__ __slots__ __doc__ __abstractmethods__ _abc_impl"⟩,
  ⟨numeric "Number",
    "",
    "",
    "",
    "__module__ __doc__ __slots__ __hash__ __abstractmethods__ _abc_impl"⟩,
  ⟨numeric "Complex",
    "",
    "__complex__ __bool__ __add__ __radd__ __neg__ __pos__ __sub__ __rsub__ __mul__ __rmul__ " ++
    "__truediv__ __rtruediv__ __pow__ __rpow__ __abs__ __eq__",
    "",
    "__module__ __doc__ __slots__ __hash__ __abstractmethods__ _abc_impl"⟩,
  ⟨numeric "Real",
    "",
    "__float__ __trunc__ __floor__ __ceil__ __round__ __divmod__ __rdivmod__ __floordiv__ " ++
    "__rfloordiv__ __mod__ __rmod__ __lt__ __le__ __complex__",
    "",
    "__module__ __doc__ __slots__ __abstractmethods__ _abc_impl"⟩,
  ⟨numeric "Rational",
    "",
    "__float__",
    "",
    "__module__ __doc__ __slots__ __abstractmethods__ _abc_impl"⟩,
  ⟨numeric "Integral",
    "",
    "__int__ __index__ __pow__ __lshift__ __rlshift__ __rshift__ __rrshift__ __and__ __rand__ " ++
    "__xor__ __rxor__ __or__ __ror__ __invert__ __float__",
    "",
    "__module__ __doc__ __slots__ __abstractmethods__ _abc_impl"⟩,
  ⟨Value.fractionClass,
    "",
    "__repr__ __str__ _operator_fallbacks _add __add__ __radd__ _sub __sub__ __rsub__ _mul " ++
    "__mul__ __rmul__ _div __truediv__ __rtruediv__ _floordiv __floordiv__ __rfloordiv__ " ++
    "_divmod __divmod__ __rdivmod__ _mod __mod__ __rmod__ __pow__ __rpow__ __pos__ __neg__ " ++
    "__abs__ __int__ __trunc__ __floor__ __ceil__ __round__ __hash__ __eq__ _richcmp __lt__ " ++
    "__gt__ __le__ __ge__ __bool__ __reduce__ __copy__ __deepcopy__",
    "",
    "__module__ __doc__ __slots__ _denominator _numerator __abstractmethods__ _abc_impl"⟩,
  ⟨protocolClass,
    "",
    "__init_subclass__",
    "",
    "__module__ __doc__ __slots__ _is_protocol _is_runtime_protocol __parameters__ " ++
    "__abstractmethods__ _abc_impl"⟩,
  ⟨genericClass,
    "",
    "__class_getitem__ __init_subclass__",
    "",
    "__module__ __doc__ __slots__ _is_protocol"⟩,
  ⟨abstractMetaclass,
    "",
    "__new__ __instancecheck__ __subclasscheck__ _dump_registry _abc_registry_clear " ++
    "_abc_caches_clear",
    "",
    "__module__ __doc__"⟩,
  ⟨protocolMetaclass, "", "__instancecheck__", "", "__module__ __doc__"⟩,
  ⟨typedDictMetaclass,
    "",
    "__subclasscheck__ __instancecheck__",
    "__new__",
    "__call__ __module__ __doc__"⟩,
  boxSpecials .byte, boxSpecials .short, boxSpecials .int, boxSpecials .float,
  boxSpecials .char]

/-- What an error class has of its own. -/
def errorSpecials (c : ClassName) : Specials := ⟨c, "__init__", "", "__new__", "__doc__"⟩

def specialsOf (c : ClassName) : Specials :=
  (specialRows.find? (·.name = c)).getD (errorSpecials c)

def words (s : String) : List String :=
  ((s.toList.splitOn ' ').map .ofList).filter (!·.isEmpty)

/-- The names by which a native class can take back what it inherits. -/
def withdrawn : List String := ["__hash__", "__reversed__"]

/-- The special attribute of this name that a native class has of its own. No public name is one. -/
def special? (c : ClassName) (name : String) : Option Attribute :=
  let s := specialsOf c
  if !name.startsWith "_" then none
  else if (words s.slots).contains name then some .special
  else if (words s.methods).contains name then
    some (if c.module = ClassName.builtinModule then .unsigned false else .native false [])
  else if (words s.statics).contains name then some (.unsigned true)
  else if !(words s.values).contains name then none
  else if withdrawn.contains name then some (.value .nothing)
  else some .property

/-- The names of all special attributes that a native class has of its own. -/
def specialNames (c : ClassName) : List String :=
  let s := specialsOf c
  words s.slots ++ words s.methods ++ words s.statics ++ words s.values

end Overloads.Native
