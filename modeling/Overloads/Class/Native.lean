import Overloads.Class.Description

/-! Classes that need no description: what they inherit and the numbers of arguments they take. -/
namespace Overloads.Native

def method (name : String) (counts : List Nat) : String × Attribute := (name, .native false counts)

def static (name : String) (counts : List Nat) : String × Attribute := (name, .native true counts)

def unsigned (name : String) : String × Attribute := (name, .unsigned false)

def unsignedStatic (name : String) : String × Attribute := (name, .unsigned true)

def hidden (name : String) : String × Attribute := (name, .property)

/--
A native class: its name, the rest of its linearization, the argument counts of its constructor if
that has a signature, and its public attributes.
-/
structure Row where
  name : ClassName
  ancestors : List ClassName
  counts : Option (List Nat)
  attributes : List (String × Attribute)

def plain (name : String) (ancestors : List String) (counts : Option (List Nat))
    (attributes : List (String × Attribute)) : Row :=
  ⟨.builtin name, ancestors.map .builtin ++ [.object], counts, attributes⟩

def collectionModule : List String := ["collections", "abc"]

def collectionClass (name : String) : ClassName := ⟨collectionModule, [name]⟩

def collection (name : String) (ancestors : List String) (attributes : List (String × Attribute)) :
    Row :=
  ⟨collectionClass name, ancestors.map collectionClass ++ [.object], none, attributes⟩

def numberModule : List String := ["numbers"]

def numeric (name : String) : ClassName := ⟨numberModule, [name]⟩

def number (name : String) (ancestors : List String) (attributes : List (String × Attribute)) :
    Row :=
  ⟨numeric name, ancestors.map numeric ++ [.object], none, attributes⟩

def fractionAncestors : List ClassName :=
  ["Rational", "Real", "Complex", "Number"].map numeric ++ [.object]

def memoryviewAttributes : List (String × Attribute) := [
  method "release" [0], method "tobytes" [0, 1], unsigned "hex", method "tolist" [0],
  unsigned "cast", method "toreadonly" [0], hidden "obj", hidden "nbytes", hidden "readonly",
  hidden "itemsize", hidden "format", hidden "ndim", hidden "shape", hidden "strides",
  hidden "suboffsets", hidden "c_contiguous", hidden "f_contiguous", hidden "contiguous"]

def bytearrayAttributes : List (String × Attribute) := [
  method "append" [1], unsigned "capitalize", method "center" [1, 2], method "clear" [0],
  method "copy" [0], unsigned "count", method "decode" [0, 1, 2], unsigned "endswith",
  method "expandtabs" [0, 1], method "extend" [1], unsigned "find", static "fromhex" [1],
  unsigned "hex", unsigned "index", method "insert" [2], unsigned "isalnum", unsigned "isalpha",
  unsigned "isascii", unsigned "isdigit", unsigned "islower", unsigned "isspace",
  unsigned "istitle", unsigned "isupper", method "join" [1], method "ljust" [1, 2],
  unsigned "lower", method "lstrip" [0, 1], static "maketrans" [2], method "partition" [1],
  method "pop" [0, 1], method "remove" [1], method "replace" [2, 3], method "removeprefix" [1],
  method "removesuffix" [1], method "reverse" [0], unsigned "rfind", unsigned "rindex",
  method "rjust" [1, 2], method "rpartition" [1], method "rsplit" [0, 1, 2], method "rstrip" [0, 1],
  method "split" [0, 1, 2], method "splitlines" [0, 1], unsigned "startswith",
  method "strip" [0, 1], unsigned "swapcase", unsigned "title", method "translate" [1, 2],
  unsigned "upper", method "zfill" [1]]

def bytesAttributes : List (String × Attribute) := [
  unsigned "capitalize", method "center" [1, 2], unsigned "count", method "decode" [0, 1, 2],
  unsigned "endswith", method "expandtabs" [0, 1], unsigned "find", static "fromhex" [1],
  unsigned "hex", unsigned "index", unsigned "isalnum", unsigned "isalpha", unsigned "isascii",
  unsigned "isdigit", unsigned "islower", unsigned "isspace", unsigned "istitle",
  unsigned "isupper", method "join" [1], method "ljust" [1, 2], unsigned "lower",
  method "lstrip" [0, 1], static "maketrans" [2], method "partition" [1], method "replace" [2, 3],
  method "removeprefix" [1], method "removesuffix" [1], unsigned "rfind", unsigned "rindex",
  method "rjust" [1, 2], method "rpartition" [1], method "rsplit" [0, 1, 2], method "rstrip" [0, 1],
  method "split" [0, 1, 2], method "splitlines" [0, 1], unsigned "startswith",
  method "strip" [0, 1], unsigned "swapcase", unsigned "title", method "translate" [1, 2],
  unsigned "upper", method "zfill" [1]]

def dictAttributes : List (String × Attribute) := [
  method "get" [1, 2], method "setdefault" [1, 2], unsigned "pop", method "popitem" [0],
  unsigned "keys", unsigned "items", unsigned "values", unsigned "update", static "fromkeys" [1, 2],
  unsigned "clear", unsigned "copy"]

def floatAttributes : List (String × Attribute) := [
  method "conjugate" [0], method "as_integer_ratio" [0], static "fromhex" [1], method "hex" [0],
  method "is_integer" [0], hidden "real", hidden "imag"]

def frozensetAttributes : List (String × Attribute) := [
  unsigned "copy", unsigned "difference", unsigned "intersection", unsigned "isdisjoint",
  unsigned "issubset", unsigned "issuperset", unsigned "symmetric_difference", unsigned "union"]

def intAttributes : List (String × Attribute) := [
  unsigned "conjugate", method "bit_length" [0], method "bit_count" [0],
  method "to_bytes" [0, 1, 2], static "from_bytes" [1, 2], method "as_integer_ratio" [0],
  hidden "real", hidden "imag", hidden "numerator", hidden "denominator"]

def listAttributes : List (String × Attribute) := [
  method "clear" [0], method "copy" [0], method "append" [1], method "insert" [2],
  method "extend" [1], method "pop" [0, 1], method "remove" [1], method "index" [1, 2, 3],
  method "count" [1], method "reverse" [0], method "sort" [0]]

def setAttributes : List (String × Attribute) := [
  unsigned "add", unsigned "clear", unsigned "copy", unsigned "discard", unsigned "difference",
  unsigned "difference_update", unsigned "intersection", unsigned "intersection_update",
  unsigned "isdisjoint", unsigned "issubset", unsigned "issuperset", unsigned "pop",
  unsigned "remove", unsigned "symmetric_difference", unsigned "symmetric_difference_update",
  unsigned "union", unsigned "update"]

def strAttributes : List (String × Attribute) := [
  method "encode" [0, 1, 2], method "replace" [2, 3], method "split" [0, 1, 2],
  method "rsplit" [0, 1, 2], method "join" [1], method "capitalize" [0], method "casefold" [0],
  method "title" [0], method "center" [1, 2], unsigned "count", method "expandtabs" [0, 1],
  unsigned "find", method "partition" [1], unsigned "index", method "ljust" [1, 2],
  method "lower" [0], method "lstrip" [0, 1], unsigned "rfind", unsigned "rindex",
  method "rjust" [1, 2], method "rstrip" [0, 1], method "rpartition" [1],
  method "splitlines" [0, 1], method "strip" [0, 1], method "swapcase" [0], method "translate" [1],
  method "upper" [0], unsigned "startswith", unsigned "endswith", method "removeprefix" [1],
  method "removesuffix" [1], method "isascii" [0], method "islower" [0], method "isupper" [0],
  method "istitle" [0], method "isspace" [0], method "isdecimal" [0], method "isdigit" [0],
  method "isnumeric" [0], method "isalpha" [0], method "isalnum" [0], method "isidentifier" [0],
  method "isprintable" [0], method "zfill" [1], unsigned "format", unsigned "format_map",
  unsignedStatic "maketrans"]

def syntaxErrorAttributes : List (String × Attribute) := [
  hidden "msg", hidden "filename", hidden "lineno", hidden "offset", hidden "text",
  hidden "end_lineno", hidden "end_offset", hidden "print_file_and_line"]

/-- Builtin classes that are no exceptions. -/
def builtinRows : List Row := [
  plain "bool" ["int"] none [],
  plain "memoryview" [] (some [1]) memoryviewAttributes,
  plain "bytearray" [] none bytearrayAttributes,
  plain "bytes" [] none bytesAttributes,
  plain "classmethod" [] none [],
  plain "complex" [] (some [0, 1, 2]) [method "conjugate" [0], hidden "real", hidden "imag"],
  plain "dict" [] none dictAttributes,
  plain "enumerate" [] (some [1, 2]) [],
  plain "filter" [] none [],
  plain "float" [] (some [0, 1]) floatAttributes,
  plain "frozenset" [] none frozensetAttributes,
  plain "property" [] (some [0, 1, 2, 3, 4])
    [unsigned "getter", unsigned "setter", unsigned "deleter", hidden "fget", hidden "fset",
      hidden "fdel"],
  plain "int" [] none intAttributes,
  plain "list" [] (some [0, 1]) listAttributes,
  plain "map" [] none [],
  ⟨.object, [], none, []⟩,
  plain "range" [] none
    [unsigned "count", unsigned "index", hidden "start", hidden "stop", hidden "step"],
  plain "reversed" [] (some [1]) [],
  plain "set" [] none setAttributes,
  plain "slice" [] none [unsigned "indices", hidden "start", hidden "stop", hidden "step"],
  plain "staticmethod" [] none [],
  plain "str" [] none strAttributes,
  plain "super" [] none [],
  plain "tuple" [] (some [0, 1]) [method "index" [1, 2, 3], method "count" [1]],
  plain "type" [] none [method "mro" [0]],
  plain "zip" [] none [],
  plain "NoneType" [] none []]

/-- Exception classes. -/
def exceptionRows : List Row := [
  plain "BaseException" [] none [unsigned "with_traceback", unsigned "add_note", hidden "args"],
  plain "BaseExceptionGroup" ["BaseException"] none
    [unsigned "derive", unsigned "split", unsigned "subgroup", hidden "message",
      hidden "exceptions"],
  plain "Exception" ["BaseException"] none [],
  plain "GeneratorExit" ["BaseException"] none [],
  plain "KeyboardInterrupt" ["BaseException"] none [],
  plain "SystemExit" ["BaseException"] none [hidden "code"],
  plain "ArithmeticError" ["Exception", "BaseException"] none [],
  plain "AssertionError" ["Exception", "BaseException"] none [],
  plain "AttributeError" ["Exception", "BaseException"] none [hidden "name", hidden "obj"],
  plain "BufferError" ["Exception", "BaseException"] none [],
  plain "EOFError" ["Exception", "BaseException"] none [],
  plain "ImportError" ["Exception", "BaseException"] none
    [hidden "msg", hidden "name", hidden "path"],
  plain "LookupError" ["Exception", "BaseException"] none [],
  plain "MemoryError" ["Exception", "BaseException"] none [],
  plain "NameError" ["Exception", "BaseException"] none [hidden "name"],
  plain "OSError" ["Exception", "BaseException"] none
    [hidden "errno", hidden "strerror", hidden "filename", hidden "filename2",
      hidden "characters_written"],
  plain "ReferenceError" ["Exception", "BaseException"] none [],
  plain "RuntimeError" ["Exception", "BaseException"] none [],
  plain "StopAsyncIteration" ["Exception", "BaseException"] none [],
  plain "StopIteration" ["Exception", "BaseException"] none [hidden "value"],
  plain "SyntaxError" ["Exception", "BaseException"] none syntaxErrorAttributes,
  plain "SystemError" ["Exception", "BaseException"] none [],
  plain "TypeError" ["Exception", "BaseException"] none [],
  plain "ValueError" ["Exception", "BaseException"] none [],
  plain "Warning" ["Exception", "BaseException"] none [],
  plain "FloatingPointError" ["ArithmeticError", "Exception", "BaseException"] none [],
  plain "OverflowError" ["ArithmeticError", "Exception", "BaseException"] none [],
  plain "ZeroDivisionError" ["ArithmeticError", "Exception", "BaseException"] none [],
  plain "BytesWarning" ["Warning", "Exception", "BaseException"] none [],
  plain "DeprecationWarning" ["Warning", "Exception", "BaseException"] none [],
  plain "EncodingWarning" ["Warning", "Exception", "BaseException"] none [],
  plain "FutureWarning" ["Warning", "Exception", "BaseException"] none [],
  plain "ImportWarning" ["Warning", "Exception", "BaseException"] none [],
  plain "PendingDeprecationWarning" ["Warning", "Exception", "BaseException"] none [],
  plain "ResourceWarning" ["Warning", "Exception", "BaseException"] none [],
  plain "RuntimeWarning" ["Warning", "Exception", "BaseException"] none [],
  plain "SyntaxWarning" ["Warning", "Exception", "BaseException"] none [],
  plain "UnicodeWarning" ["Warning", "Exception", "BaseException"] none [],
  plain "UserWarning" ["Warning", "Exception", "BaseException"] none [],
  plain "BlockingIOError" ["OSError", "Exception", "BaseException"] none [],
  plain "ChildProcessError" ["OSError", "Exception", "BaseException"] none [],
  plain "ConnectionError" ["OSError", "Exception", "BaseException"] none [],
  plain "FileExistsError" ["OSError", "Exception", "BaseException"] none [],
  plain "FileNotFoundError" ["OSError", "Exception", "BaseException"] none [],
  plain "InterruptedError" ["OSError", "Exception", "BaseException"] none [],
  plain "IsADirectoryError" ["OSError", "Exception", "BaseException"] none [],
  plain "NotADirectoryError" ["OSError", "Exception", "BaseException"] none [],
  plain "PermissionError" ["OSError", "Exception", "BaseException"] none [],
  plain "ProcessLookupError" ["OSError", "Exception", "BaseException"] none [],
  plain "TimeoutError" ["OSError", "Exception", "BaseException"] none [],
  plain "IndentationError" ["SyntaxError", "Exception", "BaseException"] none [],
  plain "IndexError" ["LookupError", "Exception", "BaseException"] none [],
  plain "KeyError" ["LookupError", "Exception", "BaseException"] none [],
  plain "ModuleNotFoundError" ["ImportError", "Exception", "BaseException"] none [],
  plain "NotImplementedError" ["RuntimeError", "Exception", "BaseException"] none [],
  plain "RecursionError" ["RuntimeError", "Exception", "BaseException"] none [],
  plain "UnboundLocalError" ["NameError", "Exception", "BaseException"] none [],
  plain "UnicodeError" ["ValueError", "Exception", "BaseException"] none [],
  plain "BrokenPipeError" ["ConnectionError", "OSError", "Exception", "BaseException"] none [],
  plain "ConnectionAbortedError" ["ConnectionError", "OSError", "Exception", "BaseException"] none
    [],
  plain "ConnectionRefusedError" ["ConnectionError", "OSError", "Exception", "BaseException"] none
    [],
  plain "ConnectionResetError" ["ConnectionError", "OSError", "Exception", "BaseException"] none [],
  plain "TabError" ["IndentationError", "SyntaxError", "Exception", "BaseException"] none [],
  plain "UnicodeDecodeError" ["UnicodeError", "ValueError", "Exception", "BaseException"] none
    [hidden "encoding", hidden "object", hidden "start", hidden "end", hidden "reason"],
  plain "UnicodeEncodeError" ["UnicodeError", "ValueError", "Exception", "BaseException"] none
    [hidden "encoding", hidden "object", hidden "start", hidden "end", hidden "reason"],
  plain "UnicodeTranslateError" ["UnicodeError", "ValueError", "Exception", "BaseException"] none
    [hidden "encoding", hidden "object", hidden "start", hidden "end", hidden "reason"],
  plain "ExceptionGroup" ["BaseExceptionGroup", "Exception", "BaseException"] none []]

/-- Abstract collections. -/
def collectionRows : List Row := [
  collection "Iterable" [] [],
  collection "Sized" [] [],
  collection "Container" [] [],
  collection "Collection" ["Sized", "Iterable", "Container"] [],
  collection "Reversible" ["Iterable"] [],
  collection "Sequence" ["Reversible", "Collection", "Sized", "Iterable", "Container"]
    [method "index" [1, 2, 3], method "count" [1]],
  collection "Mapping" ["Collection", "Sized", "Iterable", "Container"]
    [method "get" [1, 2], method "keys" [0], method "items" [0], method "values" [0]],
  collection "Set" ["Collection", "Sized", "Iterable", "Container"] [method "isdisjoint" [1]],
  collection "MappingView" ["Sized"] [],
  collection "KeysView" ["MappingView", "Set", "Collection", "Sized", "Iterable", "Container"] [],
  collection "ItemsView" ["MappingView", "Set", "Collection", "Sized", "Iterable", "Container"] [],
  collection "ValuesView" ["MappingView", "Collection", "Sized", "Iterable", "Container"] [],
  collection "Callable" [] []]

/-- A function that makes an instance out of the class and some values with defaults. -/
def allocator (c : ClassName) (params : List Param) : String × Attribute :=
  (allocatorName, .function .static
    { module := c.module
      path := c.path ++ [allocatorName]
      role := .allocator
      overloads := []
      implementation := ⟨⟨"cls", .positional, none, none⟩ :: params, none⟩
      body := .trace
      postponed := true })

/-- Making a fraction takes a numerator and a denominator, or either alone, or nothing. -/
def fractionAllocator : String × Attribute :=
  allocator Value.fractionClass
    [⟨"numerator", .positional, none, some (.int 0)⟩,
      ⟨"denominator", .positional, none, some .nothing⟩]

/-- Making a character takes one text. -/
def characterAllocator : String × Attribute :=
  allocator (Primitive.boxed .char)
    [⟨"value", .positional, some (.named (.builtin "str")), none⟩]

/-- Abstract numbers and fractions. -/
def numberRows : List Row := [
  number "Number" [] [],
  number "Complex" ["Number"] [hidden "real", hidden "imag", method "conjugate" [0]],
  number "Real" ["Complex", "Number"] [hidden "real", hidden "imag", method "conjugate" [0]],
  number "Rational" ["Real", "Complex", "Number"] [hidden "numerator", hidden "denominator"],
  number "Integral" ["Rational", "Real", "Complex", "Number"]
    [hidden "numerator", hidden "denominator"],
  ⟨Value.fractionClass, fractionAncestors, none,
    [fractionAllocator, static "from_float" [1], static "from_decimal" [1],
      method "as_integer_ratio" [0], method "limit_denominator" [0, 1], hidden "numerator",
      hidden "denominator"]⟩]

/-- The base that makes a class a protocol. -/
def protocolClass : ClassName := ⟨["typing"], ["Protocol"]⟩

def genericClass : ClassName := ⟨["typing"], ["Generic"]⟩

def protocolRows : List Row := [
  ⟨protocolClass, [genericClass, .object], none, []⟩,
  ⟨genericClass, [.object], none, []⟩]

def abstractMetaclass : ClassName := ⟨["abc"], ["ABCMeta"]⟩

def protocolMetaclass : ClassName := ⟨["typing"], ["_ProtocolMeta"]⟩

/-- The base of classes that have a fixed list of instances. -/
def enumeration : ClassName := ⟨["enum"], ["Enum"]⟩

def enumerationMetaclass : ClassName := ⟨["enum"], ["EnumType"]⟩

def typedDictMetaclass : ClassName := ⟨["typing"], ["_TypedDictMeta"]⟩

/-- The classes of classes. -/
def metaclassRows : List Row := [
  ⟨abstractMetaclass, [.builtin "type", .object], none, []⟩,
  ⟨protocolMetaclass, [abstractMetaclass, .builtin "type", .object], none, []⟩,
  ⟨enumerationMetaclass, [.builtin "type", .object], none, []⟩,
  ⟨typedDictMetaclass, [.builtin "type", .object], none, []⟩]

/-- The boxes that are not builtin classes. -/
def boxRows : List Row :=
  let box (p : Primitive) (base : String) (attributes : List (String × Attribute)) : Row :=
    ⟨p.boxed, [.builtin base, .object], none, attributes⟩
  [box .byte "int" [], box .short "int" [], box .int "int" [], box .float "float" [],
    box .char "str" [characterAllocator]]

def rows : List Row :=
  builtinRows ++ exceptionRows ++ collectionRows ++ numberRows ++ protocolRows ++
    metaclassRows ++ boxRows

def Row.info (r : Row) : ClassInfo where
  name := r.name
  linearization := r.name :: r.ancestors
  isProtocol := r.name = protocolClass
  runtimeCheckable := false
  attributes := r.attributes
  annotations := []
  constructorCounts := r.counts

/-- The description of a native class. -/
def info? (c : ClassName) : Option ClassInfo := (rows.find? (·.name = c)).map Row.info

end Overloads.Native
