import Overloads.Native.Making

/-! Calling the functions of native classes. -/
namespace Overloads.Native

/-- What the plus sign makes of a number. -/
def plain? (v : Value) : Option Value :=
  match v.content with
  | .bool b => some (.int (if b then 1 else 0))
  | .int n | .boxedInt _ n => some (.int n)
  | .float x | .boxedFloat x => some (.float x)
  | .fraction num den => some (.fraction num den)
  | _ => none

/-- A function of numbers of any kind. -/
def anyNumberFunction (name : String) (receiver : Value) (args : List Value) : Answer :=
  match name, args, plain? receiver with
  | "conjugate", [], some v => answer v
  | _, _, _ => misfit

/-- The functions of the instances of a native class. -/
def functionOf (holder : ClassName) (name : String) (receiver : Value) (args : List Value) : Answer :=
  if holder.module = numberModule then anyNumberFunction name receiver args
  else if holder = Value.fractionClass then fractionFunction name receiver args
  else if holder = collectionClass "Sequence" then sequenceFunction name receiver args
  else if holder = collectionClass "Mapping" then anyMappingFunction name receiver args
  else match holder.simpleName with
    | "str" => textFunction name receiver args
    | "bytes" => byteFunction name receiver args
    | "bytearray" => byteArrayFunction name receiver args
    | "int" => integerFunction name receiver args
    | "float" => doubleFunction name receiver args
    | "complex" => complexFunction name receiver args
    | "list" => listFunction name receiver args
    | "tuple" => tupleFunction name receiver args
    | "dict" => mappingFunction name receiver args
    | "memoryview" => viewFunction name receiver args
    | _ => misfit

/-- Calls a function of instances, whose first argument is the instance. -/
def call (holder : ClassName) (name : String) (args : List Value) : Answer :=
  match args with
  | [] => misfit
  | receiver :: rest => functionOf holder name receiver rest

/-- What a function of a class comes to. -/
inductive Made where
  | finished (v : Value)
  /-- An instance made of these arguments. -/
  | instanceOf (args : List Value)
  /-- An instance made of no arguments and filled with this content. -/
  | filled (content : Value)

/-- Calls a function of a class. -/
def callOfClass (holder : ClassName) (name : String) (args : List Value) : Except Failure Made :=
  match holder.simpleName, name, args with
  | "int", "from_bytes", [data] => do return .instanceOf [.int (← ofBytes data none)]
  | "int", "from_bytes", [data, order] => do return .instanceOf [.int (← ofBytes data order)]
  | "float", "fromhex", [s] => do return .instanceOf [.float (← doubleOfHex s)]
  | "bytes", "fromhex", [s] | "bytearray", "fromhex", [s] => do
    return .instanceOf [.bytes (← fromHex s)]
  | "bytes", "maketrans", [a, b] | "bytearray", "maketrans", [a, b] => do
    return .finished (← translationTable a b).value
  | "dict", "fromkeys", [keys] => do return .filled (← ofKeys keys none)
  | "dict", "fromkeys", [keys, v] => do return .filled (← ofKeys keys v)
  | "Fraction", "from_float", [v] =>
    match integer? v, double? v with
    | some _, _ => .ok (.instanceOf [v])
    | none, some x => do
      let (n, d) ← doubleRatio x
      return .instanceOf [.int n, .int d]
    | none, none => misfit
  | "Fraction", "from_decimal", [v] => do return .instanceOf [.int (← integer v), .int 1]
  | _, _, _ => misfit

end Overloads.Native
