import Overloads.Value

/-! What a value yields when one goes through it. -/
namespace Overloads.Value

/-- The text that a value is or holds. -/
def asText? (v : Value) : Option String :=
  match v.content with
  | .str s | .character s => some s
  | _ => none

/-- How many steps lead from `start` to `stop`, which is not reached itself. -/
def stepCount (start stop step : Int) : Nat :=
  if 0 < step then ((stop - start + step - 1) / step).toNat
  else ((start - stop - step - 1) / -step).toNat

/-- The numbers of a range. -/
def rangeNumbers (start stop step : Int) : List Int :=
  (List.range (stepCount start stop step)).map fun (i : Nat) => start + i * step

def characters (s : String) : List Value := s.toList.map fun c => .str (String.singleton c)

def byteValues (data : List UInt8) : List Value := data.map fun b => .int b.toNat

/-- Builtin classes whose instances are given by the items that they hold. -/
def holdsParts (c : ClassName) : Bool :=
  c = .builtin "set" || c = .builtin "frozenset" || c = .builtin "dict_keys" ||
    c = .builtin "dict_values" || c = .builtin "dict_items"

/-- The bytes in a value, if it holds bytes. -/
def bytes? : Value → Option (List UInt8)
  | .bytes data => some data
  | .native c _ [.bytes data] =>
    if c = .builtin "bytearray" || c = .builtin "memoryview" then some data else none
  | .object _ _ (some v) => v.bytes?
  | _ => none

/-- The items that a value yields; none where one cannot go through it. -/
def items? : Value → Option (List Value)
  | .str s | .character s => some (characters s)
  | .list items | .tuple items => some items
  | .dict items => some (items.map (·.1))
  | .bytes data => some (byteValues data)
  | .native c form parts =>
    if c = .builtin "range" then
      match parts with
      | [.int start, .int stop, .int step] => some ((rangeNumbers start stop step).map .int)
      | _ => none
    else if holdsParts c then some parts
    else (bytes? (.native c form parts)).map byteValues
  | .object _ _ (some v) => v.items?
  | _ => none

/-- How many items a value has, where it has a size. -/
def length? : Value → Option Nat
  | .str s | .character s => some s.length
  | .native c form parts =>
    if c = .builtin "range" then
      match parts with
      | [.int start, .int stop, .int step] => some (stepCount start stop step)
      | _ => none
    else ((Value.native c form parts).items?).map (·.length)
  | .object _ _ (some v) => v.length?
  | v => v.items?.map (·.length)

/-- Whether a value counts as true. -/
def isTrue : Value → Bool
  | .nothing => false
  | .bool b => b
  | .int n | .boxedInt _ n => n ≠ 0
  | .float x | .boxedFloat x =>
    match x with
    | .finite _ m _ => m ≠ 0
    | _ => true
  | .fraction num _ => num ≠ 0
  | .object _ _ (some v) => v.isTrue
  | v => v.length?.getD 1 ≠ 0

end Overloads.Value
