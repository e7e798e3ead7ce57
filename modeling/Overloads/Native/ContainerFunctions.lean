import Overloads.Native.Arguments
import Overloads.Value.Mapping

/-! The functions of lists, tuples and mappings. -/
namespace Overloads.Native

/-- A value with another content. -/
def withContent (v content : Value) : Value :=
  match v with
  | .object c number (some _) => .object c number (some content)
  | _ => content

/-- The place of a value among some items from `start` on. -/
def placeOf? (items : List Value) (start : Nat) (v : Value) : Option Nat :=
  (items.findIdx? (·.same v)).map (start + ·)

def count (items : List Value) (v : Value) : Answer :=
  answer (.int (items.filter (·.same v)).length)

/-- Takes the item at a place out of a list. -/
def takeOut (receiver : Value) (items : List Value) (at? : Option Value) : Answer := do
  let n ← orElse size at? (-1)
  if items.isEmpty then throw (.nothingToTake "list")
  let i := if n < 0 then n + items.length else n
  match if i < 0 then none else items[i.toNat]? with
  | some v => return ⟨v, some (withContent receiver (.list (items.eraseIdx i.toNat)))⟩
  | none => throw (.noItem "pop index")

/-- Looks for a value between two places; `failure` tells that it is not there. -/
def search (items : List Value) (args : List Value) (failure : Value → Failure) : Answer :=
  match args with
  | v :: places => do
    let (start, part) ← between items places.head? places[1]?
    match placeOf? part start v with
    | some i => answer (.int i)
    | none => throw (failure v)
  | [] => misfit

/-- A function of lists. -/
def listFunction (name : String) (receiver : Value) (args : List Value) : Answer := do
  let .list items := receiver.content | misfit
  let become (items : List Value) : Answer := changed (withContent receiver (.list items))
  match name, args with
  | "clear", [] => become []
  | "copy", [] => answer (.list items)
  | "append", [v] => become (items ++ [v])
  | "insert", [index, v] => do
    let i := place items.length (← size index)
    become (items.take i ++ v :: items.drop i)
  | "extend", [more] => do
    let some vs := more.items? | misfit
    become (items ++ vs)
  | "pop", args => takeOut receiver items args.head?
  | "remove", [v] =>
    match items.findIdx? (·.same v) with
    | some i => become (items.eraseIdx i)
    | none => throw (.rejectedValue "list.remove(x): x not in list")
  | "index", args => search items args fun v => .absentItem v.literal
  | "count", [v] => count items v
  | "reverse", [] => become items.reverse
  | "sort", [] => do become (← Value.sorted none items)
  | _, _ => misfit

/-- A function of tuples. -/
def tupleFunction (name : String) (receiver : Value) (args : List Value) : Answer := do
  let .tuple items := receiver.content | misfit
  let absent : Failure := .rejectedValue "tuple.index(x): x not in tuple"
  match name, args with
  | "index", args => search items args fun _ => absent
  | "count", [v] => count items v
  | _, _ => misfit

/-- A function of mappings that are builtin. -/
def mappingFunction (name : String) (receiver : Value) (args : List Value) : Answer := do
  let .dict pairs := receiver.content | misfit
  match name, args with
  | "get", k :: default => do
    answer ((Value.find? pairs (← k.key)).getD (default.headD .nothing))
  | "setdefault", k :: default => do
    let v := default.headD .nothing
    match Value.find? pairs (← k.key) with
    | some found => answer found
    | none => return ⟨v, some (withContent receiver (.dict (Value.put pairs k v)))⟩
  | "popitem", [] =>
    match pairs.getLast? with
    | some (k, v) => return ⟨.tuple [k, v], some (withContent receiver (.dict pairs.dropLast))⟩
    | none => throw .missingKey
  | _, _ => misfit

/-- A mapping with some keys under which the same value stands. -/
def ofKeys (keys : Value) (v : Option Value) : Except Failure Value := do
  let some ks := keys.items? | misfit
  Value.ofPairs (ks.map (·, v.getD .nothing))

/-- A function that any sequence has. -/
def sequenceFunction (name : String) (receiver : Value) (args : List Value) : Answer := do
  let some items := receiver.items? | misfit
  let absent : Failure := .rejectedValue ""
  match name, args with
  | "index", [v, start, .nothing] => search items [v, start] fun _ => absent
  | "index", args => search items args fun _ => absent
  | "count", [v] => count items v
  | _, _ => misfit

/-- A function that any mapping has. -/
def anyMappingFunction (name : String) (receiver : Value) (args : List Value) : Answer := do
  let .dict pairs := receiver.content | misfit
  let view (name : String) : Answer :=
    answer (.native ⟨["collections", "abc"], [name]⟩ .call [receiver])
  match name, args with
  | "get", k :: default => do
    answer ((Value.find? pairs (← k.key)).getD (default.headD .nothing))
  | "keys", [] => view "KeysView"
  | "items", [] => view "ItemsView"
  | "values", [] => view "ValuesView"
  | _, _ => misfit

/-- A view of the bytes in a value. -/
def byteView (data : List UInt8) : Value :=
  .native (.builtin "memoryview") (.text none) [.bytes data]

/-- A function of views of bytes. -/
def viewFunction (name : String) (receiver : Value) (args : List Value) : Answer := do
  let data ← bytes receiver
  match name, args with
  | "release", [] => answer .nothing
  | "tobytes", args => do
    let order ← unlessNothing text args.head?
    match order.map String.ofList with
    | none | some "C" | some "F" | some "A" => answer (.bytes data)
    | some _ => throw (.rejectedValue "order must be 'C', 'F' or 'A'")
  | "tolist", [] => answer (.list (Value.byteValues data))
  | "toreadonly", [] => answer (byteView data)
  | _, _ => misfit

end Overloads.Native
