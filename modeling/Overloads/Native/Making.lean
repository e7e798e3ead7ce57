import Overloads.Class.Native
import Overloads.Native.ByteFunctions
import Overloads.Native.ContainerFunctions
import Overloads.Native.NumberFunctions
import Overloads.Number.Radix

/-! Making values of builtin classes. -/
namespace Overloads.Native

open Overloads.Number

/-- An integer out of a text in some base. -/
def integerIn (v base : Value) : Except Failure Int := do
  let b ← integer base
  if b < 0 || b = 1 || 36 < b then
    throw (.rejectedValue "int() base must be >= 2 and <= 36, or 0")
  let s ← match v.asText?, v.bytes? with
    | some s, _ => pure s.toList
    | none, some data => pure (Value.numeralOfBytes data)
    | none, none => misfit
  match readInBase b.toNat s with
  | .value n => return n
  | .tooLong digits => throw (.integerTooLong digits)
  | .malformed => throw (.notAnInteger b.toNat v.literal)

def makeInteger (args : List Value) : Except Failure Int :=
  match args with
  | [] => .ok 0
  | [v] => v.toInteger
  | [v, base] => integerIn v base
  | _ => misfit

def makeDouble (args : List Value) : Except Failure Binary64 :=
  match args with
  | [] => .ok (.zero false)
  | [v] => v.toDouble
  | _ => misfit

/-- The place of the sign that parts the two numbers of a complex one, if there is one. -/
def signPlace? (s : List Char) : Option Nat :=
  ((List.range s.length).reverse).find? fun i =>
    i ≠ 0 && (s[i]? = some '+' || s[i]? = some '-') &&
      s[i - 1]? ≠ some 'e' && s[i - 1]? ≠ some 'E'

/-- The number before the imaginary unit; without digits it is one. -/
def imaginary? (s : List Char) : Option Binary64 :=
  match s with
  | [] | ['+'] => some (.ofInt 1)
  | ['-'] => some (.ofInt (-1))
  | _ => readDecimal s

/-- Reads the text of a complex number. -/
def readComplex? (s : List Char) : Option (Binary64 × Binary64) :=
  let s := Text.stripped s
  let s := if s.head? = some '(' && s.getLast? = some ')' then
    Text.stripped (s.drop 1).dropLast else s
  if s.any Text.isBlank then none
  else match s.getLast? with
    | none => none
    | some c =>
      if c ≠ 'j' && c ≠ 'J' then (readDecimal s).map (·, .zero false)
      else
        let body := s.dropLast
        match signPlace? body with
        | none => (imaginary? body).map (.zero false, ·)
        | some i => do return (← readDecimal (body.take i), ← imaginary? (body.drop i))

/-- The parts of a complex number or of a real one. -/
def complexOf (v : Value) : Except Failure (Binary64 × Binary64) :=
  match complexParts? v, v.asText?, v.bytes? with
  | some parts, _, _ => .ok parts
  | none, none, none => v.toDouble.map (·, .zero false)
  | _, _, _ => misfit

def makeComplex (args : List Value) : Except Failure Value :=
  match args with
  | [] => .ok (complexNumber (.zero false) (.zero false))
  | [v] =>
    match v.asText? with
    | some s =>
      match readComplex? s.toList with
      | some (re, im) => .ok (complexNumber re im)
      | none => .error (.rejectedValue "complex() arg is a malformed string")
    | none => do
      let (re, im) ← complexOf v
      return complexNumber re im
  | [v, w] => do
    let (re, _) ← complexOf v
    let (im, _) ← complexOf w
    return complexNumber re im
  | _ => misfit

def makeText (args : List Value) : Except Failure String :=
  match args with
  | [] => .ok ""
  | [v] => .ok (v.text.getD "")
  | v :: how => do return String.ofList (← decoded (← bytes v) how)

/--
Bytes out of a text, a size, other bytes or single numbers, one of which is called `what` if it does
not fit.
-/
def makeBytes (what : String) (args : List Value) : Except Failure (List UInt8) :=
  match args with
  | [] => .ok []
  | [v] =>
    match v.asText?, integer? v with
    | some _, _ => misfit
    | none, some _ => do
      let n ← size v
      if n < 0 then throw (.rejectedValue "negative count")
      return List.replicate n.toNat 0
    | none, none =>
      match v.bytes?, v.items? with
      | some data, _ => .ok data
      | none, some items => items.mapM (byteNamed what)
      | none, none => misfit
  | v :: how => do encoded (← text v) how

def makeItems (args : List Value) : Except Failure (List Value) :=
  match args with
  | [] => .ok []
  | [v] => v.items?.elim misfit .ok
  | _ => misfit

/-- The pairs that the items of a value are. -/
def pairsFrom (place : Nat) : List Value → Except Failure (List (Value × Value))
  | [] => .ok []
  | item :: rest =>
    match item.items? with
    | some [k, v] => do return (k, v) :: (← pairsFrom (place + 1) rest)
    | some parts => .error (.rejectedValue <|
        "dictionary update sequence element #" ++ decimalText (place : Int) ++ " has length " ++
          decimalText (parts.length : Int) ++ "; 2 is required")
    | none => misfit

def makeMapping (args : List Value) : Except Failure Value :=
  match args with
  | [] => .ok (.dict [])
  | [v] =>
    match v.content with
    | .dict pairs => .ok (.dict pairs)
    | w => do Value.ofPairs (← pairsFrom 0 (← makeItems [w]))
  | _ => misfit

def makeRange (args : List Value) : Except Failure Value := do
  let (start, stop, step) ← match args with
    | [stop] => pure (0, ← integer stop, 1)
    | [start, stop] => pure (← integer start, ← integer stop, 1)
    | [start, stop, step] => pure (← integer start, ← integer stop, ← integer step)
    | _ => misfit
  if step = 0 then throw (.rejectedValue "range() arg 3 must not be zero")
  let ends := [decimalText start, decimalText stop] ++
    (if step = 1 then [] else [decimalText step])
  return .native (.builtin "range") (.text (some (Value.callText "range" ends)))
    [.int start, .int stop, .int step]

def makeSlice (args : List Value) : Except Failure Value :=
  let slice (start stop step : Value) : Except Failure Value :=
    .ok (.native (.builtin "slice") .call [start, stop, step])
  match args with
  | [stop] => slice .nothing stop .nothing
  | [start, stop] => slice start stop .nothing
  | [start, stop, step] => slice start stop step
  | _ => misfit

/-- A fraction out of a numerator and a denominator, or out of one value. -/
def makeFraction (args : List Value) : Except Failure Value :=
  match args with
  | [] => .ok (.fraction 0 1)
  | [v] | [v, .nothing] => fractionOf v
  | [num, den] =>
    match ratio? num, ratio? den with
    | some a, some b => quotient a b
    | _, _ => misfit
  | _ => misfit

/-- Errors that are made of several values of certain kinds. -/
def demandingErrors : List String := [
  "UnicodeDecodeError", "UnicodeEncodeError", "UnicodeTranslateError", "BaseExceptionGroup",
  "ExceptionGroup"]

/-- A value whose text depends on where it is. -/
def nameless (c : ClassName) (parts : List Value) : Value := .native c (.text none) parts

def makeError (c : ClassName) (args : List Value) : Except Failure Value :=
  if demandingErrors.contains c.simpleName then misfit else .ok (.native c .error args)

/-- Makes a value of a builtin class that is no error. -/
def makeBuiltin (name : String) (args : List Value) : Except Failure Value :=
  let c : ClassName := .builtin name
  match name, args with
  | "object", [] => .ok (nameless c [])
  | "bool", [] => .ok (.bool false)
  | "bool", [v] => .ok (.bool v.isTrue)
  | "int", args => (makeInteger args).map .int
  | "float", args => (makeDouble args).map .float
  | "complex", args => makeComplex args
  | "str", args => (makeText args).map .str
  | "bytes", args => (makeBytes "bytes" args).map .bytes
  | "bytearray", args => (makeBytes "byte" args).map byteArray
  | "list", args => (makeItems args).map .list
  | "tuple", args => (makeItems args).map .tuple
  | "dict", args => makeMapping args
  | "set", args => do return .native c .braces (← Value.distinct (← makeItems args))
  | "frozenset", args => do return .native c .braces (← Value.distinct (← makeItems args))
  | "range", args => makeRange args
  | "slice", args => makeSlice args
  | "memoryview", [v] => (bytes v).map byteView
  | "property", args => if args.length ≤ 4 then .ok (nameless c []) else misfit
  | "NoneType", [] => .ok .nothing
  | "enumerate", v :: _ => v.items?.elim misfit fun _ => .ok (nameless c [])
  | "reversed", [v] => v.items?.elim misfit fun _ => .ok (nameless c [])
  | "zip", args => if args.all (·.items?.isSome) then .ok (nameless c []) else misfit
  | _, _ => misfit

/-- Makes a value of a native class out of arguments. Abstract classes have none. -/
def make (c : ClassName) (args : List Value) : Except Failure Value :=
  if isError c then makeError c args
  else if c.module = ClassName.builtinModule then makeBuiltin c.simpleName args
  else if c = Value.fractionClass then makeFraction args
  else match IntegralBox.ofClass? c with
    | some box => (makeInteger args).map (.boxedInt box)
    | none =>
      if c = Primitive.boxed .float then (makeDouble args).map .boxedFloat
      else if c = Primitive.boxed .char then
        match args with
        | [v] => v.makeCharacter
        | _ => misfit
      else misfit
where
  isError (c : ClassName) : Bool :=
    ((info? c).map (·.linearization.contains (.builtin "BaseException"))).getD false

/-- Whether the instances of a native class are filled only after they are made. -/
def isFilledLater (c : ClassName) : Bool :=
  ["list", "dict", "set", "bytearray", "property"].any fun n => c = .builtin n

end Overloads.Native
