import Overloads.Value.Order

/-! Arguments of builtin functions: what they are taken for. -/
namespace Overloads.Native

/-- What a builtin function answers, and its receiver where it has changed. -/
structure Reply where
  value : Value
  receiver : Option Value

abbrev Answer := Except Failure Reply

def Reply.of (v : Value) : Reply := ⟨v, none⟩

def answer (v : Value) : Answer := .ok (.of v)

def answerText (s : List Char) : Answer := answer (.str (String.ofList s))

/-- The receiver changes and nothing is answered. -/
def changed (receiver : Value) : Answer := .ok ⟨.nothing, some receiver⟩

/-- The arguments do not fit the function. -/
def misfit {α : Type} : Except Failure α := .error .unfitArguments

/-- An integer. -/
def integer? (v : Value) : Option Int :=
  match v.content with
  | .bool b => some (if b then 1 else 0)
  | .int n | .boxedInt _ n => some n
  | _ => none

def integer (v : Value) : Except Failure Int := (integer? v).elim misfit .ok

/-- The largest size of anything. -/
def largestSize : Int := 9223372036854775807

/-- A number of items or places. -/
def size (v : Value) : Except Failure Int := do
  let n ← integer v
  if n < -largestSize - 1 || largestSize < n then
    throw (.rejectedSize "Python int too large to convert to C ssize_t")
  return n

/-- A number that fits a machine word. -/
def word (v : Value) : Except Failure Int := do
  let n ← integer v
  if n < -2147483648 || 2147483647 < n then
    throw (.rejectedSize "Python int too large to convert to C int")
  return n

/-- A text. -/
def text (v : Value) : Except Failure (List Char) := v.asText?.elim misfit fun s => .ok s.toList

/-- Bytes. -/
def bytes (v : Value) : Except Failure (List UInt8) := v.bytes?.elim misfit .ok

/-- Bytes as characters below 256. -/
def charsOfBytes (data : List UInt8) : List Char := data.map fun b => Char.ofNat b.toNat

def bytesOfChars (s : List Char) : List UInt8 := s.map fun c => c.toNat.toUInt8

/-- How often something is done at most; less than zero stands for no limit. -/
def limit (times : Int) (length : Nat) : Nat := if times < 0 then length + 1 else times.toNat

/-- The width that a text is filled up to. -/
def width (v : Value) : Except Failure Nat := (size v).map Int.toNat

/-- An argument that may be left out. -/
def orElse {α : Type} (read : Value → Except Failure α) (v : Option Value) (default : α) :
    Except Failure α :=
  match v with
  | some v => read v
  | none => .ok default

/-- An argument for which None can stand. -/
def unlessNothing {α : Type} (read : Value → Except Failure α) (v : Option Value) :
    Except Failure (Option α) :=
  match v with
  | none | some .nothing => .ok none
  | some v => (read v).map some

/-- A place in a sequence, counted from the end if it is below zero. -/
def place (length : Nat) (n : Int) : Nat :=
  if n < 0 then (n + length).toNat else min n.toNat length

/-- The items between two places. -/
def between (items : List Value) (start stop : Option Value) : Except Failure (Nat × List Value) := do
  let first ← orElse integer start 0
  let last ← orElse integer stop items.length
  let i := place items.length first
  return (i, (items.take (place items.length last)).drop i)

end Overloads.Native
