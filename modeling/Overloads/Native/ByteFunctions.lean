import Overloads.Native.TextFunctions

/-! The functions of bytes and of arrays of bytes. -/
namespace Overloads.Native

open Overloads.Text

/-- An array of bytes, which can be changed. -/
def byteArray (data : List UInt8) : Value := .native (.builtin "bytearray") .call [.bytes data]

/-- The ASCII blanks. -/
def isPlainBlank (c : Char) : Bool := c = ' ' || (9 ≤ c.toNat && c.toNat < 14)

/-- The conventions of bytes, where `write` makes what a function answers. -/
def byteScript (write : List UInt8 → Value) (kept : Value → Value) (receiver : Value) : Script where
  receiver := receiver
  read := fun v => (bytes v).map charsOfBytes
  write := fun s => write (bytesOfChars s)
  kept := kept
  isBlank := isPlainBlank
  isEnd := fun c => c = '\n' || c = '\r'

/-- Reads pairs of hexadecimal digits, with blanks between the pairs. An error is given by its place. -/
def readHex (start : Nat) : List Char → Except Nat (List UInt8)
  | [] => .ok []
  | c :: rest =>
    if isPlainBlank c then readHex (start + 1) rest
    else match hexValue? c, rest with
      | some high, d :: rest =>
        match hexValue? d with
        | some low => (readHex (start + 2) rest).map ((16 * high + low).toUInt8 :: ·)
        | none => .error (start + 1)
      | some _, [] => .error (start + 1)
      | none, _ => .error start
where
  hexValue? (c : Char) : Option Nat :=
    if c.isDigit then some (c.toNat - 48)
    else if 'a' ≤ c.toLower && c.toLower ≤ 'f' then some (c.toLower.toNat - 87) else none

/-- The bytes that a text gives in hexadecimal digits. A foreign character is found before all else. -/
def fromHex (v : Value) : Except Failure (List UInt8) := do
  let s ← text v
  let plain := s.takeWhile fun c => c.toNat < 128
  match if plain.length < s.length then .error plain.length else readHex 0 s with
  | .ok data => return data
  | .error n => throw (.rejectedValue <|
      "non-hexadecimal number found in fromhex() arg at position " ++
        Number.decimalText (n : Int))

/-- Translates bytes by a table of 256 after some are dropped. -/
def translateBytes (write : List UInt8 → Value) (data : List UInt8) (table : Value)
    (dropped : Option Value) : Answer := do
  let table ← unlessNothing bytes (some table)
  if table.any (·.length ≠ 256) then
    throw (.rejectedValue "translation table must be 256 characters long")
  let dropped ← orElse bytes dropped []
  let kept := data.filter (!dropped.contains ·)
  answer (write (kept.map fun b => (table.bind (·[b.toNat]?)).getD b))

/-- A table of translation from some bytes to others. -/
def translationTable (source target : Value) : Answer := do
  let source ← bytes source
  let target ← bytes target
  if source.length ≠ target.length then
    throw (.rejectedValue "maketrans arguments must have same length")
  let pairs := (source.zip target).reverse
  answer (.bytes ((List.range 256).map fun n => (pairs.lookup n.toUInt8).getD n.toUInt8))

/-- The functions that bytes have and texts have not. -/
def octetFunction (write : List UInt8 → Value) (name : String) (data : List UInt8)
    (args : List Value) : Answer :=
  match name, args with
  | "decode", args => do answerText (← decoded data args)
  | "translate", [table] => translateBytes write data table none
  | "translate", [table, dropped] => translateBytes write data table dropped
  | _, _ => misfit

/-- A function of bytes. -/
def byteFunction (name : String) (receiver : Value) (args : List Value) : Answer := do
  let .bytes data := receiver.content | misfit
  ((byteScript .bytes id receiver).function? name (charsOfBytes data) args).getD
    (octetFunction .bytes name data args)

/-- One byte given as a number; `what` names it if it is none. -/
def byteNamed (what : String) (v : Value) : Except Failure UInt8 := do
  let n ← integer v
  if n < 0 || 256 ≤ n then throw (.rejectedValue (what ++ " must be in range(0, 256)"))
  return n.toNat.toUInt8

def byte (v : Value) : Except Failure UInt8 := byteNamed "byte" v

/-- The changes that an array of bytes can undergo; none where the name is no change. -/
def byteArrayChange? (name : String) (data : List UInt8) (args : List Value) : Option Answer :=
  let become (data : List UInt8) : Answer := changed (byteArray data)
  match name, args with
  | "append", [v] => some do become (data ++ [← byte v])
  | "clear", [] => some (become [])
  | "copy", [] => some (answer (byteArray data))
  | "extend", [v] => some do
    let more ← match v.bytes?, v.items? with
      | some more, _ => pure more
      | none, some vs => vs.mapM byte
      | none, none => misfit
    become (data ++ more)
  | "insert", [index, v] => some do
    let i := place data.length (← size index)
    become (data.take i ++ (← byte v) :: data.drop i)
  | "pop", args => some do
    let n ← orElse size args.head? (-1)
    if data.isEmpty then throw (.nothingToTake "bytearray")
    let i := if n < 0 then n + data.length else n
    match (if i < 0 then none else data[i.toNat]?) with
    | some b => return ⟨.int b.toNat, some (byteArray (data.eraseIdx i.toNat))⟩
    | none => throw (.noItem "pop index")
  | "remove", [v] => some do
    let b ← byte v
    if data.contains b then become (data.erase b)
    else throw (.rejectedValue "value not found in bytearray")
  | "reverse", [] => some (become data.reverse)
  | _, _ => none

/-- A function of an array of bytes. -/
def byteArrayFunction (name : String) (receiver : Value) (args : List Value) : Answer := do
  let some data := receiver.content.bytes? | misfit
  match byteArrayChange? name data args with
  | some a => a
  | none =>
    let copied (v : Value) : Value := (v.content.bytes?.map byteArray).getD v
    ((byteScript byteArray copied receiver).function? name (charsOfBytes data) args).getD
      (octetFunction byteArray name data args)

end Overloads.Native
