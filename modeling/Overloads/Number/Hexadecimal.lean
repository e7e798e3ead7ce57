import Overloads.Number.Reading
import Overloads.Text.Quoted

/-! Doubles in hexadecimal digits. -/
namespace Overloads.Number

open Overloads.Text

/-- The sign and the digits of an exponent. -/
def signedExponent (e : Int) : List Char :=
  (if e < 0 then '-' else '+') :: decimalDigits e.natAbs

/-- The text of a double with its whole mantissa in hexadecimal digits. -/
def hexadecimalText : Binary64 → String
  | .nan => "nan"
  | .infinite negative => if negative then "-inf" else "inf"
  | .finite negative m e =>
    let body :=
      if m = 0 then "0x0.0p+0".toList
      else if m < twoTo 52 then "0x0.".toList ++ hexDigits 13 m ++ 'p' :: signedExponent (e + 52)
      else "0x1.".toList ++ hexDigits 13 (m - twoTo 52) ++ 'p' :: signedExponent (e + 52)
    String.ofList (if negative then '-' :: body else body)

def hexadecimalValue? (c : Char) : Option Nat :=
  let d := c.toLower
  if d.isDigit then some (d.toNat - 48)
  else if 'a' ≤ d && d ≤ 'f' then some (d.toNat - 87) else none

/-- Hexadecimal digits at the front: their value, their number, and what follows. -/
def readHexadecimal (value count : Nat) : List Char → Nat × Nat × List Char
  | [] => (value, count, [])
  | c :: rest =>
    match hexadecimalValue? c with
    | some d => readHexadecimal (16 * value + d) (count + 1) rest
    | none => (value, count, c :: rest)

inductive HexadecimalReading where
  | value (x : Binary64)
  | tooLarge
  | malformed

/-- The double nearest to `± n * 2 ^ e`. Exponents out of reach are decided by size alone. -/
def scaledReading (negative : Bool) (n : Nat) (e : Int) : HexadecimalReading :=
  let size := (n.log2 : Int) + e
  if n = 0 || size < -1100 then .value (.zero negative)
  else if 1100 < size then .tooLarge
  else
    let x := if 0 ≤ e then Binary64.ofRatio negative (n * twoTo e.toNat) 1
      else Binary64.ofRatio negative n (twoTo (-e).toNat)
    match x with
    | .infinite _ => .tooLarge
    | x => .value x

/-- The part behind the digits: a binary exponent or nothing. -/
def readBinaryExponent? : List Char → Option Int
  | [] => some 0
  | c :: rest =>
    if c = 'p' || c = 'P' then
      let (negative, digits) := readSign rest
      if digits.isEmpty || !digits.all Char.isDigit then none
      else
        let n : Nat := digits.foldl (fun n c => 10 * n + (c.toNat - 48)) 0
        some (if negative then -(n : Int) else n)
    else none

/-- Reads a number without its sign. -/
def readUnsignedHexadecimal (negative : Bool) (s : List Char) : HexadecimalReading :=
  let body := match s with
    | '0' :: x :: rest => if x = 'x' || x = 'X' then rest else s
    | _ => s
  let (whole, wholeCount, rest) := readHexadecimal 0 0 body
  let (n, places, rest) := match rest with
    | '.' :: rest => readHexadecimal whole 0 rest
    | _ => (whole, 0, rest)
  match readBinaryExponent? rest with
  | some e =>
    if wholeCount + places = 0 then .malformed else scaledReading negative n (e - 4 * places)
  | none => .malformed

/-- Reads a number with ASCII blanks around it. -/
def readHexadecimalText (s : List Char) : HexadecimalReading :=
  let isPlain (c : Char) : Bool := c = ' ' || (9 ≤ c.toNat && c.toNat < 14)
  let (negative, body) := readSign (dropRightWhile isPlain (s.dropWhile isPlain))
  let word := String.ofList (body.map Char.toLower)
  if word = "inf" || word = "infinity" then .value (.infinite negative)
  else if word = "nan" then .value .nan
  else readUnsignedHexadecimal negative body

end Overloads.Number
