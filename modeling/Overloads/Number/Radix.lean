import Overloads.Number.Reading

/-! Integers written in other bases than ten. -/
namespace Overloads.Number

open Overloads.Text

/-- The value of a digit; letters follow the digits of any script. -/
def radixDigit? (c : Char) : Option Nat :=
  match digitValue? c with
  | some d => some d
  | none =>
    let d := c.toLower
    if 'a' ≤ d && d ≤ 'z' then some (d.toNat - 87) else none

/-- Digits of a base, single underscores standing between them; the number is none if one is wrong. -/
def readRadixDigits (base : Nat) (value : Nat) (afterDigit : Bool) : List Char → Option Nat
  | [] => if afterDigit then some value else none
  | c :: rest =>
    if c = '_' then
      if afterDigit then readRadixDigits base value false rest else none
    else match radixDigit? c with
      | some d => if d < base then readRadixDigits base (base * value + d) true rest else none
      | none => none

/-- The base that a text announces at its front, and the text behind that. -/
def announcedBase? : List Char → Option (Nat × List Char)
  | '0' :: c :: rest =>
    match c.toLower with
    | 'x' => some (16, rest)
    | 'o' => some (8, rest)
    | 'b' => some (2, rest)
    | _ => none
  | _ => none

/-- Behind the announcement of a base one underscore may stand. -/
def withoutUnderscore : List Char → List Char
  | '_' :: rest => rest
  | s => s

/-- Reads an integer in a base, where zero asks for the base that the text announces. -/
def readInBase (base : Nat) (s : List Char) : IntegerReading :=
  let (negative, body) := readSign (stripped s)
  let (base, body, isPlain) := match announcedBase? body with
    | some (b, rest) =>
      if base = 0 || base = b then (b, withoutUnderscore rest, false) else (base, body, false)
    | none => if base = 0 then (10, body, true) else (base, body, false)
  let digits := body.filter (· ≠ '_')
  let isPower := base = 2 || base = 4 || base = 8 || base = 16 || base = 32
  match readRadixDigits base 0 false body with
  | none => .malformed
  | some n =>
    if isPlain && n ≠ 0 && (digits.head?.bind radixDigit?) = some 0 then .malformed
    else if !isPower && digitLimit < digits.length then .tooLong digits.length
    else .value (if negative then -(n : Int) else n)

end Overloads.Number
