import Overloads.Number.Shortest
import Overloads.Text.Blank
import Overloads.Text.Digit

/-! Reading integers and decimal numbers from text. -/
namespace Overloads.Number

open Overloads.Text

/--
Reads digits of any script, in which single underscores may stand between two digits. The answer is
the number, how many digits it has, and what follows.
-/
def readDigits (value count : Nat) : List Char → Nat × Nat × List Char
  | [] => (value, count, [])
  | c :: rest =>
    match digitValue? c with
    | some d => readDigits (10 * value + d) (count + 1) rest
    | none =>
      if c = '_' ∧ 0 < count then
        match rest with
        | d :: rest' =>
          match digitValue? d with
          | some k => readDigits (10 * value + k) (count + 1) rest'
          | none => (value, count, c :: d :: rest')
        | [] => (value, count, [c])
      else (value, count, c :: rest)

/-- Splits a sign off; true means negative. -/
def readSign : List Char → Bool × List Char
  | '-' :: rest => (true, rest)
  | '+' :: rest => (false, rest)
  | s => (false, s)

inductive IntegerReading where
  | value (n : Int)
  | tooLong (digits : Nat)
  | malformed

/-- Reads an integer with an optional sign and white space around it. -/
def readInteger (s : List Char) : IntegerReading :=
  let (negative, body) := readSign (stripped s)
  match readDigits 0 0 body with
  | (_, 0, _) => .malformed
  | (n, count, rest) =>
    if digitLimit < count then .tooLong count
    else if rest.isEmpty then .value (if negative then -(n : Int) else n)
    else .malformed

/-- Reads an optional exponent part up to the end of the text. -/
def readExponent : List Char → Option Int
  | [] => some 0
  | c :: rest =>
    if c = 'e' ∨ c = 'E' then
      let (negative, body) := readSign rest
      match readDigits 0 0 body with
      | (_, 0, _) => none
      | (n, _, []) => some (if negative then -(n : Int) else n)
      | _ => none
    else none

/-- The digits after a decimal point: their number, their count and what follows. -/
def readPlaces : List Char → Nat × Nat × List Char
  | '.' :: rest => readDigits 0 0 rest
  | s => (0, 0, s)

/-- Reads a number with an optional fraction and exponent, an infinity or a NaN. -/
def readDecimal (s : List Char) : Option Binary64 :=
  let (negative, body) := readSign (stripped s)
  let word := String.ofList (body.map Char.toLower)
  if word = "inf" ∨ word = "infinity" then some (.infinite negative)
  else if word = "nan" then some .nan
  else
    let (whole, wholeCount, rest) := readDigits 0 0 body
    let (places, placeCount, rest) := readPlaces rest
    if wholeCount + placeCount = 0 then none
    else (readExponent rest).map fun e =>
      Binary64.ofDecimal negative (whole * tenTo placeCount + places) (e - placeCount)

end Overloads.Number
