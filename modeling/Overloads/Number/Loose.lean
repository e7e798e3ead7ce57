import Overloads.Number.Numeral

/-!
Integers written loosely: with blanks around them, zeros in front, underscores inside and zeros behind
a point. Each step of the reading takes one of these away, and what is left has to be plain.
-/
namespace Overloads.Number

open Overloads.Text

/-- Takes a plus sign away; none where another sign follows it. -/
def withoutPlus : List Char → Option (List Char)
  | '+' :: '+' :: _ | '+' :: '-' :: _ => none
  | '+' :: rest => some rest
  | s => some s

/-- What starts a number that has no zeros in front. -/
def isLeading (c : Char) : Bool := c = '-' || (c ≠ '0' && c.isDigit)

/-- The number behind some zeros, of which `last` is the last character. -/
def behindZeros (last : Char) : List Char → Option (List Char)
  | [] => some [last]
  | c :: rest =>
    if c = '0' ∨ c = '_' then behindZeros c rest
    else if isLeading c then some (c :: rest)
    else if c = '.' then some (last :: c :: rest)
    else none

/-- Takes away zeros and underscores in front. Of zeros alone the last character stays. -/
def withoutLeadingZeros : List Char → Option (List Char)
  | [] => none
  | c :: rest =>
    if c = '0' then behindZeros c rest else if isLeading c then some (c :: rest) else none

/-- Takes a point and the zeros behind it away, if nothing else follows the point. -/
def withoutZeroPlaces (s : List Char) : List Char :=
  match s.dropWhile (· ≠ '.') with
  | _ :: d :: ds => if (d :: ds).all (· = '0') then s.takeWhile (· ≠ '.') else s
  | _ => s

/-- Whether two underscores follow each other. -/
def hasDoubleUnderscore (s : List Char) : Bool :=
  (s.zip s.tail).any fun (a, b) => a = '_' && b = '_'

/-- Takes single underscores inside away. -/
def withoutUnderscores (s : List Char) : List Char :=
  if s.head? = some '_' || s.getLast? = some '_' || hasDoubleUnderscore s then s
  else s.filter (· ≠ '_')

/-- Reads ASCII digits without zeros in front, with a minus sign or none. -/
def readPlainInteger (s : List Char) : IntegerReading :=
  let digits := if s.head? = some '-' then s.tail else s
  let ds := digits.takeWhile Char.isDigit
  let rest := digits.dropWhile Char.isDigit
  let size := s.length - rest.length
  if ds.isEmpty || (ds.head? = some '0' && 1 < ds.length) then .malformed
  else if digitLimit < size then .tooLong size
  else if rest.isEmpty then
    .value (if s.head? = some '-' then -(decimalValue ds : Int) else decimalValue ds)
  else .malformed

/-- Reads an integer that is written loosely. -/
def readLooseInteger (s : List Char) : IntegerReading :=
  match (withoutPlus (stripped s)).bind withoutLeadingZeros with
  | none => .malformed
  | some s => readPlainInteger (withoutUnderscores (withoutZeroPlaces s))

end Overloads.Number
