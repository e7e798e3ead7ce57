import Overloads.Number.Reading

/-! Numerals in which single underscores may stand between the digits. -/
namespace Overloads.Number

/-- Digits with single underscores between them, from the front of a text. -/
def digitsOf (holds : Char → Bool) : List Char → List Char × List Char
  | [] => ([], [])
  | c :: rest =>
    if holds c then
      let (ds, rest) := digitsOf holds rest
      (c :: ds, rest)
    else if c = '_' then
      match rest with
      | d :: rest' =>
        if holds d then
          let (ds, left) := digitsOf holds rest'
          (d :: ds, left)
        else ([], c :: rest)
      | [] => ([], [c])
    else ([], c :: rest)

/-- Digits that start with a digit. -/
def digits? (holds : Char → Bool) (s : List Char) : Option (List Char × List Char) :=
  match s with
  | c :: _ => if holds c then some (digitsOf holds s) else none
  | [] => none

def decimalValue (ds : List Char) : Nat := ds.foldl (fun n d => 10 * n + (d.toNat - 48)) 0

end Overloads.Number
