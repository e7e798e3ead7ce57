/-! Cutting texts apart, replacing parts of them and filling them up. -/
namespace Overloads.Text

/-- What is before the first place where `sep` stands, and what is behind it. -/
def cutAt? (sep : List Char) : List Char → Option (List Char × List Char)
  | [] => none
  | c :: rest =>
    if sep.isPrefixOf (c :: rest) then some ([], (c :: rest).drop sep.length)
    else (cutAt? sep rest).map fun (a, b) => (c :: a, b)

/-- The parts between separators, after at most `cuts` cuts from the left. -/
def splitBy (sep : List Char) : Nat → List Char → List (List Char)
  | 0, s => [s]
  | cuts + 1, s =>
    match cutAt? sep s with
    | none => [s]
    | some (a, b) => a :: splitBy sep cuts b

/-- The parts between runs of blanks, none of them empty, after at most `cuts` cuts. -/
def splitWords (isBlank : Char → Bool) : Nat → List Char → List (List Char)
  | 0, s => ([s.dropWhile isBlank]).filter (!·.isEmpty)
  | cuts + 1, s =>
    match s.dropWhile isBlank with
    | [] => []
    | t => t.takeWhile (!isBlank ·) :: splitWords isBlank cuts (t.dropWhile (!isBlank ·))

/-- The parts that a way of splitting finds when it goes from the right. -/
def fromRight (split : List Char → List (List Char)) (s : List Char) : List (List Char) :=
  ((split s.reverse).map List.reverse).reverse

/-- Puts `new` before each of the first `times` characters, the end counting as one. -/
def interleave (new : List Char) : Nat → List Char → List Char
  | 0, s => s
  | _ + 1, [] => new
  | times + 1, c :: rest => new ++ c :: interleave new times rest

/-- Replaces the first occurrences of `old`, at most `times` of them. -/
def replaced (old new : List Char) (times : Nat) (s : List Char) : List Char :=
  if old.isEmpty then interleave new times s
  else new.intercalate (splitBy old times s)

/-- Fills a text up to a width, with `left` of the missing characters in front. -/
def filled (fill : Char) (width left : Nat) (s : List Char) : List Char :=
  let missing := width - s.length
  List.replicate left fill ++ s ++ List.replicate (missing - left) fill

/-- How many of the missing characters stand in front of a centred text. -/
def centredMargin (width length : Nat) : Nat :=
  let missing := width - length
  missing / 2 + (if missing % 2 = 1 && width % 2 = 1 then 1 else 0)

/-- Fills a number up with zeros behind its sign. -/
def zeroFilled (width : Nat) (s : List Char) : List Char :=
  let zeros := List.replicate (width - s.length) '0'
  match s with
  | c :: rest => if c = '+' || c = '-' then c :: (zeros ++ rest) else zeros ++ s
  | [] => zeros

/-- Replaces tabulators by blanks up to the next multiple of `size`. -/
def withoutTabs (size : Nat) (column : Nat) : List Char → List Char
  | [] => []
  | c :: rest =>
    if c = '\t' then
      let blanks := if size = 0 then 0 else size - column % size
      List.replicate blanks ' ' ++ withoutTabs size (column + blanks) rest
    else
      c :: withoutTabs size (if c = '\n' || c = '\r' then 0 else column + 1) rest

end Overloads.Text
