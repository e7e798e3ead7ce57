import Overloads.Text.Blank
import Overloads.Text.Splitting

/-! Breaking a text into lines of bounded width. -/
namespace Overloads.Text

/-- The blanks at which a text can be broken. -/
def isBreak (c : Char) : Bool := c = ' ' || (9 ≤ c.toNat && c.toNat ≤ 13)

/-- Splits a text into runs of spaces and words. -/
def chunks : List Char → List (List Char)
  | [] => []
  | c :: rest =>
    match chunks rest with
    | (d :: chunk) :: more =>
      if (c = ' ') = (d = ' ') then (c :: d :: chunk) :: more else [c] :: (d :: chunk) :: more
    | more => [c] :: more

def totalLength (chunks : List (List Char)) : Nat := chunks.flatten.length

/-- Takes chunks from the front while they fit. -/
def fill (room : Nat) : List (List Char) → List (List Char) × List (List Char)
  | [] => ([], [])
  | c :: rest =>
    if c.length ≤ room then
      let (taken, left) := fill (room - c.length) rest
      (c :: taken, left)
    else ([], c :: rest)

/-- What goes on one line and what is left. A word that fits on no line is cut. -/
def takeLine (room : Nat) (cs : List (List Char)) : List (List Char) × List (List Char) :=
  match fill room cs with
  | (taken, []) => (taken, [])
  | (taken, c :: left) =>
    if room < c.length then
      let cut := room - totalLength taken
      (taken ++ [c.take cut], c.drop cut :: left)
    else (taken, c :: left)

def isBlankChunk (c : List Char) : Bool := c.all isBlank

def dropLastBlank (cs : List (List Char)) : List (List Char) :=
  match cs.getLast? with
  | some c => if isBlankChunk c then cs.dropLast else cs
  | none => cs

def dropFirstBlank : List (List Char) → List (List Char)
  | c :: rest => if isBlankChunk c then rest else c :: rest
  | [] => []

/-- Two widths and two margins: of the first line, and of those that follow it. -/
structure Margins where
  width : Nat
  first : Nat
  later : Nat

/--
The lines of a text given as chunks; `started` says that a line stands above. Blanks at the ends of a
line go away, but for those the text starts with. `fuel` bounds the number of lines.
-/
def wrapChunks (m : Margins) : Nat → Bool → List (List Char) → List (List Char)
  | 0, _, _ => []
  | fuel + 1, started, cs =>
    if cs.isEmpty then []
    else
      let margin := if started then m.later else m.first
      let (taken, left) := takeLine (m.width - margin) (if started then dropFirstBlank cs else cs)
      let line := (dropLastBlank taken).flatten
      if dropLastBlank taken = [] then wrapChunks m fuel started left
      else (List.replicate margin ' ' ++ line) :: wrapChunks m fuel true left

/-- A text with plain spaces for its breaks, and up to eight of them for a tabulator. -/
def spaced (s : List Char) : List Char :=
  (withoutTabs 8 0 s).map fun c => if isBreak c then ' ' else c

/-- The lines of a text. -/
def wrap (m : Margins) (s : List Char) : List (List Char) :=
  wrapChunks m ((spaced s).length + 1) false (chunks (spaced s))

end Overloads.Text
