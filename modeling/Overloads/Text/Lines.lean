import Overloads.Text.Ranges

/-! Splitting a text into lines. -/
namespace Overloads.Text

/-- Where the characters that end a line begin and end. -/
def lineEndPoints : List Nat := [10, 14, 28, 31, 133, 134, 8232, 8234]

def isLineEnd (c : Char) : Bool := inside lineEndPoints c.toNat

/-- The lines of a text without their ends. A carriage return and a line feed are one end. -/
def splitLines : List Char → List (List Char)
  | [] => []
  | '\r' :: '\n' :: rest => [] :: splitLines rest
  | c :: rest =>
    if isLineEnd c then [] :: splitLines rest
    else match splitLines rest with
      | [] => [[c]]
      | line :: lines => (c :: line) :: lines

/-- The lines of a text, each with the end that it has. -/
def splitKeepingEnds (isEnd : Char → Bool) : List Char → List (List Char)
  | [] => []
  | '\r' :: '\n' :: rest => ['\r', '\n'] :: splitKeepingEnds isEnd rest
  | c :: rest =>
    if isEnd c then [c] :: splitKeepingEnds isEnd rest
    else match splitKeepingEnds isEnd rest with
      | [] => [[c]]
      | line :: lines => (c :: line) :: lines

/-- A line without its end. -/
def withoutEnd (isEnd : Char → Bool) (line : List Char) : List Char := line.takeWhile (!isEnd ·)

end Overloads.Text
