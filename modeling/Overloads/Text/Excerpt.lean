/-! Long texts cut down to their two ends. -/
namespace Overloads.Text

/-- The longest beginning that takes at most `room` bytes. -/
def takeBytes (room : Nat) : List Char → List Char
  | [] => []
  | c :: rest => if c.utf8Size ≤ room then c :: takeBytes (room - c.utf8Size) rest else []

/-- A text of at most 50 bytes as it is; of a longer one the first 25 and the last 24. -/
def excerpt (s : String) : String :=
  if s.utf8ByteSize ≤ 50 then s
  else
    let ending := (takeBytes 24 s.toList.reverse).reverse
    String.ofList (takeBytes 25 s.toList) ++ "..." ++ String.ofList ending

end Overloads.Text
