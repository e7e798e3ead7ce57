import Overloads.Text.LowerCase

/-! Words joined by hyphens out of words told apart by capitals. -/
namespace Overloads.Text

def isCapital (c : Char) : Bool := 'A' ≤ c && c ≤ 'Z'

def isSmall (c : Char) : Bool := 'a' ≤ c && c ≤ 'z'

def isSmallOrDigit (c : Char) : Bool := isSmall c || ('0' ≤ c && c ≤ '9')

/--
Puts a hyphen between any character but a line break and a capital that small letters follow. Pairs are
taken from left to right, and the small letters after a capital belong to its pair. `inPair` says that
the letters read now belong to the last one.
-/
def splitCapitalized : Bool → List Char → List Char
  | true, c :: rest =>
    if isSmall c then c :: splitCapitalized true rest else splitCapitalized false (c :: rest)
  | false, a :: b :: c :: rest =>
    if a ≠ '\n' && isCapital b && isSmall c then a :: '-' :: b :: c :: splitCapitalized true rest
    else a :: splitCapitalized false (b :: c :: rest)
  | _, s => s
termination_by inPair s => (s.length, inPair.toNat)

/-- Puts a hyphen between a small letter or digit and a capital. -/
def splitAtCapitals : List Char → List Char
  | a :: b :: rest =>
    if isSmallOrDigit a && isCapital b then a :: '-' :: b :: splitAtCapitals rest
    else a :: splitAtCapitals (b :: rest)
  | s => s

/-- The name with its words in lower case and joined by hyphens. -/
def kebab (s : String) : String :=
  String.ofList (lowerText (splitAtCapitals (splitCapitalized false s.toList)))

end Overloads.Text
