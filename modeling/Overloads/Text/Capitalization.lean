import Overloads.Text.UpperCase

/-! The letter case of whole texts. -/
namespace Overloads.Text

/-- The first character as in a title, the others in lower case. -/
def capitalized : List Char → List Char
  | [] => []
  | c :: rest => titled c ++ lowerFrom [c] rest

/-- Every first letter of a word as in a title, the others in lower case. -/
def titleFrom (before : List Char) : List Char → List Char
  | [] => []
  | c :: rest =>
    let insideWord := (before.head?.map isCased).getD false
    (if insideWord then lowerBetween before c rest else titled c) ++ titleFrom (c :: before) rest

/-- Capitals in lower case, and small letters in upper case. -/
def swappedFrom (before : List Char) : List Char → List Char
  | [] => []
  | c :: rest =>
    (if isUpperLetter c then lowerBetween before c rest else if isLowerLetter c then upper c else [c]) ++
      swappedFrom (c :: before) rest

/-- Whether a text has letters with case, and all of them as `wanted` says. -/
def allInCase (wanted : Char → Bool) (s : List Char) : Bool :=
  s.any wanted && s.all fun c => wanted c || !isCased c

/-- Whether capitals begin the words, and only they do; `insideWord` tells about the character before. -/
def isTitleFrom (insideWord : Bool) : List Char → Bool
  | [] => true
  | c :: rest =>
    if isUpperLetter c || isTitleLetter c then !insideWord && isTitleFrom true rest
    else if isLowerLetter c then insideWord && isTitleFrom true rest
    else isTitleFrom false rest

def isTitle (s : List Char) : Bool := s.any isCased && isTitleFrom false s

end Overloads.Text
