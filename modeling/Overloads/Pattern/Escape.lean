import Overloads.Pattern.Cursor
import Overloads.Text.CharacterName

/-! Escapes: what a backslash and the characters after it stand for. -/
namespace Overloads.Pattern.Reader

/-- What an escape stands for. -/
inductive Escaped where
  | code (n : Nat)
  | category (c : Category) (negated : Bool)
  | anchor (a : Anchor)
  | backreference (number : Nat)
  deriving DecidableEq, Repr

def control? : Char → Option Nat
  | 'a' => some 7
  | 'b' => some 8
  | 'f' => some 12
  | 'n' => some 10
  | 'r' => some 13
  | 't' => some 9
  | 'v' => some 11
  | '\\' => some 92
  | _ => none

def category? : Char → Option (Category × Bool)
  | 'd' => some (.digit, false)
  | 'D' => some (.digit, true)
  | 's' => some (.blank, false)
  | 'S' => some (.blank, true)
  | 'w' => some (.word, false)
  | 'W' => some (.word, true)
  | _ => none

def anchor? : Char → Option Anchor
  | 'A' => some .textStart
  | 'b' => some (.boundary false)
  | 'B' => some (.boundary true)
  | 'Z' => some .textEnd
  | _ => none

def isOctalDigit (c : Char) : Bool := '0' ≤ c && c ≤ '7'

def isHexDigit (c : Char) : Bool :=
  c.isDigit || ('a' ≤ c && c ≤ 'f') || ('A' ≤ c && c ≤ 'F')

def digitValue (c : Char) : Nat :=
  if c.isDigit then c.toNat - 48 else if c.isLower then c.toNat - 87 else c.toNat - 55

/-- The number that digits write in a base. -/
def number (base : Nat) (ds : List Char) : Nat := ds.foldl (fun n d => base * n + digitValue d) 0

/-- An escape as it is written. -/
def escapeText (cs : List Char) : String := String.ofList ('\\' :: cs)

/-- Fails because of an escape that was read last. -/
def badEscape {α : Type} (problem : String) (cs : List Char) : Reader α :=
  fail (problem ++ escapeText cs) (cs.length + 1)

/-- The code point given by exactly `count` digits. -/
def hexCode (letter : Char) (count : Nat) : Reader Nat := do
  let ds ← takeWhile isHexDigit count
  if ds.length ≠ count then badEscape "incomplete escape " (letter :: ds)
  else if 0x10FFFF < number 16 ds then badEscape "bad escape " (letter :: ds)
  else return number 16 ds

/-- The code point of a character that is given by its name. -/
def namedCode : Reader Nat := do
  if !(← accept '\x7b') then fail ("missing \x7b") 0
  let name ← nameUntil '\x7d' "character name"
  match Text.codeOfName? (String.ofList name) with
  | some code => return code
  | none =>
    fail ("undefined character name " ++ String.ofList (Text.quotedChars name)) (name.length + 4)

/-- The code point of an octal escape, which has to fit a byte. -/
def octalCode (ds : List Char) : Reader Nat := do
  if 0o377 < number 8 ds then
    fail ("octal escape value " ++ escapeText ds ++ " outside of range 0-0o377") (ds.length + 1)
  else return number 8 ds

/-- Other escapes: a letter without a meaning is an error and the rest stand for themselves. -/
def otherCode (c : Char) : Reader Nat := do
  match c with
  | 'x' => hexCode c 2
  | 'u' => hexCode c 4
  | 'U' => hexCode c 8
  | 'N' => namedCode
  | _ => if c.isAlpha then badEscape "bad escape " [c] else return c.toNat

/-- The escape inside a set. -/
def setEscape (c : Char) : Reader Escaped := do
  match control? c, category? c with
  | some n, _ => return .code n
  | none, some (k, negated) => return .category k negated
  | none, none =>
    if isOctalDigit c then return .code (← octalCode (c :: (← takeWhile isOctalDigit 2)))
    else if c.isDigit then badEscape "bad escape " [c]
    else return .code (← otherCode c)

/-- The group that digits refer to. -/
def groupReference (ds : List Char) : Reader Escaped := do
  let n := number 10 ds
  if (← get).groupCount ≤ n then
    fail ("invalid group reference " ++ Number.decimalText n) ds.length
  else if !(← isClosed n) then fail "cannot refer to an open group" (ds.length + 1)
  else
    checkLookBehind n
    return .backreference n

/-- Three octal digits are a code point; otherwise one or two digits refer to a group. -/
def digitEscape (c : Char) : Reader Escaped := do
  match ← takeWhile Char.isDigit 1 with
  | [d] =>
    if isOctalDigit c && isOctalDigit d then
      match ← takeWhile isOctalDigit 1 with
      | [e] => return .code (← octalCode [c, d, e])
      | _ => groupReference [c, d]
    else groupReference [c, d]
  | _ => groupReference [c]

/-- The escape outside a set. -/
def escape (c : Char) : Reader Escaped := do
  match anchor? c, category? c, control? c with
  | some a, _, _ => return .anchor a
  | none, some (k, negated), _ => return .category k negated
  | none, none, some n => return .code n
  | none, none, none =>
    if c = '0' then return .code (number 8 (← takeWhile isOctalDigit 2))
    else if c.isDigit then digitEscape c
    else return .code (← otherCode c)

end Overloads.Pattern.Reader
