import Overloads.Native.Encoding
import Overloads.Text.Blank
import Overloads.Text.Capitalization
import Overloads.Text.Letter
import Overloads.Text.Lines
import Overloads.Text.Numeral
import Overloads.Text.Printable

/-! The functions of texts. -/
namespace Overloads.Native

open Overloads.Text

def emptySeparator : Failure := .rejectedValue "empty separator"

/-- A separator, which must not be empty. -/
def separator (read : Value → Except Failure (List Char)) (v : Value) : Except Failure (List Char) := do
  let sep ← read v
  if sep.isEmpty then throw emptySeparator
  return sep

/-- A single character to fill up with. -/
def fillCharacter (read : Value → Except Failure (List Char)) (v : Option Value) :
    Except Failure Char := do
  match ← orElse read v [' '] with
  | [c] => return c
  | _ => misfit

/--
What texts and bytes have in common. Bytes are treated as characters below 256: `read` takes an argument
for such characters, `write` makes a value of them, `kept` hands on a value that was given, and `isBlank`
and `isEnd` tell blanks and line ends.
-/
structure Script where
  receiver : Value
  read : Value → Except Failure (List Char)
  write : List Char → Value
  kept : Value → Value
  isBlank : Char → Bool
  isEnd : Char → Bool

namespace Script

variable (k : Script)

def answerAll (ss : List (List Char)) : Answer := answer (.list (ss.map k.write))

/-- Splits between separators, or between blanks where there is no separator. -/
def split (fromEnd : Bool) (s : List Char) (sep times : Option Value) : Answer := do
  let cuts := limit (← orElse size times (-1)) s.length
  let sep ← unlessNothing (separator k.read) sep
  let parts (s : List Char) : List (List Char) :=
    match sep with
    | none => splitWords k.isBlank cuts s
    | some sep => splitBy (if fromEnd then sep.reverse else sep) cuts s
  k.answerAll (if fromEnd then fromRight parts s else parts s)

/-- What is before a separator, the separator, and what is behind it. -/
def partition (fromEnd : Bool) (s : List Char) (sep : Value) : Answer := do
  let cs ← separator k.read sep
  let none := k.write []
  answer <| .tuple <|
    if fromEnd then
      match cutAt? cs.reverse s.reverse with
      | some (after, before) => [k.write before.reverse, k.kept sep, k.write after.reverse]
      | _ => [none, none, k.kept k.receiver]
    else
      match cutAt? cs s with
      | some (before, after) => [k.write before, k.kept sep, k.write after]
      | _ => [k.kept k.receiver, none, none]

/-- Joins texts with a text between them. -/
def join (s : List Char) (items : Value) : Answer := do
  let some vs := items.items? | misfit
  let parts ← vs.mapM k.read
  answer (k.write (s.intercalate parts))

def replace (s : List Char) (old new : Value) (times : Option Value) : Answer := do
  let old ← k.read old
  let new ← k.read new
  answer (k.write (replaced old new (limit (← orElse size times (-1)) s.length) s))

/-- Fills up to a width; `left` tells how many characters go in front of a text of some length. -/
def fillUp (left : Nat → Nat → Nat) (s : List Char) (width fill : Option Value) : Answer := do
  let some w := width | misfit
  let w ← Native.width w
  let c ← fillCharacter k.read fill
  answer (k.write (filled c w (left w s.length) s))

/-- Drops characters at the ends. -/
def strip (atStart atEnd : Bool) (s : List Char) (set : Option Value) : Answer := do
  let set ← unlessNothing k.read set
  let drops (c : Char) : Bool := set.elim (k.isBlank c) (·.contains c)
  let s := if atStart then s.dropWhile drops else s
  answer (k.write (if atEnd then dropRightWhile drops s else s))

/-- The lines, with their ends or without them. -/
def lines (s : List Char) (keep : Option Value) : Answer := do
  let keep ← orElse word keep 0
  let lines := splitKeepingEnds k.isEnd s
  k.answerAll (if keep = 0 then lines.map (withoutEnd k.isEnd) else lines)

/-- The functions that texts and bytes have under the same names; none where there is no such name. -/
def function? (name : String) (s : List Char) (args : List Value) : Option Answer :=
  match name, args with
  | "replace", [old, new] => some (k.replace s old new none)
  | "replace", [old, new, times] => some (k.replace s old new times)
  | "split", [] => some (k.split false s none none)
  | "split", [sep] => some (k.split false s sep none)
  | "split", [sep, times] => some (k.split false s sep times)
  | "rsplit", [] => some (k.split true s none none)
  | "rsplit", [sep] => some (k.split true s sep none)
  | "rsplit", [sep, times] => some (k.split true s sep times)
  | "join", [items] => some (k.join s items)
  | "center", w :: fill => some (k.fillUp centredMargin s w fill.head?)
  | "ljust", w :: fill => some (k.fillUp (fun _ _ => 0) s w fill.head?)
  | "rjust", w :: fill => some (k.fillUp (fun w n => w - n) s w fill.head?)
  | "expandtabs", [] => some (answer (k.write (withoutTabs 8 0 s)))
  | "expandtabs", [n] => some do answer (k.write (withoutTabs (← word n).toNat 0 s))
  | "partition", [sep] => some (k.partition false s sep)
  | "rpartition", [sep] => some (k.partition true s sep)
  | "strip", set => some (k.strip true true s set.head?)
  | "lstrip", set => some (k.strip true false s set.head?)
  | "rstrip", set => some (k.strip false true s set.head?)
  | "splitlines", keep => some (k.lines s keep.head?)
  | "removeprefix", [start] => some do
    let start ← k.read start
    answer (k.write (if start.isPrefixOf s then s.drop start.length else s))
  | "removesuffix", [tail] => some do
    let tail ← k.read tail
    answer (k.write (if tail.isSuffixOf s then s.take (s.length - tail.length) else s))
  | "zfill", [w] => some do answer (k.write (zeroFilled (← width w) s))
  | _, _ => none

end Script

/-- The conventions of texts. -/
def textScript (receiver : Value) : Script where
  receiver := receiver
  read := text
  write := fun s => .str (String.ofList s)
  kept := id
  isBlank := isBlank
  isEnd := isLineEnd

/-- What a table of translation says about a character. -/
def translated (table : Value) (c : Char) : Except Failure (List Char) := do
  let n : Int := c.toNat
  let found : Option Value ← match table.content with
    | .dict pairs => pure ((pairs.find? (·.1.same (.int n))).map (·.2))
    | .list items | .tuple items => pure items[n.toNat]?
    | .str _ | .character _ | .bytes _ => pure ((table.items?.getD [])[n.toNat]?)
    | _ => misfit
  match found.map Value.content with
  | none => return [c]
  | some .nothing => return []
  | some (.str s) | some (.character s) => return s.toList
  | some v =>
    let n ← integer v
    if n < 0 || 0x110000 ≤ n then
      throw (.rejectedValue "character mapping must be in range(0x110000)")
    return [Char.ofNat n.toNat]

/-- A test of all characters that no empty text passes. -/
def allOf (p : Char → Bool) (s : List Char) : Answer := answer (.bool (!s.isEmpty && s.all p))

/-- The functions that only texts have. -/
def letterFunction (name : String) (s : List Char) (args : List Value) : Answer :=
  match name, args with
  | "encode", args => do answer (.bytes (← encoded s args))
  | "capitalize", [] => answerText (capitalized s)
  | "casefold", [] => answerText (s.flatMap caseless)
  | "title", [] => answerText (titleFrom [] s)
  | "lower", [] => answerText (lowerText s)
  | "upper", [] => answerText (s.flatMap upper)
  | "swapcase", [] => answerText (swappedFrom [] s)
  | "translate", [table] => do answerText (← s.mapM (translated table)).flatten
  | "isascii", [] => answer (.bool (s.all fun c => c.toNat < 128))
  | "islower", [] => answer (.bool (allInCase isLowerLetter s))
  | "isupper", [] => answer (.bool (allInCase isUpperLetter s))
  | "istitle", [] => answer (.bool (isTitle s))
  | "isspace", [] => allOf isBlank s
  | "isdecimal", [] => allOf isDigit s
  | "isdigit", [] => allOf isAnyDigit s
  | "isnumeric", [] => allOf isNumeral s
  | "isalpha", [] => allOf isLetter s
  | "isalnum", [] => allOf (fun c => isLetter c || isAnyDigit c || isNumeral c) s
  | "isidentifier", [] => answer (.bool (isName s))
  | "isprintable", [] => answer (.bool (s.all isPrintable))
  | _, _ => misfit

/-- A function of texts. -/
def textFunction (name : String) (receiver : Value) (args : List Value) : Answer := do
  let s ← text receiver
  ((textScript receiver).function? name s args).getD (letterFunction name s args)

end Overloads.Native
