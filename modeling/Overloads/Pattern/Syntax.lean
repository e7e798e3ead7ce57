import Overloads.Number.Power

/-! Regular expressions as trees. -/
namespace Overloads.Pattern

inductive Flag where
  | ignoreCase | multiline | dotAll | verbose | ascii | unicode | template
  deriving DecidableEq, Repr

/-- The flags in force. -/
abbrev Flags := List Flag

/-- The two flags that choose between scripts. -/
def scriptFlags : Flags := [.ascii, .unicode]

/-- Flags inside a group: its own script flag stands in place of the outer one. -/
def Flags.combine (outer added removed : Flags) : Flags :=
  let kept := if added.any scriptFlags.contains then outer.filter (!scriptFlags.contains ·) else outer
  (kept ++ added).filter (!removed.contains ·)

/-- A class of characters. -/
inductive Category where
  | digit | blank | word
  deriving DecidableEq, Repr

/-- One item of a set. Characters are given by their code points. -/
inductive SetItem where
  | literal (code : Nat)
  | range (low high : Nat)
  | category (c : Category) (negated : Bool)
  deriving DecidableEq, Repr

/-- A place in the text. -/
inductive Anchor where
  | lineStart | lineEnd | textStart | textEnd
  | boundary (negated : Bool)
  deriving DecidableEq, Repr

/-- In which order the numbers of repetitions are tried. -/
inductive Greed where
  | greedy | lazy
  /-- As many as possible, and no fewer. -/
  | possessive
  deriving DecidableEq, Repr

/-- An expression; a list of them stands for one after another. -/
inductive Node where
  | literal (negated : Bool) (code : Nat)
  | any
  | set (negated : Bool) (items : List SetItem)
  | anchor (a : Anchor)
  | branch (alternatives : List (List Node))
  | repetition (greed : Greed) (least : Nat) (most : Option Nat) (body : List Node)
  | group (number : Option Nat) (added removed : Flags) (body : List Node)
  | atomic (body : List Node)
  | ahead (negated : Bool) (body : List Node)
  /-- What stands before the place; the least and greatest width of the body are known. -/
  | behind (negated : Bool) (width : Nat × Nat) (body : List Node)
  | backreference (number : Nat)
  | conditional (number : Nat) (yes no : List Node)
  deriving Repr, Inhabited

namespace Node

/-- Whether two expressions without parts are the same. -/
def same : Node → Node → Bool
  | .literal n a, .literal m b => n == m && a == b
  | .any, .any => true
  | .set n a, .set m b => n == m && a == b
  | .anchor a, .anchor b => a == b
  | .backreference a, .backreference b => a == b
  | _, _ => false

/-- The expressions that all alternatives begin with, and what is left of each. -/
def commonStart : Nat → List (List Node) → List Node × List (List Node)
  | 0, alternatives => ([], alternatives)
  | fuel + 1, alternatives =>
    match alternatives.head?.bind (·.head?) with
    | none => ([], alternatives)
    | some n =>
      if alternatives.all fun ns => ns.head?.any n.same then
        let (start, rest) := commonStart fuel (alternatives.map List.tail)
        (n :: start, rest)
      else ([], alternatives)

/-- The items of the set that an expression for one character is. -/
def setItems? : List Node → Option (List SetItem)
  | [.literal false code] => some [.literal code]
  | [.set false items] => some items
  | _ => none

/--
One expression for several alternatives. What they all begin with stands in front of the choice, and
alternatives for one character each are a set.
-/
def choice (alternatives : List (List Node)) : List Node :=
  match alternatives with
  | [only] => only
  | _ =>
    let (start, rest) := commonStart (alternatives.head?.getD []).length alternatives
    start ++ match rest.mapM setItems? with
      | some items => [.set false items.flatten.eraseDups]
      | none => [.branch rest]

end Node

/-- Widths from this one on are not told apart; least widths stay below it. -/
def greatestWidth : Nat := 4294967295

/--
The least and the greatest number of characters that expressions match; `groups` holds the widths of the
groups read so far.
-/
def width (groups : List (Nat × Nat × Nat)) (nodes : List Node) : Nat × Nat :=
  cap (sum nodes)
where
  cap (w : Nat × Nat) : Nat × Nat := (min w.1 (greatestWidth - 1), min w.2 greatestWidth)
  either (v w : Nat × Nat) : Nat × Nat := (min v.1 w.1, max v.2 w.2)
  sum : List Node → Nat × Nat
    | [] => (0, 0)
    | n :: rest => let v := one n; let w := sum rest; (v.1 + w.1, v.2 + w.2)
  widest : List (List Node) → Nat × Nat
    | [] => (greatestWidth - 1, 0)
    | ns :: rest => either (cap (sum ns)) (widest rest)
  one : Node → Nat × Nat
    | .literal _ _ | .any | .set _ _ => (1, 1)
    | .anchor _ | .ahead _ _ | .behind _ _ _ => (0, 0)
    | .branch alternatives => widest alternatives
    | .repetition _ least most body =>
      let w := cap (sum body)
      (w.1 * least, w.2 * most.getD greatestWidth)
    | .group _ _ _ body | .atomic body => cap (sum body)
    | .backreference number => (groups.lookup number).getD (0, 0)
    | .conditional _ yes no => either (cap (sum yes)) (cap (sum no))

end Overloads.Pattern
