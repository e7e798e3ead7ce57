import Overloads.Pattern.Folding

/-! Searching a text for an expression. -/
namespace Overloads.Pattern

/-- A place in a text: what lies before it, nearest first, what follows, and the texts of groups. -/
structure Place where
  before : List Char
  rest : List Char
  groups : List (Nat × List Char)
  deriving DecidableEq, Repr

namespace Place

def start (text : List Char) : Place := ⟨[], text, []⟩

/-- Goes back some characters. -/
def back (p : Place) : Nat → Option Place
  | 0 => some p
  | n + 1 =>
    match p.before with
    | [] => none
    | c :: before => back { p with before := before, rest := c :: p.rest } n

/-- Keeps the text since `opened` as the text of a group. -/
def close (p opened : Place) (number : Option Nat) : Place :=
  match number with
  | none => p
  | some n =>
    let text := opened.rest.take (opened.rest.length - p.rest.length)
    { p with groups := (n, text) :: p.groups.filter (·.1 ≠ n) }

end Place

def Anchor.holds (f : Flags) (p : Place) : Anchor → Bool
  | .lineStart => p.before.isEmpty || (f.contains .multiline && p.before.head? = some '\n')
  | .lineEnd =>
    p.rest.isEmpty || p.rest = ['\n'] || (f.contains .multiline && p.rest.head? = some '\n')
  | .textStart => p.before.isEmpty
  | .textEnd => p.rest.isEmpty
  | .boundary negated =>
    let isWord (c : Option Char) : Bool := c.any fun c => Category.word.holds (f.contains .ascii) c
    !(p.before.isEmpty && p.rest.isEmpty) &&
      ((isWord p.before.head? != isWord p.rest.head?) != negated)

/-- What comes after a match: an answer, if the rest can be matched from here. -/
abbrev After := Place → Option Place

/-- A way to match: the answer of the first match after which there is one. -/
abbrev Matcher := Place → After → Option Place

/-- Matches one character. -/
def character (holds : Char → Bool) (p : Place) (k : After) : Option Place :=
  match p.rest with
  | [] => none
  | c :: rest => if holds c then k { p with before := c :: p.before, rest := rest } else none

/-- Matches a text again, by small letters where case is ignored. -/
def runText (f : Flags) : List Char → Matcher
  | [], p, k => k p
  | c :: cs, p, k => character (fun d => folded f d == folded f c) p fun q => runText f cs q k

/-- Matches `n` times. -/
def exactly (m : Matcher) : Nat → Matcher
  | 0, p, k => k p
  | n + 1, p, k => m p fun q => exactly m n q k

/--
Up to `left` further repetitions, more of them first. None follows one that began at the same place.
`fuel` bounds their number.
-/
def greedily (m : Matcher) (k : After) : Nat → Option Nat → Option Nat → After
  | 0, _, _, p => k p
  | fuel + 1, left, last, p =>
    if left = some 0 || last = some p.rest.length then k p
    else match m p (greedily m k fuel (left.map (· - 1)) (some p.rest.length)) with
      | some answer => some answer
      | none => k p

/-- The same with fewer of them first. -/
def lazily (m : Matcher) (k : After) : Nat → Option Nat → Option Nat → After
  | 0, _, _, p => k p
  | fuel + 1, left, last, p =>
    match k p with
    | some answer => some answer
    | none =>
      if left = some 0 || last = some p.rest.length then none
      else m p (lazily m k fuel (left.map (· - 1)) (some p.rest.length))

/-- `n` matches, each of them the first one possible. -/
def firmly (m : Matcher) : Nat → After
  | 0, p => some p
  | n + 1, p => (m p some).bind (firmly m n)

/-- Further matches as long as there are some, each of them the first one possible. -/
def firmlyOn (m : Matcher) : Nat → Option Nat → Option Nat → Place → Place
  | 0, _, _, p => p
  | fuel + 1, left, last, p =>
    if left = some 0 || last = some p.rest.length then p
    else match m p some with
      | some q => firmlyOn m fuel (left.map (· - 1)) (some p.rest.length) q
      | none => p

/-- Repetitions, at least `least` and at most `most` of them. -/
def repeated (greed : Greed) (least : Nat) (most : Option Nat) (m : Matcher) : Matcher :=
  fun p k =>
    let left := most.map (· - least)
    let fuel (q : Place) : Nat := q.rest.length + 2
    match greed with
    | .greedy => exactly m least p fun q => greedily m k (fuel q) left none q
    | .lazy => exactly m least p fun q => lazily m k (fuel q) left none q
    | .possessive => (firmly m least p).bind fun q => k (firmlyOn m (fuel q) left none q)

mutual

/-- Matches one expression. -/
def Node.run : Node → Flags → Matcher
  | .literal negated code, f, p, k => character (fun c => sameCode f c code != negated) p k
  | .any, f, p, k => character (fun c => f.contains .dotAll || c != '\n') p k
  | .set negated items, f, p, k =>
    character (fun c => items.any (·.holds f c) != negated) p k
  | .anchor a, f, p, k => if a.holds f p then k p else none
  | .branch alternatives, f, p, k => runFirst alternatives f p k
  | .repetition greed least most body, f, p, k => repeated greed least most (runAll body f) p k
  | .group number added removed body, f, p, k =>
    runAll body (f.combine added removed) p fun q => k (q.close p number)
  | .atomic body, f, p, k => (runAll body f p some).bind k
  | .ahead negated body, f, p, k =>
    match runAll body f p some with
    | some q => if negated then none else k { p with groups := q.groups }
    | none => if negated then k p else none
  | .behind negated width body, f, p, k =>
    match (p.back width.1).bind fun q => runAll body f q some with
    | some q => if negated then none else k { p with groups := q.groups }
    | none => if negated then k p else none
  | .backreference number, f, p, k =>
    match p.groups.lookup number with
    | none => none
    | some text => runText f text p k
  | .conditional number yes no, f, p, k =>
    if (p.groups.lookup number).isSome then runAll yes f p k else runAll no f p k

/-- Matches expressions one after another. -/
def runAll : List Node → Flags → Matcher
  | [], _, p, k => k p
  | n :: rest, f, p, k => n.run f p fun q => runAll rest f q k

/-- Matches one of some alternatives, the first ones first. -/
def runFirst : List (List Node) → Flags → Matcher
  | [], _, _, _ => none
  | ns :: rest, f, p, k =>
    match runAll ns f p k with
    | some answer => some answer
    | none => runFirst rest f p k

end

end Overloads.Pattern
