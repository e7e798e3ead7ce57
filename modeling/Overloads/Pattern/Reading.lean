import Overloads.Number.Reading
import Overloads.Pattern.Escape
import Overloads.Text.Letter

/-! Reading expressions. -/
namespace Overloads.Pattern

namespace Reader

/-- Numbers of repetitions have to be smaller than this. -/
def repetitionLimit : Nat := 4294967295

/-- Numbers of groups have to be smaller than this. -/
def groupLimit : Nat := 1073741823

def flag? : Char → Option Flag
  | 'i' => some .ignoreCase
  | 'm' => some .multiline
  | 's' => some .dotAll
  | 'x' => some .verbose
  | 'a' => some .ascii
  | 'u' => some .unicode
  | 't' => some .template
  | _ => none

/-- Whether a token is the letter of a flag; the flag `L` is known, but cannot be used. -/
def isFlag : Token → Bool
  | .plain c => c = 'L' || (flag? c).isSome
  | .escape _ => false

/-- The complaint about a token that is no flag. -/
def notAFlag {α : Type} (t : Token) (missing : String) : Reader α :=
  let isLetter : Bool := match t with
    | .plain c => Text.isLetter c
    | .escape _ => false
  fail (if isLetter then "unknown flag" else missing) t.text.length

def incompatible : String := "bad inline flags: flags 'a', 'u' and 'L' are incompatible"

/-- The flags turned on from the one just read, with the token that ends them. -/
def addedFlags (added : Flags) (c : Char) : Nat → Reader (Flags × Token)
  | 0 => fail "missing -, : or )" 0
  | fuel + 1 => do
    match flag? c with
    | none => fail "bad inline flags: cannot use 'L' flag with a str pattern" 0
    | some f =>
      if scriptFlags.contains f && added.any (fun g => scriptFlags.contains g && g ≠ f) then
        fail incompatible 0
      let added := if added.contains f then added else added ++ [f]
      match ← next with
      | none => fail "missing -, : or )" 0
      | some (.plain d) =>
        if d = ')' || d = '-' || d = ':' then return (added, .plain d)
        else if isFlag (.plain d) then addedFlags added d fuel
        else notAFlag (.plain d) "missing -, : or )"
      | some t => notAFlag t "missing -, : or )"

/-- The flags turned off from the one just read up to the colon. -/
def removedFlags (removed : Flags) (c : Char) : Nat → Reader Flags
  | 0 => fail "missing :" 0
  | fuel + 1 => do
    let some f := (flag? c).filter (!scriptFlags.contains ·)
      | fail "bad inline flags: cannot turn off flags 'a', 'u' and 'L'" 0
    match ← next with
    | none => fail "missing :" 0
    | some (.plain ':') => return f :: removed
    | some t =>
      match t with
      | .plain d =>
        if isFlag t then removedFlags (f :: removed) d fuel else notAFlag t "missing :"
      | .escape _ => notAFlag t "missing :"

/--
Flags in parentheses from their first character on: none if they hold for the whole expression, which then
has them, or those turned on and off.
-/
def inlineFlags (c : Char) : Reader (Option (Flags × Flags)) := do
  let fuel := (← get).rest.length + 1
  let (added, last) ← if c = '-' then pure ([], Token.plain '-') else addedFlags [] c fuel
  if last = .plain ')' then
    modify fun s => { s with flags := s.flags ++ added }
    return none
  if added.contains .template then fail "bad inline flags: cannot turn on global flag" 1
  let removed ← if last ≠ .plain '-' then pure [] else
    match ← next with
    | none => fail "missing flag" 0
    | some t =>
      match t with
      | .plain d => if isFlag t then removedFlags [] d fuel else notAFlag t "missing flag"
      | .escape _ => notAFlag t "missing flag"
  if removed.contains .template then fail "bad inline flags: cannot turn off global flag" 1
  if added.any removed.contains then fail "bad inline flags: flag turned on and off" 1
  return some (added, removed)

/-- One end of a range or a single item of a set, with its token. -/
def setItem (t : Token) : Reader Escaped :=
  match t with
  | .plain c => return .code c.toNat
  | .escape c => setEscape c

def Escaped.setItem : Escaped → SetItem
  | .code n => .literal n
  | .category c negated => .category c negated
  | .anchor _ | .backreference _ => .literal 0

/-- The range between two items; both have to be single characters in order. -/
def setRange (low high : Escaped) (lowToken highToken : Token) : Reader SetItem := do
  let text := lowToken.text ++ '-' :: highToken.text
  let bad : Reader SetItem := fail ("bad character range " ++ String.ofList text) text.length
  match low, high with
  | .code l, .code h => if h < l then bad else return .range l h
  | _, _ => bad

/-- The items of a set up to the closing bracket. `opened` is the place of the opening one. -/
def setItems (opened : Nat) (items : List SetItem) : Nat → Reader (List SetItem)
  | 0 => failAt "unterminated character set" opened
  | fuel + 1 => do
    let some t ← next | failAt "unterminated character set" opened
    if t = .plain ']' && !items.isEmpty then return items
    let low ← setItem t
    if ← accept '-' then
      let some u ← next | failAt "unterminated character set" opened
      if u = .plain ']' then return items ++ [low.setItem, .literal '-'.toNat]
      let high ← setItem u
      let range ← setRange low high t u
      setItems opened (items ++ [range]) fuel
    else setItems opened (items ++ [low.setItem]) fuel

/-- A set whose opening bracket was read. -/
def readSet : Reader Node := do
  let opened := (← get).position - 1
  let negated ← accept '^'
  let items := (← setItems opened [] ((← get).rest.length + 1)).eraseDups
  match items with
  | [.literal code] => return .literal negated code
  | _ => return .set negated items

/-- The bounds of a repetition whose sign was read; none if the sign stands for itself. -/
def bounds (sign : Char) : Reader (Option (Nat × Option Nat)) := do
  match sign with
  | '?' => return some (0, some 1)
  | '*' => return some (0, none)
  | '+' => return some (1, none)
  | _ =>
    if (← peek) = some (.plain '\x7d') then return none
    let here ← get
    let low ← digits
    let high ← if ← accept ',' then digits else pure low
    if !(← accept '\x7d') then
      set here
      return none
    let least := number 10 low
    if repetitionLimit ≤ least then throw .repetitionTooLarge
    if high.isEmpty then return some (least, none)
    let most := number 10 high
    if repetitionLimit ≤ most then throw .repetitionTooLarge
    if most < least then failAt "min repeat greater than max repeat" here.position
    return some (least, some most)

/-- How the repetition whose bounds were read is tried. -/
def readGreed : Reader Greed := do
  if ← accept '?' then return .lazy
  else if ← accept '+' then return .possessive
  else return .greedy

/-- Repeats the last expression read; `position` is the place of the sign. -/
def repeatLast (read : List Node) (least : Nat) (most : Option Nat) (position : Nat) :
    Reader (List Node) := do
  match read.getLast? with
  | none | some (.anchor _) => failAt "nothing to repeat" position
  | some (.repetition _ _ _ _) => failAt "multiple repeat" position
  | some n => return read.dropLast ++ [.repetition (← readGreed) least most [n]]

/-- Opens a group. -/
def openGroup (name : Option (List Char)) : Reader Nat := do
  let s ← get
  let n := s.groupCount
  set { s with groupCount := n + 1 }
  match name with
  | none => return n
  | some cs =>
    let name := String.ofList cs
    match s.names.lookup name with
    | some old => fail ("redefinition of group name " ++ Text.quoted name ++ " as group " ++
        Number.decimalText n ++ "; was group " ++ Number.decimalText old) (cs.length + 1)
    | none =>
      modify fun s => { s with names := (name, n) :: s.names }
      return n

def closeGroup (n : Nat) (body : List Node) : Reader Unit :=
  modify fun s => { s with widths := (n, width s.widths body) :: s.widths }

def badName (name : List Char) : String :=
  "bad character in group name " ++ String.ofList (Text.quotedChars name)

def unknownName (name : List Char) : String :=
  "unknown group name " ++ String.ofList (Text.quotedChars name)

/-- A name up to a terminator. -/
def groupName (terminator : Char) : Reader (List Char) := do
  let name ← nameUntil terminator "group name"
  if !Text.isName name then fail (badName name) (name.length + 1)
  return name

/-- The number of a named group. -/
def numberOfName (name : List Char) : Reader Nat := do
  match (← get).names.lookup (String.ofList name) with
  | some n => return n
  | none => fail (unknownName name) (name.length + 1)

/-- A reference to a named group. -/
def namedReference : Reader Node := do
  let name ← groupName ')'
  let n ← numberOfName name
  if !(← isClosed n) then fail "cannot refer to an open group" (name.length + 1)
  checkLookBehind n
  return .backreference n

/-- The group that a condition asks for, by name or by number. -/
def conditionGroup : Reader Nat := do
  let name ← nameUntil ')' "group name"
  let n ← if Text.isName name then numberOfName name else
    match Number.readInteger name with
    | .value (.ofNat 0) => fail "bad group number" (name.length + 1)
    | .value (.ofNat n) =>
      if groupLimit ≤ n then
        fail ("invalid group reference " ++ Number.decimalText n) (name.length + 1)
      modify fun s => { s with awaited := s.awaited ++ [(n, s.position - name.length - 1)] }
      pure n
    | _ => fail (badName name) (name.length + 1)
  checkLookBehind n
  return n

/-- Passes a comment up to its closing parenthesis. -/
def skipComment (opened : Nat) : Nat → Reader Unit
  | 0 => failAt "missing ), unterminated comment" opened
  | fuel + 1 => do
    match ← next with
    | none => failAt "missing ), unterminated comment" opened
    | some t => if t = .plain ')' then return () else skipComment opened fuel

/-- Passes the rest of a line. -/
def skipLine : Nat → Reader Unit
  | 0 => return ()
  | fuel + 1 => do
    match ← next with
    | none => return ()
    | some t => if t = .plain '\n' then return () else skipLine fuel

/-- What stands behind an opening parenthesis. -/
inductive Opening where
  | capture (name : Option (List Char))
  | plain (added removed : Flags)
  | atomic
  | ahead (negated : Bool)
  | behind (negated : Bool)
  | condition (group : Nat)
  | expression (n : Node)
  | comment
  | global
  deriving Inhabited

/-- Reads what stands behind an opening parenthesis. -/
def opening (opened : Nat) : Reader Opening := do
  if !(← accept '?') then return .capture none
  let some t ← next | fail "unexpected end of pattern" 0
  let unknown {α : Type} (first : List Char) (t : Token) : Reader α :=
    let text := first ++ t.text
    fail ("unknown extension " ++ String.ofList text) text.length
  match t with
  | .plain 'P' =>
    if ← accept '<' then return .capture (some (← groupName '>'))
    else if ← accept '=' then return .expression (← namedReference)
    else
      let some u ← next | fail "unexpected end of pattern" 0
      unknown ['?', 'P'] u
  | .plain ':' => return .plain [] []
  | .plain '#' =>
    skipComment opened ((← get).rest.length + 1)
    return .comment
  | .plain '=' => return .ahead false
  | .plain '!' => return .ahead true
  | .plain '<' =>
    let some u ← next | fail "unexpected end of pattern" 0
    if u = .plain '=' then return .behind false
    else if u = .plain '!' then return .behind true
    else unknown ['?', '<'] u
  | .plain '(' => return .condition (← conditionGroup)
  | .plain '>' => return .atomic
  | .plain c =>
    if c = '-' || isFlag t then
      match ← inlineFlags c with
      | none => return .global
      | some (added, removed) => return .plain added removed
    else unknown ['?'] t
  | .escape _ => unknown ['?'] t

def unterminated : String := "missing ), unterminated subpattern"

/-- Passes the closing parenthesis of what was opened. -/
def close (opened : Nat) : Reader Unit := do
  if !(← accept ')') then failAt unterminated opened

def isVerboseBlank (c : Char) : Bool := c = ' ' || (9 ≤ c.toNat && c.toNat ≤ 13)

def Escaped.node : Escaped → Node
  | .code n => .literal false n
  | .category c negated => .set false [.category c negated]
  | .anchor a => .anchor a
  | .backreference n => .backreference n

def isVerbose : Reader Bool := do return (← get).flags.contains .verbose

/-- What a sequence is read as part of. -/
structure Context where
  /-- Blanks and comments are passed over. -/
  verbose : Bool
  /-- The sequence is an alternative of the whole expression. -/
  top : Bool
  /-- The sequence stands at the very beginning. -/
  first : Bool
  /-- What parentheses in one another may still take. -/
  room : Nat

/-- The calls that reading an expression in parentheses puts on the stack. -/
def groupRoom : Nat := 2

/--
The calls that may lie in one another while an expression is read: what the interpreter's limit of 1000
leaves to a reader that is called near the bottom of the stack. A caller that lies deeper leaves less room,
and one that raises the limit more; only how deep an expression may nest depends on it.
-/
def nestingRoom : Nat := 975

mutual

/-- Reads alternatives up to a closing parenthesis or the end. -/
def alternatives (x : Context) (read : List (List Node)) : Nat → Reader (List Node)
  | 0 => fail unterminated 0
  | fuel + 1 => do
    let nodes ← sequence { x with first := x.top && read.isEmpty } [] fuel
    let read := read ++ [nodes]
    if ← accept '|' then
      let verbose ← if x.top then isVerbose else pure x.verbose
      alternatives { x with verbose := verbose } read fuel
    else return Node.choice read

/-- Reads expressions one after another; `read` are those read so far. -/
def sequence (x : Context) (read : List Node) : Nat → Reader (List Node)
  | 0 => fail unterminated 0
  | fuel + 1 => do
    let t ← peek
    if t = none || t = some (.plain '|') || t = some (.plain ')') then return read
    let opened := (← get).position
    let _ ← next
    match t with
    | none => return read
    | some (.escape c) => sequence x (read ++ [(← escape c).node]) fuel
    | some (.plain c) =>
      if x.verbose && isVerboseBlank c then sequence x read fuel
      else if x.verbose && c = '#' then
        skipLine ((← get).rest.length + 1)
        sequence x read fuel
      else match c with
        | '[' => sequence x (read ++ [← readSet]) fuel
        | '.' => sequence x (read ++ [.any]) fuel
        | '^' => sequence x (read ++ [.anchor .lineStart]) fuel
        | '$' => sequence x (read ++ [.anchor .lineEnd]) fuel
        | '(' =>
          match ← opening opened with
          | .comment => sequence x read fuel
          | .global =>
            if !x.first || !read.isEmpty then
              failAt "global flags not at the start of the expression" opened
            sequence { x with verbose := ← isVerbose } read fuel
          | o => sequence x (read ++ [← parenthesized x opened o fuel]) fuel
        | _ =>
          if c = '*' || c = '+' || c = '?' || c = '\x7b' then
            match ← bounds c with
            | none => sequence x (read ++ [.literal false c.toNat]) fuel
            | some (least, most) => sequence x (← repeatLast read least most opened) fuel
          else sequence x (read ++ [.literal false c.toNat]) fuel

/-- Reads the rest of an expression in parentheses. -/
def parenthesized (x : Context) (opened : Nat) (o : Opening) : Nat → Reader Node
  | 0 => fail unterminated 0
  | fuel + 1 => do
    if x.room < groupRoom then throw .tooDeep
    let inner : Context := ⟨x.verbose, false, false, x.room - groupRoom⟩
    match o with
    | .capture name =>
      let n ← openGroup name
      let body ← alternatives inner [] fuel
      close opened
      closeGroup n body
      return .group (some n) [] [] body
    | .plain added removed =>
      let verbose := (x.verbose || added.contains .verbose) && !removed.contains .verbose
      let body ← alternatives { inner with verbose := verbose } [] fuel
      close opened
      return .group none added removed body
    | .atomic =>
      let body ← alternatives inner [] fuel
      close opened
      return .atomic body
    | .ahead negated =>
      let body ← alternatives inner [] fuel
      close opened
      return .ahead negated body
    | .behind negated =>
      let outside := (← get).outside
      if outside.isNone then modify fun s => { s with outside := some s.groupCount }
      let body ← alternatives inner [] fuel
      modify fun s => { s with outside := outside }
      close opened
      return .behind negated (width (← get).widths body) body
    | .condition n =>
      let yes ← sequence inner [] fuel
      let no ← if ← accept '|' then
          let no ← sequence inner [] fuel
          if (← peek) = some (.plain '|') then
            fail "conditional backref with more than two branches" 0
          pure no
        else pure []
      close opened
      return .conditional n yes no
    | .expression n => return n
    | .comment | .global => return .group none [] [] []

end

end Reader

/-- An expression ready to be searched for. -/
structure Compiled where
  nodes : List Node
  flags : Flags
  deriving Repr, Inhabited

/-- The name of a repetition in a complaint about it. -/
def Greed.operator : Greed → String
  | .greedy => "MAX_REPEAT"
  | .lazy => "MIN_REPEAT"
  | .possessive => "POSSESSIVE_REPEAT"

/-- The first thing in an expression that can be read and cannot be searched for. -/
def obstacle? (template : Bool) (nodes : List Node) : Option String := all nodes
where
  all : List Node → Option String
    | [] => none
    | n :: rest => (one n).or (all rest)
  any : List (List Node) → Option String
    | [] => none
    | ns :: rest => (all ns).or (any rest)
  one : Node → Option String
    | .repetition greed _ _ body =>
      if template then some ("internal: unsupported template operator " ++ greed.operator)
      else all body
    | .branch alternatives => any alternatives
    | .group _ _ _ body | .atomic body | .ahead _ body => all body
    | .behind _ width body =>
      if width.1 ≠ width.2 then some "look-behind requires fixed-width pattern"
      else all body
    | .conditional _ yes no => (all yes).or (all no)
    | .literal _ _ | .any | .set _ _ | .anchor _ | .backreference _ => none

/-- The width up to which a search can go back. -/
def greatestBehind : Nat := 2147483647

/-- Whether a search for an expression goes back too far. -/
def isTooWide (nodes : List Node) : Bool := all nodes
where
  all : List Node → Bool
    | [] => false
    | n :: rest => one n || all rest
  any : List (List Node) → Bool
    | [] => false
    | ns :: rest => all ns || any rest
  one : Node → Bool
    | .behind _ width body => greatestBehind < width.1 || all body
    | .branch alternatives => any alternatives
    | .repetition _ _ _ body | .group _ _ _ body | .atomic body | .ahead _ body => all body
    | .conditional _ yes no => all yes || all no
    | .literal _ _ | .any | .set _ _ | .anchor _ | .backreference _ => false

/-- Reads the whole text of an expression. -/
def Reader.whole : Reader Compiled := do
  Reader.checkToken
  let fuel := 3 * (← get).rest.length + 4
  let nodes ← Reader.alternatives ⟨false, true, true, Reader.nestingRoom⟩ [] fuel
  let s ← get
  if s.flags.contains .ascii && s.flags.contains .unicode then throw .incompatibleFlags
  if !s.rest.isEmpty then Reader.fail "unbalanced parenthesis" 0
  match s.awaited.find? fun (n, _) => s.groupCount ≤ n with
  | some (n, position) =>
    Reader.failAt ("invalid group reference " ++ Number.decimalText n) position
  | none => return ⟨nodes, s.flags⟩

/-- The expression that a text writes. -/
def compile (text : String) : Except Fault Compiled := do
  let start : Cursor := ⟨text.toList, 0, [], 1, [], [], none, []⟩
  let (c, _) ← Reader.whole.run start
  match obstacle? (c.flags.contains .template) c.nodes with
  | some what => throw (.malformed what none)
  | none => if isTooWide c.nodes then throw .tooWide else return c

/-- A place in a text of several lines. -/
def lineText (text : List Char) (position : Nat) : String :=
  if '\n' ∉ text then ""
  else
    let before := text.take position
    let column := (before.reverse.takeWhile (· ≠ '\n')).length + 1
    " (line " ++ Number.decimalText (before.count '\n' + 1) ++ ", column " ++
      Number.decimalText column ++ ")"

/-- A complaint about a text, with the place that it is about. -/
def complaint (text what : String) : Option Nat → String
  | none => what
  | some position =>
    what ++ " at position " ++ Number.decimalText position ++ lineText text.toList position

end Overloads.Pattern
