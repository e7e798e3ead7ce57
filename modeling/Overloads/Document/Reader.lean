import Overloads.Document.Outline
import Overloads.Number.Numeral

/-! Reading the text of a document. -/
namespace Overloads.Document

open Overloads.Number

inductive Fault where
  | malformed
  /-- An integer has more digits than are read. -/
  | integerTooLong (digits : Nat)
  /-- Lists and tables lie too deep in one another. -/
  | tooDeep
  deriving DecidableEq, Repr

/-- Reads from the front of a text. -/
abbrev Reader := StateT (List Char) (Except Fault)

namespace Reader

def fail {α : Type} : Reader α := throw .malformed

def peek : Reader (Option Char) := do return (← get).head?

def skip (n : Nat) : Reader Unit := modify (·.drop n)

/-- Passes the characters that satisfy `holds`, and gives them. -/
def span (holds : Char → Bool) : Reader (List Char) := do
  let s ← get
  set (s.dropWhile holds)
  return s.takeWhile holds

def isSpace (c : Char) : Bool := c = ' ' || c = '\t'

def spaces : Reader Unit := discard (span isSpace)

/-- Passes a text that stands here, if it does. -/
def accept (text : String) : Reader Bool := do
  let s ← get
  if text.toList.isPrefixOf s then
    set (s.drop text.length)
    return true
  else return false

def expect (text : String) : Reader Unit := do
  if !(← accept text) then fail

/-- Control characters do not stand in a document, the tabulator and the line feed apart. -/
def isControl (c : Char) : Bool := (c.toNat < 32 && c ≠ '\t') || c.toNat = 127

/-- Passes a comment up to the end of its line. -/
def comment : Reader Unit := do
  if (← peek) = some '#' then
    if (← span (· ≠ '\n')).any isControl then fail

/-- Passes white space, line ends and comments. -/
def blanks : Nat → Reader Unit
  | 0 => return ()
  | fuel + 1 => do
    let before := (← get).length
    let _ ← span fun c => isSpace c || c = '\n'
    comment
    if (← get).length ≠ before then blanks fuel

def allBlanks : Reader Unit := do blanks ((← get).length + 1)

def isHexDigit (c : Char) : Bool :=
  c.isDigit || ('a' ≤ c && c ≤ 'f') || ('A' ≤ c && c ≤ 'F')

def hexValue (c : Char) : Nat :=
  if c.isDigit then c.toNat - 48 else if c.isLower then c.toNat - 87 else c.toNat - 55

/-- The character with the code point that so many hexadecimal digits give. -/
def hexCharacter (digits : Nat) : Reader (List Char) := do
  let s ← get
  let ds := s.take digits
  if ds.length ≠ digits || !ds.all isHexDigit then fail
  else
    let n := ds.foldl (fun n d => 16 * n + hexValue d) 0
    skip digits
    if h : n.isValidChar then return [Char.ofNatAux n h] else fail

def escapes : List (Char × Nat) :=
  [('b', 8), ('t', 9), ('n', 10), ('f', 12), ('r', 13), ('"', 34), ('\\', 92)]

/--
What a backslash and the characters after it stand for. At the end of a line in a text of several lines it
stands for nothing, together with the white space that follows.
-/
def escape (severalLines : Bool) : Reader (List Char) := do
  skip 1
  match ← peek with
  | none => fail
  | some c =>
    if severalLines && (isSpace c || c = '\n') then
      spaces
      match ← peek with
      | none => return []
      | some '\n' =>
        let _ ← span fun c => isSpace c || c = '\n'
        return []
      | some _ => fail
    else
      skip 1
      if c = 'u' then hexCharacter 4
      else if c = 'U' then hexCharacter 8
      else match escapes.lookup c with
        | some n => return [Char.ofNat n]
        | none => fail

/-- The rest of a text between double quotes, the closing ones included. -/
def basicText (severalLines : Bool) (read : List Char) : Nat → Reader (List Char)
  | 0 => fail
  | fuel + 1 => do
    match ← peek with
    | none => fail
    | some '"' =>
      if !severalLines then
        skip 1
        return read
      else if ← accept "\"\"\"" then return read
      else
        skip 1
        basicText severalLines (read ++ ['"']) fuel
    | some '\\' => basicText severalLines (read ++ (← escape severalLines)) fuel
    | some c =>
      if isControl c && !(severalLines && c = '\n') then fail
      else
        skip 1
        basicText severalLines (read ++ [c]) fuel

/-- The rest of a text between single quotes, the closing one included. -/
def literalText : Reader (List Char) := do
  let cs ← span (· ≠ '\'')
  expect "'"
  if cs.any isControl then fail else return cs

/-- The rest of a text between three single quotes. -/
def literalLines (read : List Char) : Nat → Reader (List Char)
  | 0 => fail
  | fuel + 1 => do
    if ← accept "'''" then return read
    match ← peek with
    | none => fail
    | some c =>
      if isControl c && c ≠ '\n' then fail
      else
        skip 1
        literalLines (read ++ [c]) fuel

/-- Up to two quotes that stand before the closing ones belong to the text. -/
def furtherQuotes (quote : Char) (read : List Char) : Reader (List Char) := do
  if (← peek) ≠ some quote then return read
  skip 1
  if (← peek) ≠ some quote then return read ++ [quote]
  skip 1
  return read ++ [quote, quote]

def basicLine : Reader (List Char) := do
  skip 1
  basicText false [] ((← get).length + 1)

def literalLine : Reader (List Char) := do
  skip 1
  literalText

def basicLines : Reader (List Char) := do
  let _ ← accept "\n"
  furtherQuotes '"' (← basicText true [] ((← get).length + 1))

def literalBlock : Reader (List Char) := do
  let _ ← accept "\n"
  furtherQuotes '\'' (← literalLines [] ((← get).length + 1))

def isBareKey (c : Char) : Bool := c.isAlphanum || c = '-' || c = '_'

def keyPart : Reader String := do
  match ← peek with
  | some '\'' => return String.ofList (← literalLine)
  | some '"' => return String.ofList (← basicLine)
  | _ =>
    match ← span isBareKey with
    | [] => fail
    | cs => return String.ofList cs

/-- A dotted key, with the spaces after it. -/
def keyAfter (read : Key) : Nat → Reader Key
  | 0 => fail
  | fuel + 1 => do
    let part ← keyPart
    spaces
    if ← accept "." then
      spaces
      keyAfter (read ++ [part]) fuel
    else return read ++ [part]

def key : Reader Key := do keyAfter [] ((← get).length + 1)

/-- An integer in another base. -/
def based? : List Char → Option (Nat × List Char)
  | '0' :: sign :: rest =>
    let read (base : Nat) (holds : Char → Bool) : Option (Nat × List Char) :=
      (digits? holds rest).map fun (ds, rest) =>
        (ds.foldl (fun n d => base * n + hexValue d) 0, rest)
    match sign with
    | 'x' => read 16 isHexDigit
    | 'b' => read 2 fun c => c = '0' || c = '1'
    | 'o' => read 8 fun c => '0' ≤ c && c ≤ '7'
    | _ => none
  | _ => none

/-- The integer part: a zero, or digits that do not start with one. -/
def wholePart? : List Char → Option (List Char × List Char)
  | '0' :: rest => some (['0'], rest)
  | s => digits? Char.isDigit s

/-- The digits after a point, if there are some. -/
def places (s : List Char) : List Char × List Char :=
  match s with
  | '.' :: rest => (digits? Char.isDigit rest).getD ([], s)
  | _ => ([], s)

/-- An exponent, if there is one. -/
def exponent (s : List Char) : Option Int × List Char :=
  match s with
  | c :: rest =>
    if c = 'e' || c = 'E' then
      let (negative, body) := readSign rest
      match digits? Char.isDigit body with
      | some (ds, rest) =>
        let n : Int := decimalValue ds
        (some (if negative then -n else n), rest)
      | none => (none, s)
    else (none, s)
  | [] => (none, s)

/-- A number, or a word for one that is not finite. -/
def number : Reader Datum := do
  let s ← get
  match based? s with
  | some (n, rest) =>
    set rest
    return .int n
  | none =>
    let (negative, body) := readSign s
    match wholePart? body with
    | some (whole, rest) =>
      let (fraction, rest) := places rest
      let (e, rest) := exponent rest
      set rest
      if fraction.isEmpty && e.isNone then
        if digitLimit < whole.length then throw (.integerTooLong whole.length)
        let n : Int := decimalValue whole
        return .int (if negative then -n else n)
      else
        let digits := decimalValue (whole ++ fraction)
        return .float (.ofDecimal negative digits (e.getD 0 - fraction.length))
    | none =>
      set body
      if ← accept "inf" then return .float (.infinite negative)
      else if ← accept "nan" then return .float .nan
      else fail

/-- Two digits of a number not greater than a bound. -/
def twoDigits? (least greatest : Nat) : List Char → Option (Nat × List Char)
  | a :: b :: rest =>
    if a.isDigit && b.isDigit then
      let n := decimalValue [a, b]
      if least ≤ n && n ≤ greatest then some (n, rest) else none
    else none
  | _ => none

def colon? : List Char → Option (List Char)
  | ':' :: rest => some rest
  | _ => none

/-- The microseconds that digits behind a point give; further digits are dropped. -/
def microseconds (s : List Char) : Nat × List Char :=
  match s with
  | '.' :: rest =>
    match rest.takeWhile Char.isDigit with
    | [] => (0, s)
    | ds =>
      let six := ds.take 6
      (decimalValue (six ++ List.replicate (6 - six.length) '0'), rest.dropWhile Char.isDigit)
  | _ => (0, s)

def clock? (s : List Char) : Option (Clock × List Char) := do
  let (hour, s) ← twoDigits? 0 23 s
  let (minute, s) ← twoDigits? 0 59 (← colon? s)
  let (second, s) ← twoDigits? 0 59 (← colon? s)
  let (microsecond, s) := microseconds s
  return (⟨hour, minute, second, microsecond⟩, s)

def day? (s : List Char) : Option (Day × List Char) := do
  let year := s.take 4
  if year.length ≠ 4 || !year.all Char.isDigit then none
  let '-' :: s := s.drop 4 | none
  let (month, s) ← twoDigits? 1 12 s
  let '-' :: s := s | none
  let (day, s) ← twoDigits? 1 31 s
  return (⟨decimalValue year, month, day⟩, s)

def offset? (s : List Char) : Option (Offset × List Char) :=
  match s with
  | 'Z' :: rest | 'z' :: rest => some (0, rest)
  | sign :: rest =>
    if sign = '+' || sign = '-' then do
      let (hour, rest) ← twoDigits? 0 23 rest
      let (minute, rest) ← twoDigits? 0 59 (← colon? rest)
      let o : Int := hour * 60 + minute
      return (if sign = '-' then -o else o, rest)
    else none
  | [] => none

/-- The time of day that follows a day behind a letter or a space. -/
def clockAfterDay? : List Char → Option (Clock × List Char)
  | c :: rest => if c = 'T' || c = 't' || c = ' ' then clock? rest else none
  | [] => none

/-- A day, a moment or a time of day that stands here. The day has to exist. -/
def moment? : Reader (Option Datum) := do
  let s ← get
  match day? s with
  | some (d, rest) =>
    if !d.exists? then fail
    else match clockAfterDay? rest with
      | none =>
        set rest
        return some (.day d)
      | some (t, rest) =>
        match offset? rest with
        | some (o, rest) =>
          set rest
          return some (.moment d t (some o))
        | none =>
          set rest
          return some (.moment d t none)
  | none =>
    match clock? s with
    | some (t, rest) =>
      set rest
      return some (.clock t)
    | none => return none

/-- The calls that reading a list inside a value puts on the stack. -/
def listRoom : Nat := 2

/-- The calls that reading a table inside a value puts on the stack. -/
def tableRoom : Nat := 3

/--
The calls that may lie in one another while a value is read: what the interpreter's limit of 1000 leaves to
a reader that is called near the bottom of the stack. A caller that lies deeper leaves less room, and one
that raises the limit more; only how deep lists and tables may nest depends on it.
-/
def nestingRoom : Nat := 980

mutual

/-- The value that stands here; `room` is what nesting may still take. -/
def value (room : Nat) : Nat → Reader Datum
  | 0 => fail
  | fuel + 1 => do
    if ← accept "\"\"\"" then return .text (String.ofList (← basicLines))
    if ← accept "'''" then return .text (String.ofList (← literalBlock))
    match ← peek with
    | some '"' => return .text (String.ofList (← basicLine))
    | some '\'' => return .text (String.ofList (← literalLine))
    | some '[' =>
      if room < listRoom then throw .tooDeep
      skip 1
      allBlanks
      if ← accept "]" then return .list [] else return .list (← items (room - listRoom) [] fuel)
    | some '\x7b' =>
      if room < tableRoom then throw .tooDeep
      skip 1
      spaces
      if ← accept "\x7d" then return .table []
      else return .table (← entries (room - tableRoom) [] [] fuel)
    | _ =>
      if ← accept "true" then return .bool true
      if ← accept "false" then return .bool false
      match ← moment? with
      | some d => return d
      | none => number

/-- The items of a list up to its closing bracket. -/
def items (room : Nat) (read : List Datum) : Nat → Reader (List Datum)
  | 0 => fail
  | fuel + 1 => do
    let d ← value room fuel
    let read := read ++ [d]
    allBlanks
    if ← accept "]" then return read
    expect ","
    allBlanks
    if ← accept "]" then return read else items room read fuel

/-- The entries of a table in one line up to its closing brace. -/
def entries (room : Nat) (read : Table) (frozen : List Key) : Nat → Reader Table
  | 0 => fail
  | fuel + 1 => do
    let k ← key
    expect "="
    spaces
    let d ← value room fuel
    if frozen.any (·.isPrefixOf k) then fail
    else match changeAt false (addEntry (k.getLast?.getD "") d) k.dropLast read with
      | none => fail
      | some read =>
        spaces
        if ← accept "\x7d" then return read
        expect ","
        spaces
        entries room read (if Outline.isStructured d then k :: frozen else frozen) fuel

end

/-- Runs the change that a statement makes. -/
def change (o : Option Outline) : Reader Outline :=
  match o with
  | some o => return o
  | none => fail

/-- One statement that stands here under a header, with the header for those that follow. -/
def statement (o : Outline) (header : Key) : Reader (Outline × Key) := do
  if (← peek) = some '#' then return (o, header)
  if ← accept "[[" then
    spaces
    let k ← key
    let o ← change (o.settle.declareItem k)
    expect "]]"
    return (o, k)
  if ← accept "[" then
    spaces
    let k ← key
    let o ← change (o.settle.declare k)
    expect "]"
    return (o, k)
  let k ← key
  expect "="
  spaces
  let d ← value nestingRoom (2 * (← get).length + 1)
  return (← change (o.assign header k d), header)

/-- The statements up to the end of the document. -/
def statements (o : Outline) (header : Key) : Nat → Reader Table
  | 0 => return o.data
  | fuel + 1 => do
    spaces
    match ← peek with
    | none => return o.data
    | some '\n' =>
      skip 1
      statements o header fuel
    | some _ =>
      let (o, header) ← statement o header
      spaces
      comment
      match ← peek with
      | none => return o.data
      | some '\n' =>
        skip 1
        statements o header fuel
      | some _ => fail

end Reader

/-- The table that a text writes. -/
def read (s : List Char) : Except Fault Table :=
  ((Reader.statements .empty [] (s.length + 1)).run s).map (·.1)

end Overloads.Document
