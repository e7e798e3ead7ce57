import Overloads.Log.Level
import Overloads.Number.Shortest
import Overloads.Text.Quoted

/-! Events of a run, and the two forms in which they are written. -/
namespace Overloads

open Overloads.Number Overloads.Text

/-- What an event says of one thing. -/
inductive Detail where
  | text (s : String)
  | count (n : Nat)
  | texts (ss : List String)
  deriving DecidableEq, Repr

structure Event where
  level : Level
  name : String
  details : List (String × Detail)
  deriving DecidableEq, Repr

namespace Detail

/-- The characters that put a text into quotes. -/
def isDelimiter (c : Char) : Bool :=
  c = ' ' || c = '\t' || c = '=' || c = '\r' || c = '\n' || c = '"' || c = '\''

/-- The detail as it stands behind its name in a line. -/
def plain : Detail → String
  | .text s => if s.any isDelimiter then quoted s else s
  | .count n => decimalText n
  | .texts ss => "[" ++ ", ".intercalate (ss.map quoted) ++ "]"

end Detail

/-- A code unit of sixteen bits. -/
def unitEscape (n : Nat) : List Char := '\\' :: 'u' :: hexDigits 4 n

/-- A character inside a text of an object. Only printable ASCII stands for itself. -/
def objectEscape (c : Char) : List Char :=
  let n := c.toNat
  if c = '"' || c = '\\' then ['\\', c]
  else if c = '\n' then ['\\', 'n']
  else if c = '\r' then ['\\', 'r']
  else if c = '\t' then ['\\', 't']
  else if n = 8 then ['\\', 'b']
  else if n = 12 then ['\\', 'f']
  else if 32 ≤ n && n < 127 then [c]
  else if n < 0x10000 then unitEscape n
  else
    let high := 0xD800 + (n - 0x10000) / 1024
    let low := 0xDC00 + (n - 0x10000) % 1024
    unitEscape high ++ unitEscape low

def objectText (s : String) : String :=
  String.ofList ('"' :: s.toList.flatMap objectEscape ++ ['"'])

def Detail.object : Detail → String
  | .text s => objectText s
  | .count n => decimalText n
  | .texts ss => "[" ++ ", ".intercalate (ss.map objectText) ++ "]"

namespace Event

/-- The event in one line, its details by name. -/
def line (e : Event) : String :=
  let details := e.details.mergeSort fun a b => !decide (b.1 < a.1)
  "[" ++ e.level.text ++ "] " ++ e.name ++
    String.join (details.map fun (name, d) => " " ++ name ++ "=" ++ d.plain)

/-- The event as an object in one line. -/
def object (e : Event) : String :=
  let fields := e.details.map (fun (name, d) => (name, d.object)) ++
    [("event", objectText e.name), ("level", objectText e.level.text)]
  "\x7b" ++ ", ".intercalate (fields.map fun (name, s) => objectText name ++ ": " ++ s) ++ "\x7d"

end Event

end Overloads
