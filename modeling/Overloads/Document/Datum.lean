import Overloads.Document.Moment
import Overloads.Text.Quoted

/-! The data of a settings document. -/
namespace Overloads.Document

open Overloads.Number Overloads.Text

inductive Datum where
  | nothing
  | bool (b : Bool)
  | int (n : Int)
  | float (x : Binary64)
  | text (s : String)
  | list (items : List Datum)
  | table (entries : List (String × Datum))
  | day (d : Day)
  | clock (t : Clock)
  | moment (d : Day) (t : Clock) (offset : Option Offset)
  deriving BEq, Repr, Inhabited

/-- Named data. -/
abbrev Table := List (String × Datum)

namespace Datum

/-- The text of a datum given as a literal. None where an integer is too long to be written. -/
def literal? : Datum → Option String
  | .nothing => some "None"
  | .bool b => some (if b then "True" else "False")
  | .int n => writtenInteger? n
  | .float x => some x.text
  | .text s => some (quoted s)
  | .list items => (literals? items).map fun ts => "[" ++ ", ".intercalate ts ++ "]"
  | .table entries =>
    (entryLiterals? entries).map fun ts => "\x7b" ++ ", ".intercalate ts ++ "\x7d"
  | .day d => some ("datetime.date(" ++ numbers [d.year, d.month, d.day] ++ ")")
  | .clock t => some ("datetime.time(" ++ numbers t.parts ++ ")")
  | .moment d t offset => some <|
    "datetime.datetime(" ++ numbers ([d.year, d.month, d.day] ++ t.parts) ++
      (match offset with
        | none => ""
        | some o => ", tzinfo=" ++ o.literal) ++ ")"
where
  literals? : List Datum → Option (List String)
    | [] => some []
    | d :: rest => do return (← d.literal?) :: (← literals? rest)
  entryLiterals? : List (String × Datum) → Option (List String)
    | [] => some []
    | (name, d) :: rest => do return (quoted name ++ ": " ++ (← d.literal?)) :: (← entryLiterals? rest)

/-- The name of the type of a datum. -/
def typeName : Datum → String
  | .nothing => "NoneType"
  | .bool _ => "bool"
  | .int _ => "int"
  | .float _ => "float"
  | .text _ => "str"
  | .list _ => "list"
  | .table _ => "dict"
  | .day _ => "date"
  | .clock _ => "time"
  | .moment _ _ _ => "datetime"

/-- The literal, or words in its place where there is none. -/
def shown (d : Datum) : String :=
  d.literal?.getD ("<unprintable " ++ d.typeName ++ " object>")

/-- A day or time in the standard form. -/
def moment? : Datum → Option String
  | .day d => some d.text
  | .clock t => some t.text
  | .moment d t offset => some (d.text ++ "T" ++ t.text ++ (offset.map (·.text)).getD "")
  | _ => none

end Datum

end Overloads.Document
