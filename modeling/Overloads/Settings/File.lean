import Overloads.Document.Reader
import Overloads.Failure
import Overloads.Text.Utf8

/-! Where settings come from. -/
namespace Overloads.Settings

open Overloads.Document

/-- What is found where a settings file is looked for. -/
inductive File where
  /-- Nothing that can be read. -/
  | absent
  | bytes (data : List UInt8)
  deriving DecidableEq, Repr

/-- The document in a file. Where there is none, or it is malformed, nothing is set. -/
def File.load : File → Except Failure Table
  | .absent => .ok []
  | .bytes data =>
    match Text.decodeUtf8 data with
    | none => .error .undecodableText
    | some cs =>
      match Document.read (Text.unifyLineEnds cs) with
      | .ok t => .ok t
      | .error .malformed => .ok []
      | .error .tooDeep => .error .tooDeep
      | .error (.integerTooLong digits) => .error (.integerTooLong digits)

/-- The table of a name. What is no table counts as an empty one. -/
def part (t : Table) (name : String) : Table :=
  match t.lookup name with
  | some (.table entries) => entries
  | _ => []

/-- Puts one entry into a table; one of the same name is replaced. -/
def override (t : Table) (name : String) (d : Datum) : Table :=
  if t.any (·.1 = name) then replaceEntry t name d else t ++ [(name, d)]

/-- What is given counts before the defaults; what is nothing is not given. -/
def merge (given defaults : Table) : Table :=
  given.foldl (fun t (name, d) => match d with
    | .nothing => t
    | d => override t name d) defaults

/-- The settings in the part `name` of a file, with those given taking precedence. -/
def inForce (f : File) (name : String) (given : Table) : Except Failure Table := do
  return merge given (part (← f.load) name)

end Overloads.Settings
