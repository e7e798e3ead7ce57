import Overloads.Failure
import Overloads.Text.Blank

/-! Coordinates of dependencies and their two written forms. -/
namespace Overloads

open Overloads.Text

structure Coordinate where
  group : String
  artifact : String
  version : String
  deriving DecidableEq, Repr

namespace Coordinate

/-- What is asked of an installer. Without a version any will do. -/
def requirement (c : Coordinate) : String :=
  if c.version.isEmpty then c.artifact else c.artifact ++ "==" ++ c.version

/-- The bracketed form. -/
def text (c : Coordinate) : String :=
  "[" ++ c.group ++ "/" ++ c.artifact ++ " \"" ++ c.version ++ "\"]"

/-- Whether a character can stand in a name between brackets. -/
def isNameChar (c : Char) : Bool := !isBlank c && c ≠ '"' && c ≠ '[' && c ≠ ']'

/-- The name and the version in a text of the bracketed form. -/
def bracketed? (s : List Char) : Option (List Char × List Char) := do
  let '[' :: s := s | none
  let s := s.dropWhile isBlank
  let name := s.takeWhile isNameChar
  let s := s.dropWhile isNameChar
  let '"' :: quotedPart := s.dropWhile isBlank | none
  if name.isEmpty || s.head? = some '"' then none
  let version := quotedPart.takeWhile (· ≠ '"')
  let '"' :: s := quotedPart.dropWhile (· ≠ '"') | none
  if s.dropWhile isBlank = [']'] then return (name, version) else none

/-- The name and the version in a text of parts between colons, none of them empty. -/
def colonForm? (s : List Char) : Option (List Char × List Char) :=
  let parts := s.splitOn ':'
  if parts.length < 2 || parts.any (·.isEmpty) then none
  else some (['/'].intercalate parts.dropLast, parts.getLast?.getD [])

/-- The coordinate of a name, whose last part is the artifact. Without others it is its own group. -/
def ofName (raw : String) (name version : List Char) : Except Failure Coordinate :=
  let artifact := String.ofList (name.reverse.takeWhile (· ≠ '/')).reverse
  let group := String.ofList (((name.reverse.dropWhile (· ≠ '/')).drop 1).reverse)
  if artifact.isEmpty then .error (.missingArtifact raw)
  else .ok ⟨if group.isEmpty then artifact else group, artifact, String.ofList version⟩

/-- Reads either form. White space around it does not count. -/
def parse (raw : String) : Except Failure Coordinate :=
  let s := trim raw
  let found := if s.startsWith "[" then bracketed? s.toList else colonForm? s.toList
  match found with
  | some (name, version) => ofName raw name version
  | none => .error (.malformedCoordinate raw)

end Coordinate

end Overloads
