import Overloads.Document.Datum
import Overloads.Failure
import Overloads.Number.Loose
import Overloads.Settings.Problem

/-! Reading settings from data. Integers and truth values may be given as text. -/
namespace Overloads.Settings

open Overloads.Document Overloads.Number Overloads.Text

/-- The integer that a text writes in decimal digits. -/
def integerOfText (s : List Char) : Except Problem Int :=
  match readLooseInteger s with
  | .value n => .ok n
  | .tooLong _ => .error .integerSize
  | .malformed => .error .integerText

/-- Whether an integer fits a signed word of 64 bits. -/
def fitsWord (n : Int) : Bool := -(twoTo 63 : Int) ≤ n && n < twoTo 63

/-- Whether an integer has less than 64 bits. -/
def isSmall (n : Int) : Bool := n.natAbs < twoTo 63

/-- The integer that a double is. -/
def integerOfDouble (x : Binary64) : Except Problem Int :=
  match x.truncate with
  | none => .error .integerInfinite
  | some n =>
    if !x.isIntegral then .error .integerFraction
    else if isSmall n then .ok n
    else .error .integerSize

def integer : Datum → Except Problem Int
  | .int n => .ok n
  | .bool b => .ok (if b then 1 else 0)
  | .float x => integerOfDouble x
  | .text s => integerOfText s.toList
  | _ => .error .integerType

def positive (d : Datum) : Except Problem Int := do
  let n ← integer d
  if 0 < n then return n else throw .notPositive

/-- The words for truth values. Their case does not matter. -/
def truthWords : List (String × Bool) :=
  [("0", false), ("off", false), ("f", false), ("false", false), ("n", false), ("no", false),
    ("1", true), ("on", true), ("t", true), ("true", true), ("y", true), ("yes", true)]

/-- The truth value that an integer of less than 64 bits stands for. -/
def truthOfInteger (n : Int) : Except Problem Bool :=
  if n = 0 then .ok false else if n = 1 then .ok true else .error .booleanText

def truth : Datum → Except Problem Bool
  | .bool b => .ok b
  | .text s =>
    match truthWords.lookup (String.ofList (s.toList.map Char.toLower)) with
    | some b => .ok b
    | none => .error .booleanText
  | .int n => if fitsWord n then truthOfInteger n else .error .booleanType
  | .float x =>
    match integerOfDouble x with
    | .ok n => truthOfInteger n
    | .error _ => .error .booleanType
  | _ => .error .booleanType

def text : Datum → Except Problem String
  | .text s => .ok s
  | _ => .error .textType

/-- What a setting at some place is read as, or everything that is wrong with it. -/
abbrev Check (α : Type) := List Step → Datum → Except (List FieldProblem) α

variable {α : Type}

/-- The problem with a datum at a place. -/
def problemAt (place : List Step) (d : Datum) (p : Problem) : FieldProblem :=
  ⟨place, p, d.shown, d.typeName⟩

/-- A setting in one part. -/
def single (read : Datum → Except Problem α) : Check α := fun place d =>
  (read d).mapError fun p => [problemAt place d p]

def problemsOf : Except (List FieldProblem) α → List FieldProblem
  | .ok _ => []
  | .error ps => ps

/-- All parts, or the problems of all parts. -/
def gather : List (Except (List FieldProblem) α) → Except (List FieldProblem) (List α)
  | [] => .ok []
  | .ok a :: rest => (gather rest).map (a :: ·)
  | .error ps :: rest => .error (ps ++ problemsOf (gather rest))

/-- A list of texts. A single text stands for the list of it alone. -/
def texts : Check (List String) := fun place d =>
  match d with
  | .text s => .ok [s]
  | .list items => gather (items.mapIdx fun i d => single text (place ++ [.index i]) d)
  | _ => .error [problemAt place d .listType]

/-- Settings read one after another: what is wrong is collected, and the default stands in for it. -/
abbrev Collect := StateM (List FieldProblem)

/-- Reads the setting `name`, or takes the default if it is not there. -/
def setting (t : Table) (name : String) (default : α) (check : Check α) : Collect α := do
  match t.lookup name with
  | none => return default
  | some d =>
    match check [.field name] d with
    | .ok a => return a
    | .error ps =>
      modify (· ++ ps)
      return default

/-- The settings if nothing was wrong with them. -/
def collected (model : String) (read : Collect α) : Except Failure α :=
  match read.run [] with
  | (a, []) => .ok a
  | (_, ps) => .error (.invalidSettings model ps)

end Overloads.Settings
