import Overloads.Dependency.Coordinate
import Overloads.Number.Shortest

/-! Installing dependencies and putting them on the import path. -/
namespace Overloads

/-- A path without the parts that lead nowhere. Exactly two slashes at the front stay two. -/
def plainPath (s : String) : String :=
  let root :=
    if s.startsWith "///" then "/" else if s.startsWith "//" then "//"
    else if s.startsWith "/" then "/" else ""
  let parts := (s.splitOn "/").filter fun part => !part.isEmpty && part ≠ "."
  let path := root ++ "/".intercalate parts
  if path.isEmpty then "." else path

/-- How a run of the installer ended. -/
inductive InstallerOutcome where
  | exited (status : Int) (complaints : String)
  /-- It could not be run. -/
  | notRun (reason : String)
  deriving DecidableEq, Repr

/-- The command that installs into the directory `target`. -/
def installCommand (interpreter target : String) (cs : List Coordinate) : List String :=
  [interpreter, "-m", "pip", "install", "--quiet", "--disable-pip-version-check", "--target", target] ++
    cs.map (·.requirement)

namespace InstallerOutcome

/-- Why dependencies are not there, if so. -/
def reason? : InstallerOutcome → Option String
  | .notRun reason => some reason
  | .exited status complaints =>
    if status = 0 then none
    else
      let told := Text.trim complaints
      some (if told.isEmpty then "pip exited with status " ++ Number.decimalText status else told)

end InstallerOutcome

/-- The directories in which modules are looked for, the first one first. -/
abbrev ImportPath := List String

namespace ImportPath

/-- Puts a directory in front unless it is there already. -/
def add (p : ImportPath) (directory : String) : ImportPath :=
  if p.contains directory then p else directory :: p

/-- The path after an installation into `target`, or why there was none. -/
def install (p : ImportPath) (target : String) (cs : List Coordinate) (o : InstallerOutcome) :
    Except Failure ImportPath :=
  match o.reason? with
  | none => .ok (p.add target)
  | some reason => .error (.unmetDependencies (cs.map (·.text)) reason)

end ImportPath

/--
Something to install, and where to. `run` is what comes of a command: the outcome of the installer, or a
failure of another kind, which is passed on.
-/
structure Installation where
  target : String
  dependencies : List Coordinate
  run : List String → Except Failure InstallerOutcome

/-- Actions on the import path. What was done to it before a failure stays done. -/
abbrev OnImportPath := ExceptT Failure (StateM ImportPath)

namespace Installation

def command (interpreter : String) (i : Installation) : List String :=
  installCommand interpreter i.target i.dependencies

/-- Runs the installer, and puts the target on the import path if all went well. -/
def perform (interpreter : String) (i : Installation) : OnImportPath String := do
  let outcome ← (i.run (i.command interpreter) : Except Failure InstallerOutcome)
  match outcome.reason? with
  | some reason => throw (.unmetDependencies (i.dependencies.map (·.text)) reason)
  | none =>
    modify (·.add i.target)
    return i.target

end Installation

end Overloads
