import Overloads.Class.Names
import Overloads.CommandLine.Arguments
import Overloads.Dependency.Installation
import Overloads.Hook.Basic
import Overloads.Member.Filter
import Overloads.Settings.File
import Overloads.Settings.Logging
import Overloads.Settings.Wrapping

/-! What a run is going to do, worked out before anything is done. -/
namespace Overloads.CommandLine

open Overloads.Document Overloads.Settings

/-- What a run finds around it. -/
structure Surroundings where
  world : World
  ambient : Ambient
  /-- The settings file at a path, or without one that of the working directory. -/
  settingsFile : Option String → File
  importPath : ImportPath
  interpreter : String
  /-- The directory that dependencies are installed into. -/
  target : String
  installer : List String → InstallerOutcome

structure Plan where
  classes : List String
  membersOnly : Bool
  settings : Wrapping
  level : Level
  asObjects : Bool
  filter : Member → Bool
  hookPath : Option (Except (Option String) String)
  dependencies : List Coordinate

/-- Why nothing is done: for a reason the user is told, or for a failure that nobody handles. -/
inductive Refusal where
  | told (reason : String)
  | escaped (f : Failure)

/-- Tells the user of the failures that are his. -/
def telling {α : Type} (own : Failure → Bool) (r : Except Failure α) : Except Refusal α :=
  r.mapError fun f => if own f then .told (f.message.getD "") else .escaped f

def isInvalidSettings : Failure → Bool
  | .invalidSettings _ _ => true
  | _ => false

def isBadPattern : Failure → Bool
  | .badPattern _ _ => true
  | _ => false

def isBadCoordinate : Failure → Bool
  | .malformedCoordinate _ | .missingArtifact _ => true
  | _ => false

def optional {α : Type} (f : α → Datum) : Option α → Datum
  | some a => f a
  | none => .nothing

/-- The settings that the arguments give. -/
def given (a : Arguments) (width : Option Int) : Table := [
  ("prefix", optional .text a.namePrefix),
  ("order", optional .text a.order),
  ("width", optional .int width),
  ("include", optional (fun s => .list [.text s]) a.included),
  ("exclude", optional (fun s => .list [.text s]) a.excluded),
  ("coerce", optional .bool a.coerce),
  ("metadata", optional .bool a.documented),
  ("instrument", optional .bool a.proofMode)]

/-- The settings of both kinds, those of the arguments first. -/
def readSettings (f : File) (a : Arguments) (width : Option Int) :
    Except Failure (Wrapping × Logging) := do
  let wrapping ← Wrapping.ofTable (← inForce f "wrap" (given a width))
  let logging ← Logging.ofTable (← inForce f "logging" [("level", optional .text a.level)])
  return (wrapping, logging)

/-- The filter for lists of expressions. -/
def filterFor (included excluded : List String) : Except Failure MemberFilter := do
  let wanted ← Pattern.combined included
  let unwanted ← Pattern.combined excluded
  MemberFilter.ofPatterns wanted unwanted

/-- Whether a failure says that there is no such hook. -/
def isNoHook (f : Failure) : Bool :=
  f.isBadValue ||
    ["ModuleNotFoundError", "AttributeError", "TypeError", "OverloadResolutionError"].contains f.kind

/-- The path of the chosen hook, if one is chosen. -/
def hookPathFor (w : World) : HookChoice → Except Refusal (Option (Except (Option String) String))
  | .none => .ok none
  | .standard => .ok (some (.ok Hook.widenPath))
  | .path s =>
    match w.resolveCallable (.str s) with
    | .ok c => .ok (c.map (·.path))
    | .error f => .error <|
      if isNoHook f then
        .told ("Invalid coercion function " ++ Text.quoted s ++ ": " ++ f.message.getD "")
      else .escaped f

def Plan.make (s : Surroundings) (a : Arguments) (width : Option Int) : Except Refusal Plan := do
  if !a.strays.isEmpty then throw (.told "Options must start with a hyphen")
  if a.classes.isEmpty then throw (.told "Must supply at least one class to wrap")
  let file := s.settingsFile a.settingsFile
  let (settings, logging) ← telling isInvalidSettings (readSettings file a width)
  let filter ← telling isBadPattern (filterFor settings.included settings.excluded)
  let hookPath ← hookPathFor s.world settings.hook
  let dependencies ← telling isBadCoordinate (a.dependencies.mapM Coordinate.parse)
  return {
    classes := a.classes
    membersOnly := a.membersOnly
    settings := settings
    level := .ofText logging.level
    asObjects := logging.asObjects
    filter := filter.passes
    hookPath := hookPath
    dependencies := dependencies }

end Overloads.CommandLine
