import Overloads.Installed.Modules
import Overloads.CommandLine.Run

/-! The command line: it wraps the classes that are there without any description. -/
namespace Overloads.CommandLine

/-- What is in the file at a path, if it can be read. -/
def readSettingsFile (path : String) : IO Settings.File :=
  try
    return .bytes (← IO.FS.readBinFile path).toList
  catch _ => return .absent

def defaultSettingsFile : String := "tortilla.toml"

def policyVariable : String := "TORTILLA_ORDER_POLICY"

/-- The path of the settings file that arguments ask for. -/
def settingsPath (args : List String) : String :=
  match Request.ofArguments args with
  | .wrap a _ => a.settingsFile.getD defaultSettingsFile
  | _ => defaultSettingsFile

/-- Shows an effect. Installers are not run. -/
def Effect.perform : Effect → IO Unit
  | .print s => IO.print s
  | .complain s => IO.eprint s
  | .log asObject e => IO.eprintln (if asObject then e.object else e.line)
  | .showHelp => IO.print helpText
  | .showMisuse => IO.eprint helpText
  | .execute _ => return ()

end Overloads.CommandLine

open Overloads Overloads.CommandLine in
def main (args : List String) : IO UInt32 := do
  let file ← readSettingsFile (settingsPath args)
  let policy ← IO.getEnv policyVariable
  let s : Surroundings := {
    world := .initial
    ambient := { Ambient.initial with environment := policy }
    settingsFile := fun _ => file
    importPath := []
    interpreter := "python"
    target := "dependencies"
    installer := fun _ => .notRun "no installer can be run" }
  let (outcome, _) := run s args
  outcome.effects.forM Effect.perform
  if let .escaped f := outcome.ending then
    IO.eprintln (f.kind ++ ": " ++ f.message.getD "")
  return if outcome.failed then 1 else 0
