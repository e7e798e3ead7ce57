import Overloads.Number.Loose

/-! Reading the arguments of a command line. -/
namespace Overloads.CommandLine

/-- What the arguments ask for. -/
structure Arguments where
  /-- Those that belong to no option. -/
  strays : List String
  help : Bool
  classes : List String
  membersOnly : Bool
  included : Option String
  excluded : Option String
  documented : Option Bool
  proofMode : Option Bool
  coerce : Option Bool
  width : Option String
  dependencies : List String
  namePrefix : Option String
  order : Option String
  settingsFile : Option String
  level : Option String
  deriving DecidableEq, Repr

namespace Arguments

def none : Arguments where
  strays := []
  help := false
  classes := []
  membersOnly := false
  included := .none
  excluded := .none
  documented := .none
  proofMode := .none
  coerce := .none
  width := .none
  dependencies := []
  namePrefix := .none
  order := .none
  settingsFile := .none
  level := .none

end Arguments

/-- What an option does to the arguments read before. -/
inductive Action where
  | flag (set : Arguments → Arguments)
  | value (set : String → Arguments → Arguments)

/-- The options by their names. Classes and dependencies add up; of the others the last one counts. -/
def options : List (List String × Action) := [
  (["-h", "--help"], .flag fun a => { a with help := true }),
  (["-c", "--class"], .value fun s a => { a with classes := a.classes ++ [s] }),
  (["-m", "--members"], .flag fun a => { a with membersOnly := true }),
  (["-i", "--include"], .value fun s a => { a with included := some s }),
  (["-x", "--exclude"], .value fun s a => { a with excluded := some s }),
  (["--metadata"], .flag fun a => { a with documented := some true }),
  (["--no-metadata"], .flag fun a => { a with documented := some false }),
  (["--instrument"], .flag fun a => { a with proofMode := some true }),
  (["--no-instrument"], .flag fun a => { a with proofMode := some false }),
  (["--coerce"], .flag fun a => { a with coerce := some true }),
  (["--no-coerce"], .flag fun a => { a with coerce := some false }),
  (["-w", "--width"], .value fun s a => { a with width := some s }),
  (["-d", "--dep"], .value fun s a => { a with dependencies := a.dependencies ++ [s] }),
  (["-p", "--prefix"], .value fun s a => { a with namePrefix := some s }),
  (["--order"], .value fun s a => { a with order := some s }),
  (["--config"], .value fun s a => { a with settingsFile := some s }),
  (["--log-level"], .value fun s a => { a with level := some s })]

/-- The names of the options, a line for each; a value is marked by an equals sign. -/
def helpText : String :=
  let line (names : List String) (a : Action) : String :=
    "  " ++ ", ".intercalate names ++ (match a with
      | .flag _ => ""
      | .value _ => "=") ++ "\n"
  "Options:\n" ++ String.join (options.map fun (names, a) => line names a)

def action? (name : String) : Option Action :=
  (options.find? fun (names, _) => names.contains name).map (·.2)

/-- One argument, read by itself. -/
inductive Token where
  | stray
  | complete (set : Arguments → Arguments)
  /-- The next argument is the value of its last option. -/
  | pending (set : String → Arguments → Arguments)
  | unknown

/-- Short options run together. What follows one with a value is that value. -/
def readShort (before : Arguments → Arguments) : List Char → Token
  | [] => .complete before
  | c :: rest =>
    match action? (String.ofList ['-', c]) with
    | none => .unknown
    | some (.flag set) => readShort (set ∘ before) rest
    | some (.value set) =>
      if rest.isEmpty then .pending fun s => set s ∘ before
      else .complete (set (String.ofList rest) ∘ before)

/-- A long option, with its value behind an equals sign or without. -/
def readLong (s : List Char) : Token :=
  match action? (String.ofList (s.takeWhile (· ≠ '='))), s.dropWhile (· ≠ '=') with
  | some (.flag set), [] => .complete set
  | some (.value set), [] => .pending set
  | some (.value set), _ :: value => .complete (set (String.ofList value))
  | some (.flag _), _ :: _ | none, _ => .unknown

def readOne (s : String) : Token :=
  match s.toList with
  | '-' :: '-' :: rest => readLong ('-' :: '-' :: rest)
  | '-' :: c :: rest => readShort id (c :: rest)
  | _ => .stray

/-- Reads the arguments in order; behind two hyphens all are strays. None if they are misused. -/
def readFrom (a : Arguments) : List String → Option Arguments
  | [] => some a
  | s :: rest =>
    if s = "--" then some { a with strays := a.strays ++ rest }
    else
      match readOne s with
      | .stray => readFrom { a with strays := a.strays ++ [s] } rest
      | .complete set => readFrom (set a) rest
      | .pending set =>
        match rest with
        | [] => none
        | value :: rest => readFrom (set value a) rest
      | .unknown => none

/-- The width that a text gives. -/
def width? (s : String) : Option Int :=
  match Number.readLooseInteger s.toList with
  | .value n => if 1 ≤ n then some n else none
  | _ => none

/-- What is to be done. -/
inductive Request where
  | help
  | misuse
  | wrap (a : Arguments) (width : Option Int)
  deriving DecidableEq, Repr

/-- The request that arguments make. Help comes before values that cannot be read. -/
def Request.ofArguments (args : List String) : Request :=
  match readFrom .none args with
  | none => .misuse
  | some a =>
    if a.help then .help
    else
      match a.width with
      | none => .wrap a none
      | some s =>
        match width? s with
        | some n => .wrap a (some n)
        | none => .misuse

end Overloads.CommandLine
