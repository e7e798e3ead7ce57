import Overloads.Class.Definition
import Overloads.Routine.Assembly

/-! Routines under their identifiers, by themselves or among other names. -/
namespace Overloads

variable {α : Type}

/-- Sets names one after the other. -/
def setEntries (entries new : List (String × α)) : List (String × α) :=
  new.foldl (fun entries e => setEntry entries e.1 e.2) entries

/-- Routines in the form that `make` gives them, by identifier. -/
def namespaceOf (make : Routine → α) (rs : List Routine) : List (String × α) :=
  setEntries [] (rs.map fun r => (r.identifier, make r))

/-- Where routines are installed: a module or a mapping, with what it holds by name. -/
structure Place (α : Type) where
  isModule : Bool
  entries : List (String × α)

namespace Place

/-- Why a name cannot be set: a module keeps its dictionary, and its class is nothing but a class. -/
def refusal? (p : Place α) (name : String) : Option Failure :=
  if p.isModule && name = "__dict__" then some (.attributeMissing "readonly attribute")
  else if p.isModule && name = "__class__" then some .unfitArguments
  else none

/-- Sets names one after the other, up to the first that cannot be set. -/
def setAll : Place α → List (String × α) → Place α × Except Failure Unit
  | p, [] => (p, .ok ())
  | p, (name, a) :: rest =>
    match p.refusal? name with
    | some e => (p, .error e)
    | none => setAll { p with entries := setEntry p.entries name a } rest

end Place

variable (w : World) (a : Ambient) (reflect : Reflector)

/-- The routines of a class by identifier. -/
def wrapClass (make : Routine → α) (handle : Value) (o : Options) :
    Except Failure (List (String × α)) :=
  (assembleClass w a reflect handle o).map (namespaceOf make)

/-- Installs the routines of a class in a place, and gives their identifiers. -/
def installClass (make : Routine → α) (p : Place α) (handle : Value) (o : Options) :
    Place α × Except Failure (List String) :=
  match wrapClass w a reflect make handle o with
  | .error e => (p, .error e)
  | .ok new =>
    match p.setAll new with
    | (installed, outcome) => (installed, outcome.map fun _ => new.map (·.1))

end Overloads
