import Overloads.Class.Special
import Overloads.Failure

/-! The classes and modules at hand. -/
namespace Overloads

/-- What a name in a module or class can stand for. -/
inductive Thing where
  | module (name : List String)
  | type (c : ClassName)
  /-- A function, with the dotted path under which it says it can be found. -/
  | function (path : String)
  /-- Something callable without a path of its own: its kind, and its text where that is fixed. -/
  | anonymous (kind : String) (shown : Option String)
  | value (v : Value)
  /-- Something of a kind that cannot be called. -/
  | inert (kind : String)
  deriving BEq, Repr

structure ModuleInfo where
  name : List String
  /-- Whether modules can lie below it. -/
  isPackage : Bool
  attributes : List (String × Thing)
  deriving Repr

/-- Described classes and modules, the newest first. -/
structure World where
  classes : List ClassInfo
  modules : List ModuleInfo
  deriving Repr

namespace World

def empty : World := ⟨[], []⟩

/-- The description of a class that is not native. -/
def described? (w : World) (c : ClassName) : Option ClassInfo := w.classes.find? (·.name = c)

/-- The description of a class. -/
def info? (w : World) (c : ClassName) : Option ClassInfo :=
  match w.described? c with
  | some i => some i
  | none => Native.info? c

/-- The class and its ancestors in the order in which attributes are looked up. -/
def linearization (w : World) (c : ClassName) : List ClassName :=
  match w.info? c with
  | some i => i.linearization
  | none => [c, .object]

def isSubclass (w : World) (c d : ClassName) : Bool := (w.linearization c).contains d

/-- What every described class has without declaring it. -/
def impliedNames : List String := ["__module__", "__dict__", "__weakref__", "__doc__"]

/-- The attribute that a class has of its own, be it declared or not. -/
def own? (w : World) (c : ClassName) (name : String) : Option Attribute :=
  match w.described? c with
  | some i =>
    match i.attribute? name with
    | some a => some a
    | none => if impliedNames.contains name then some .property else none
  | none =>
    match Native.info? c with
    | some i =>
      match i.attribute? name with
      | some a => some a
      | none => Native.special? c name
    | none => none

/-- The class along the linearization that has the attribute, and what it is. -/
def lookup (w : World) (c : ClassName) (name : String) : Option (ClassName × Attribute) :=
  (w.linearization c).findSome? fun k => (w.own? k name).map (k, ·)

/-- The described function that a class has under a name, if that is what it has. -/
def function? (w : World) (c : ClassName) (name : String) : Option Function :=
  match w.lookup c name with
  | some (_, .function _ f) => some f
  | _ => none

/-- A class that can be tested for, in place of one that cannot. -/
def checkable (w : World) (c : ClassName) : ClassName :=
  match w.info? c with
  | some i => if i.isCheckable then c else .object
  | none => c

end World

/-- The first head that no list holds further back. -/
def goodHead? (lists : List (List ClassName)) : Option ClassName :=
  (lists.filterMap (·.head?)).find? fun c => lists.all fun l => !l.tail.contains c

/--
Merges lists of classes into one that keeps the order of each; `fuel` bounds the number of classes.
-/
def mergeLists : Nat → List (List ClassName) → Option (List ClassName)
  | 0, lists => if lists.all (·.isEmpty) then some [] else none
  | fuel + 1, lists =>
    if lists.all (·.isEmpty) then some []
    else do
      let c ← goodHead? lists
      let rest ← mergeLists fuel (lists.map fun l => if l.head? = some c then l.tail else l)
      return c :: rest

/-- The linearization of a class with these direct bases, if their orders agree. -/
def World.linearize? (w : World) (name : ClassName) (bases : List ClassName) :
    Option (List ClassName) :=
  let lists := bases.map w.linearization ++ [bases]
  (mergeLists lists.flatten.length lists).map (name :: ·)

end Overloads
