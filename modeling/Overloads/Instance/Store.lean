import Overloads.Class.Description
import Overloads.Failure

/-! The instances of described classes, and what else calls leave behind. -/
namespace Overloads

/-- What an instance keeps: the arguments it was made with, and the items once some were added. -/
structure Instance where
  arguments : List Value
  items : Option (List Value)
  deriving BEq, Repr, Inhabited

/--
The instances in the order in which they were made, the values that are kept under names, and the
initializers that classes have got since they were described.
-/
structure Store where
  instances : List Instance
  saved : List (String × Value)
  initializers : List (ClassName × Attribute)
  deriving BEq, Repr, Inhabited

/-- Computations that can fail and that change the store. -/
abbrev Making := StateT Store (Except Failure)

namespace Store

def empty : Store := ⟨[], [], []⟩

/-- Makes an instance, and gives its number. -/
def allocate (s : Store) (arguments : List Value) : Nat × Store :=
  (s.instances.length, { s with instances := s.instances ++ [⟨arguments, none⟩] })

def get? (s : Store) (number : Nat) : Option Instance := s.instances[number]?

def update (s : Store) (number : Nat) (f : Instance → Instance) : Store :=
  { s with instances := s.instances.modify number f }

/-- The items of an instance; none were added to most. -/
def items (s : Store) (number : Nat) : List Value := ((s.get? number).bind (·.items)).getD []

def setArguments (s : Store) (number : Nat) (arguments : List Value) : Store :=
  s.update number fun i => { i with arguments := arguments }

def setItems (s : Store) (number : Nat) (items : List Value) : Store :=
  s.update number fun i => { i with items := some items }

/-- Keeps a value under a name. -/
def save (s : Store) (name : String) (v : Value) : Store := { s with saved := (name, v) :: s.saved }

@[simp] theorem get?_allocate (s : Store) (arguments : List Value) :
    (s.allocate arguments).2.get? (s.allocate arguments).1 = some ⟨arguments, none⟩ := by
  simp [allocate, get?]

end Store

end Overloads
