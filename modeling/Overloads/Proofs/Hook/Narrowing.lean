import Overloads.Proofs.Hook.Widening
import Overloads.Proofs.Number.Truncation
import Overloads.Proofs.Routine.SingleSignature

/-! What a parameter for an integral box takes of the values that are widened or narrowed for it. -/
namespace Overloads

variable {w : World} {v u : Value} {box : IntegralBox} {t : TypeRef} {f : Failure}

namespace World

/-- That an instance of a class below one of exact numbers holds a number. -/
def HoldsNumber (w : World) (v : Value) : Prop :=
  ∀ c ∈ Value.fractionClass :: [IntegralBox.integer, .short, .byte].map (·.name),
    w.isSubclass (w.classOf v) c = true → v.number?.isSome = true

/--
That a value is what its class says: it counts as a number exactly if it holds one, names its own class, and
holds a number if that is one of exact numbers.
-/
structure Holds (w : World) (v : Value) : Prop where
  counts : w.isNumber v = .ok v.holdsReal
  names : w.namedClass? v = .ok (some (w.classOf v))
  number : w.HoldsNumber v

end World

namespace Hook

end Hook

end Overloads
