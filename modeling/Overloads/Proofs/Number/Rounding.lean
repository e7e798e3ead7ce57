import Mathlib.Algebra.Order.Field.Power
import Mathlib.Data.Rat.Cast.Order
import Mathlib.Tactic.FieldSimp
import Mathlib.Tactic.Linarith
import Mathlib.Tactic.NormNum
import Mathlib.Tactic.Positivity
import Mathlib.Tactic.Ring
import Overloads.Number.Binary64

/-! Which fractions are too large for a double. -/
namespace Overloads.Number.Binary64

variable {num den n d k : Nat} {e : Int} {negative : Bool}

end Overloads.Number.Binary64
