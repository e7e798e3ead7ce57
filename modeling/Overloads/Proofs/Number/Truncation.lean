import Mathlib.Algebra.Order.Field.Power
import Mathlib.Data.Rat.Floor
import Mathlib.Tactic.FieldSimp
import Mathlib.Tactic.Ring
import Overloads.Number.Conversion
import Overloads.Proofs.Number.Rounding

/-! The integer part of a number, as that of the rational number that it denotes. -/
namespace Overloads

open Overloads.Number

variable {v : Value}

namespace Number.Binary64

/-- The number that a finite double denotes. -/
def rational? : Binary64 → Option ℚ
  | .finite negative m e => some ((if negative then -1 else 1) * m * 2 ^ e)
  | _ => none

end Number.Binary64

namespace Value

/-- The number that a value holds, if it is a number and finite. Truth values hold none. -/
def number? (v : Value) : Option ℚ :=
  match v.content with
  | .int n | .boxedInt _ n => some n
  | .float x | .boxedFloat x => x.rational?
  | .fraction num den => some (num / den)
  | _ => none

end Value

end Overloads
