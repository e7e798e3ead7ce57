import Overloads.Proofs.Number.Rounding
import Overloads.Proofs.Routine.Guards

/-! On which values widening fails, and what that leaves of the guards that it serves. -/
namespace Overloads

open Overloads.Number

variable {w : World} {v : Value} {target : ClassName} {f : Failure} {c : Cast}

namespace World

end World

namespace Value

end Value

namespace Hook

end Hook

end Overloads
