import Overloads.Ambient.Scope
import Overloads.Value.Order

/-! Putting values in the order in force. -/
namespace Overloads.Ambient

/-- The values as given or sorted, as the policy says. -/
def ordered (a : Ambient) (asked : Option String) (default : OrderPolicy) (key : Option Value.SortKey)
    (values : List Value) : Except Failure (List Value) := do
  match ← a.orderPolicy asked default with
  | .sort => Value.sorted key values
  | .trust => return values

end Overloads.Ambient
