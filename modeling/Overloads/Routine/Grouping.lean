import Overloads.Failure
import Overloads.Member.Basic

/-! Members grouped by the number of parameters they need. -/
namespace Overloads

/-- The members that need `arity` arguments, in the order in which they were found. -/
structure Bucket where
  arity : Nat
  fixed : List Member
  variadic : List Member
  deriving BEq, Repr

/-- The numbers in ascending order, each once. -/
def ascending (ns : List Nat) : List Nat := (ns.mergeSort (· ≤ ·)).eraseDups

/-- One bucket for each number of parameters, ascending. -/
def groupByArity (members : List Member) : List Bucket :=
  (ascending (members.map (·.parameterCount))).map fun arity =>
    let own := members.filter (·.parameterCount = arity)
    ⟨arity, own.filter (!·.isVariadic), own.filter (·.isVariadic)⟩

/-- The bucket for a number of parameters. -/
def bucketFor (buckets : List Bucket) (arity : Int) : Except Failure Bucket :=
  match buckets.find? fun b => (b.arity : Int) = arity with
  | some b => .ok b
  | none => .error .missingKey

def variadicsOf (buckets : List Bucket) : List Member := buckets.flatMap (·.variadic)

end Overloads
