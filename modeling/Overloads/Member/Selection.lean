import Overloads.Ambient.Scope

/-! Choosing and ordering the members that are taken. -/
namespace Overloads

/-- The filter and the order policy asked for, if any. -/
structure Selection where
  filter : Option MemberFilter
  order : Option String

/-- Members in order of name and descriptor. -/
def Member.precedes (a b : Member) : Bool :=
  decide (a.name < b.name) || (a.name == b.name && !decide (b.descriptor < a.descriptor))

/-- The members in the order that a policy asks for. -/
def OrderPolicy.arrange (p : OrderPolicy) (members : List Member) : List Member :=
  match p with
  | .sort => members.mergeSort Member.precedes
  | .trust => members

/--
The members that pass the filter, in order. What is not asked for is taken from the settings in force, and
declaration order is the default.
-/
def Selection.apply (s : Selection) (a : Ambient) (members : List Member) :
    Except Failure (List Member) :=
  let kept := members.filter (a.filterFor s.filter)
  (a.orderPolicy s.order .trust).map (·.arrange kept)

end Overloads
