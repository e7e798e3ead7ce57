import Overloads.Ambient.Scope
import Overloads.Pattern.Search

/-! Filters over the descriptors of members. -/
namespace Overloads.MemberFilter

/-- Lets a member pass if the first expression is found in its descriptor and the second is not. -/
def ofExpressions (include? exclude? : Option Pattern.Compiled) : MemberFilter := .plain fun m =>
  include?.all (·.found m.descriptor) && !exclude?.any (·.found m.descriptor)

/-- The filter for the texts of two expressions; without one it lets everything pass. -/
def ofPatterns (include? exclude? : Option String) : Except Failure MemberFilter := do
  let wanted ← Pattern.ofText? include?
  let unwanted ← Pattern.ofText? exclude?
  return ofExpressions wanted unwanted

/-- Lets the members with some names pass. -/
def ofNames (names : List String) : MemberFilter :=
  .plain fun m => names.contains m.name

end Overloads.MemberFilter
