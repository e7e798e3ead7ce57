import Overloads.Class.Names
import Overloads.Member.Selection
import Overloads.Routine.Grouping
import Overloads.Routine.Verification
import Overloads.Text.Identifier
import Overloads.Text.Kebab

/-! Assembling routines out of members. -/
namespace Overloads

open Overloads.Text

/-- What routines are made of and how they are called. -/
structure Options where
  namePrefix : String
  selection : Selection
  membersOnly : Bool

namespace Routine

/--
The clause sets for buckets in ascending order. `active` are the variadic members met so far, and `next`
is the least number of arguments without a set. While members are active no number is left out, and at the
end they answer every larger one.
-/
def layout (next : Nat) (active : List Member) : List Bucket → Except Failure (List ClauseSet)
  | [] => if active.isEmpty then .ok [] else return [← ClauseSet.tail? (next - 1 : Nat) active]
  | b :: rest => do
    let gaps := if active.isEmpty then [] else List.range' next (b.arity - next)
    let filled ← gaps.mapM fun (arity : Nat) => ClauseSet.fixed? arity [] active
    let active := active ++ b.variadic
    let own ← ClauseSet.fixed? b.arity b.fixed active
    return filled ++ own :: (← layout (b.arity + 1) active rest)

def withoutMembers : String := "routine without members"

def declaredSignature (m : Member) : DeclaredSignature := ⟨m.signature, m.returns.text⟩

/-- The name of the routine for a member's name. -/
def nameFor (namePrefix memberName : String) : String := namePrefix ++ kebab memberName

/-- The routine for members of one name. Proof mode checks it. -/
def assemble (proofMode : Bool) (memberName : String) (members : List Member)
    (name identifier : String) : Except Failure Routine :=
  match members with
  | [] => .error (.broken withoutMembers [("name", quoted memberName)])
  | first :: _ => do
    let routine : Routine := {
      name := name
      identifier := identifier
      memberName := memberName
      owner := first.owner.text
      signatures := members.map declaredSignature
      clauseSets := ← layout 0 [] (groupByArity members) }
    if proofMode then routine.verify members
    return routine

/-- The same, with the name and the identifier made up unless they are given. An empty one is not. -/
def assembleNamed (proofMode : Bool) (namePrefix memberName : String) (members : List Member)
    (name id : Option String) : Except Failure Routine :=
  let name := (name.filter (!·.isEmpty)).getD (nameFor namePrefix memberName)
  let id := (id.filter (!·.isEmpty)).getD (Text.identifier name defaultFallback)
  assemble proofMode memberName members name id

/-- The names of the members, each once, in order of first appearance. -/
def memberNames (members : List Member) : List String := (members.map (·.name)).eraseDups

/-- One routine for each name, with identifiers that are not `taken`. -/
def assembleNames (proofMode : Bool) (namePrefix : String) (members : List Member)
    (taken : List String) : List String → Except Failure (List Routine)
  | [] => .ok []
  | memberName :: rest => do
    let name := nameFor namePrefix memberName
    let id := uniqueIdentifier (Text.identifier name defaultFallback) taken
    let group := members.filter (·.name = memberName)
    let routine ← assemble proofMode memberName group name id
    return routine :: (← assembleNames proofMode namePrefix members (id :: taken) rest)

/-- One routine for each name of the members. -/
def assembleAll (proofMode : Bool) (namePrefix : String) (members : List Member) :
    Except Failure (List Routine) :=
  assembleNames proofMode namePrefix members [] (memberNames members)

end Routine

/-- Where the members of a class come from. -/
abbrev Reflector := ClassName → List Member

variable (w : World) (a : Ambient) (reflect : Reflector)

/-- The selected members of the class that a handle stands for. -/
def membersOf (handle : Value) (s : Selection) : Except Failure (List Member) := do
  s.apply a (reflect (← w.resolveClass handle))

/-- The routines of the class that a handle stands for. -/
def assembleClass (handle : Value) (o : Options) : Except Failure (List Routine) := do
  Routine.assembleAll a.proofMode o.namePrefix (← membersOf w a reflect handle o.selection)

/-- The members of a class to be listed later, under the settings of now. -/
structure MemberListing where
  owner : ClassName
  selection : Selection

/-- Takes note of the filter and the order in force. An empty order is none. -/
def MemberListing.capture (handle : Value) (s : Selection) : Except Failure MemberListing := do
  let order ← match s.order with
    | some name => if name.isEmpty then (a.orderPolicy none .trust).map (·.text) else pure name
    | none => (a.orderPolicy none .trust).map (·.text)
  return ⟨← w.resolveClass handle, ⟨some (a.filterFor s.filter), some order⟩⟩

/-- Lists the members. The settings in force matter no more. -/
def MemberListing.members (l : MemberListing) : Except Failure (List Member) :=
  l.selection.apply a (reflect l.owner)

def MemberListing.descriptors (l : MemberListing) : Except Failure (List String) :=
  (l.members a reflect).map (·.map (·.descriptor))

/-- What is made of a class. -/
inductive Generated where
  | routines (rs : List Routine)
  | listing (l : MemberListing)

def generate (handle : Value) (o : Options) : Except Failure Generated :=
  if o.membersOnly then (MemberListing.capture w a handle o.selection).map .listing
  else (assembleClass w a reflect handle o).map .routines

end Overloads
