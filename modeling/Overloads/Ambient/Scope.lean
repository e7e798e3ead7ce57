import Overloads.Ambient.OrderPolicy
import Overloads.Member.Basic

/-! Settings in force around a computation: order policy, member filter and proof mode. -/
namespace Overloads

/-- A predicate of members. It counts as true by itself unless its class says otherwise. -/
structure MemberFilter where
  passes : Member → Bool
  truthy : Bool

namespace MemberFilter

instance : CoeFun MemberFilter fun _ => Member → Bool := ⟨passes⟩

/-- A predicate that is a function, which counts as true. -/
def plain (passes : Member → Bool) : MemberFilter := ⟨passes, true⟩

@[simp] theorem plain_passes (passes : Member → Bool) (m : Member) :
    (plain passes).passes m = passes m := rfl

/-- Lets every member pass. -/
def always : MemberFilter := plain fun _ => true

end MemberFilter

/--
The values that scopes have set, the innermost first, and the text of the environment variable for the
order policy.
-/
structure Ambient where
  orders : List OrderPolicy
  filters : List (Option MemberFilter)
  proofs : List Bool
  environment : Option String

/-- What a scope sets. -/
inductive Setting where
  | order (name : Value)
  | filter (f : Option MemberFilter)
  | proof (enabled : Bool)

inductive SettingKind where
  | order | filter | proof
  deriving DecidableEq, Repr

namespace Ambient

/-- Nothing is set. -/
def initial : Ambient := ⟨[], [], [], none⟩

/-- Enters a scope. A policy that does not exist fails and sets nothing. -/
def enter (a : Ambient) : Setting → Except Failure Ambient
  | .order name => (OrderPolicy.normalize name).map fun p => { a with orders := p :: a.orders }
  | .filter f => .ok { a with filters := f :: a.filters }
  | .proof enabled => .ok { a with proofs := enabled :: a.proofs }

/-- What is left below the innermost value. -/
def below {α : Type} : List α → Except Failure (List α)
  | [] => .error (.nothingToTake "list")
  | _ :: rest => .ok rest

/-- Leaves the innermost scope of a kind. -/
def leave (a : Ambient) : SettingKind → Except Failure Ambient
  | .order => (below a.orders).map fun orders => { a with orders := orders }
  | .filter => (below a.filters).map fun filters => { a with filters := filters }
  | .proof => (below a.proofs).map fun proofs => { a with proofs := proofs }

def order? (a : Ambient) : Option OrderPolicy := a.orders.head?

def filter? (a : Ambient) : Option MemberFilter := a.filters.head?.join

/-- The filter in force. Without one, or with one that does not count as true, every member passes. -/
def memberFilter (a : Ambient) : MemberFilter := (a.filter?.filter (·.truthy)).getD .always

/-- The filter to follow: the one asked for, if it counts as true, else the one in force. -/
def filterFor (a : Ambient) (asked : Option MemberFilter) : MemberFilter :=
  (asked.filter (·.truthy)).getD a.memberFilter

def proofMode (a : Ambient) : Bool := a.proofs.head?.getD false

/--
The policy to follow: the one asked for, else that of the innermost scope, else that of the environment
variable, else the default.
-/
def orderPolicy (a : Ambient) (asked : Option String) (default : OrderPolicy) :
    Except Failure OrderPolicy :=
  match asked, a.order? with
  | some s, _ => OrderPolicy.ofText s
  | none, some p => .ok p
  | none, none =>
    let raw := Text.trim (a.environment.getD "")
    if raw.isEmpty then .ok default else OrderPolicy.ofText raw

end Ambient

end Overloads
