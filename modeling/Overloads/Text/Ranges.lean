/-! Sets of characters given by the code points at which membership changes. -/
namespace Overloads.Text

/-- Whether `n` lies in the set whose membership flips at each listed point, starting from `here`. -/
def insideFrom (here : Bool) : List Nat → Nat → Bool
  | [], _ => here
  | p :: ps, n => if n < p then here else insideFrom (!here) ps n

/-- Whether `n` lies in the set that starts empty and flips at each listed point. -/
def inside (points : List Nat) (n : Nat) : Bool := insideFrom false points n

end Overloads.Text
