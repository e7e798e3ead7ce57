import Overloads.Failure
import Overloads.Value.Items

/-! The order of values, and sorting by keys. -/
namespace Overloads

open Overloads.Number

/-- The size of a number. -/
inductive Magnitude where
  | nan
  | infinite (negative : Bool)
  | exact (num : Int) (den : Nat)
  deriving DecidableEq, Repr

namespace Magnitude

def ofBinary64 : Binary64 → Magnitude
  | .nan => .nan
  | .infinite negative => .infinite negative
  | .finite negative mantissa exponent =>
    let (num, den) := Binary64.ratio mantissa exponent
    .exact (if negative then -(num : Int) else num) den

def less : Magnitude → Magnitude → Bool
  | .nan, _ | _, .nan => false
  | .infinite a, .infinite b => a && !b
  | .infinite a, .exact _ _ => a
  | .exact _ _, .infinite b => !b
  | .exact n d, .exact n' d' => n * d' < n' * d

def same : Magnitude → Magnitude → Bool
  | .infinite a, .infinite b => a == b
  | .exact n d, .exact n' d' => n * d' == n' * d
  | _, _ => false

end Magnitude

namespace Value

/-- The size of a number; truth values count as zero and one. -/
def magnitude? : Value → Option Magnitude
  | .bool b => some (.exact (if b then 1 else 0) 1)
  | .int n | .boxedInt _ n => some (.exact n 1)
  | .float x | .boxedFloat x => some (.ofBinary64 x)
  | .fraction num den => some (.exact num den)
  | _ => none

/-- A value with every instance in it replaced by its content. -/
def unwrapped : Value → Value
  | .list items => .list (unwrapAll items)
  | .tuple items => .tuple (unwrapAll items)
  | .dict items => .dict (unwrapPairs items)
  | .object c number content =>
    match content with
    | some v => v.unwrapped
    | none => .object c number none
  | v =>
    match v.bytes? with
    | some data => .bytes data
    | none => v
where
  unwrapAll : List Value → List Value
    | [] => []
    | v :: vs => v.unwrapped :: unwrapAll vs
  unwrapPairs : List (Value × Value) → List (Value × Value)
    | [] => []
    | (k, v) :: rest => (k.unwrapped, v.unwrapped) :: unwrapPairs rest

/-- Whether two values without instances in them are equal. -/
def sameBare : Value → Value → Bool
  | .list xs, .list ys => sameAll xs ys
  | .tuple xs, .tuple ys => sameAll xs ys
  | .dict xs, .dict ys => xs.length == ys.length && sameIn ys xs
  | v, w =>
    match v.magnitude?, w.magnitude?, v.asText?, w.asText? with
    | some a, some b, _, _ => a.same b
    | _, _, some s, some t => s == t
    | _, _, _, _ => v == w
where
  sameAll : List Value → List Value → Bool
    | [], [] => true
    | x :: xs, y :: ys => sameBare x y && sameAll xs ys
    | _, _ => false
  sameIn (others : List (Value × Value)) : List (Value × Value) → Bool
    | [] => true
    | (k, v) :: rest =>
      (others.any fun (k', v') => sameBare k k' && sameBare v v') && sameIn others rest

/-- Whether two values are equal. Numbers compare by size and mappings in any order. -/
def same (v w : Value) : Bool := sameBare v.unwrapped w.unwrapped

/-- Whether one value without instances in it comes before another. -/
def lessBare : Value → Value → Except Failure Bool
  | .list xs, .list ys => lessAll xs ys
  | .tuple xs, .tuple ys => lessAll xs ys
  | .bytes xs, .bytes ys => .ok (decide (xs.map (·.toNat) < ys.map (·.toNat)))
  | v, w =>
    match v.magnitude?, w.magnitude?, v.asText?, w.asText? with
    | some a, some b, _, _ => .ok (a.less b)
    | _, _, some s, some t => .ok (decide (s < t))
    | _, _, _, _ => .error .unorderable
where
  lessAll : List Value → List Value → Except Failure Bool
    | _, [] => .ok false
    | [], _ :: _ => .ok true
    | x :: xs, y :: ys => if sameBare x y then lessAll xs ys else lessBare x y

/--
Whether one value comes before another. Numbers compare by size, texts and bytes by code, sequences by
their first difference; nothing else is ordered.
-/
def less (v w : Value) : Except Failure Bool := lessBare v.unwrapped w.unwrapped

/-- What values can be ordered by in place of themselves. -/
inductive SortKey where
  | length | first | negative
  deriving DecidableEq, Repr

def SortKey.apply (k : SortKey) (v : Value) : Except Failure Value :=
  match k, v.content with
  | .length, w => w.length?.elim (.error .unorderable) fun n => .ok (.int n)
  | .first, .dict xs =>
    ((xs.find? (·.1.same (.int 0))).map (·.2)).elim (.error .missingKey) .ok
  | .first, w =>
    match w.items? with
    | none => .error .unorderable
    | some (item :: _) => .ok item
    | some [] => .error (.noItem (placeName w))
  | .negative, .bool b => .ok (.int (if b then -1 else 0))
  | .negative, .int n | .negative, .boxedInt _ n => .ok (.int (-n))
  | .negative, .float x | .negative, .boxedFloat x => .ok (.float x.negated)
  | .negative, .fraction num den => .ok (.fraction (-num) den)
  | .negative, _ => .error .unorderable
where
  placeName : Value → String
    | .str _ | .character _ => "string index"
    | .list _ => "list index"
    | .tuple _ => "tuple index"
    | _ => "index"

/-- A value with the key that it is sorted by. -/
abbrev Keyed := Value × Value

/--
The place of a key among sorted values from `low` to `high`, behind those that it does not come before.
It is found by halving.
-/
def placeOf (key : Value) (sorted : List Keyed) : Nat → Nat → Nat → Except Failure Nat
  | 0, low, _ => .ok low
  | fuel + 1, low, high =>
    if high ≤ low then .ok low
    else do
      let middle := low + (high - low) / 2
      let comesBefore ← less key ((sorted[middle]?.map (·.1)).getD .nothing)
      if comesBefore then placeOf key sorted fuel low middle
      else placeOf key sorted fuel (middle + 1) high

def insertKeyed (sorted : List Keyed) (item : Keyed) : Except Failure (List Keyed) := do
  let place ← placeOf item.1 sorted sorted.length 0 sorted.length
  return sorted.insertIdx place item

/-- Goes on with a run that falls or does not fall; `run` begins with its last value. -/
def extendRun (falls : Bool) (run : List Keyed) : List Keyed → Except Failure (List Keyed × List Keyed)
  | [] => .ok (run, [])
  | item :: rest => do
    let comesBefore ← less item.1 ((run.head?.map (·.1)).getD .nothing)
    if comesBefore = falls then extendRun falls (item :: run) rest
    else return (run, item :: rest)

/-- The values at the front that are sorted as they are or the other way round, and the others. -/
def leadingRun : List Keyed → Except Failure (List Keyed × List Keyed)
  | a :: b :: rest => do
    let falls ← less b.1 a.1
    let (run, rest) ← extendRun falls [b, a] rest
    return (if falls then run else run.reverse, rest)
  | short => .ok (short, [])

/-- Sorts by a key, or by the values themselves. Values with equal keys keep their order. -/
def sorted (key : Option SortKey) (values : List Value) : Except Failure (List Value) := do
  let keyed ← values.mapM fun v => do return (← key.elim (.ok v) (·.apply v), v)
  let (run, rest) ← leadingRun keyed
  return (← rest.foldlM insertKeyed run).map (·.2)

end Value

end Overloads
