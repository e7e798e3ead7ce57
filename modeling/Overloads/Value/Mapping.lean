import Overloads.Value.Order

/-! Mappings as lists of pairs whose keys differ. -/
namespace Overloads.Value

/-- Whether a value can be a key: nothing in it can be changed. -/
def isKey : Value → Bool
  | .list _ | .dict _ | .traced _ _ => false
  | .tuple items => allKeys items
  | .native c _ _ => c ≠ .builtin "set" && c ≠ .builtin "bytearray"
  | .object _ _ content =>
    match content with
    | some v => v.isKey
    | none => true
  | _ => true
where
  allKeys : List Value → Bool
    | [] => true
    | v :: vs => v.isKey && allKeys vs

/-- A key, or the failure that a value cannot be one. -/
def key (v : Value) : Except Failure Value :=
  if v.isKey then .ok v else .error .unfitArguments

def find? (pairs : List (Value × Value)) (k : Value) : Option Value :=
  (pairs.find? (·.1.same k)).map (·.2)

/-- Puts a value under a key: in the place of an equal key, or else at the end. -/
def put (pairs : List (Value × Value)) (k v : Value) : List (Value × Value) :=
  if pairs.any (·.1.same k) then pairs.map fun (k', v') => if k'.same k then (k', v) else (k', v')
  else pairs ++ [(k, v)]

/-- The mapping that some pairs in a row make up. -/
def ofPairs (pairs : List (Value × Value)) : Except Failure Value := do
  let all ← pairs.foldlM (fun m (k, v) => do return put m (← k.key) v) []
  return .dict all

/-- The values of a list, each once, in the order in which they come first. -/
def distinct (values : List Value) : Except Failure (List Value) :=
  values.foldlM (fun seen v => do
    let k ← v.key
    return if seen.any (·.same k) then seen else seen ++ [k]) []

end Overloads.Value
