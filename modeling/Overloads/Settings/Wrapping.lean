import Overloads.Ambient.OrderPolicy
import Overloads.Settings.Reading

/-! The settings of the generator. -/
namespace Overloads.Settings

open Overloads.Document

/-- Which coercion hook the settings ask for. -/
inductive HookChoice where
  | none
  | standard
  | path (s : String)
  deriving DecidableEq, Repr

structure Wrapping where
  namePrefix : String
  order : Option OrderPolicy
  width : Int
  included : List String
  excluded : List String
  hook : HookChoice
  documented : Bool
  proofMode : Bool
  deriving DecidableEq, Repr

def HookChoice.ofTruth (b : Bool) : HookChoice := if b then .standard else .none

/-- A text is a path, even if it is a word for a truth value. What is neither is wrong twice. -/
def hookChoice : Check HookChoice := fun place d =>
  match d with
  | .text s => .ok (.path s)
  | d =>
    match truth d with
    | .ok b => .ok (.ofTruth b)
    | .error p =>
      .error [problemAt (place ++ [.field "bool"]) d p,
        problemAt (place ++ [.field "str"]) d .textType]

def policy : Datum → Except Problem (Option OrderPolicy)
  | .nothing => .ok none
  | d => do
    let name ← text d
    match OrderPolicy.ofText? name with
    | some p => return some p
    | none => throw (.unknownOrder name)

namespace Wrapping

def read (t : Table) : Collect Wrapping := do
  let namePrefix ← setting t "prefix" "" (single text)
  let order ← setting t "order" none (single policy)
  let width ← setting t "width" 100 (single positive)
  let included ← setting t "include" [] texts
  let excluded ← setting t "exclude" [] texts
  let hook ← setting t "coerce" .standard hookChoice
  let documented ← setting t "metadata" true (single truth)
  let proofMode ← setting t "instrument" true (single truth)
  return { namePrefix, order, width, included, excluded, hook, documented, proofMode }

/-- The settings in a table. Names that are no settings are passed over. -/
def ofTable (t : Table) : Except Failure Wrapping := collected "WrapSettings" (read t)

end Wrapping

end Overloads.Settings
