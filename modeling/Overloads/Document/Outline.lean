import Overloads.Document.Datum

/-! Building up the tables of a document, and the rules on which of them may be opened again. -/
namespace Overloads.Document

/-- The place of a table: the names that lead to it. -/
abbrev Key := List String

/-- The table in which an item of a list continues, with the way to put it back. -/
def lastTable? (items : List Datum) : Option (Table × (Table → List Datum)) :=
  match items.getLast? with
  | some (.table sub) => some (sub, fun t => items.dropLast ++ [.table t])
  | _ => none

/-- Replaces the entry of a name that is there. -/
def replaceEntry (t : Table) (name : String) (d : Datum) : Table :=
  t.map fun e => if e.1 = name then (name, d) else e

/--
Changes the table at a place. Tables on the way are made where there are none; with `intoLists` the last
item of a list stands for it. What is neither has nothing behind it.
-/
def changeAt (intoLists : Bool) (change : Table → Option Table) : Key → Table → Option Table
  | [], t => change t
  | name :: rest, t =>
    match t.lookup name with
    | none => (changeAt intoLists change rest []).map fun sub => t ++ [(name, .table sub)]
    | some (.table sub) =>
      (changeAt intoLists change rest sub).map fun sub => replaceEntry t name (.table sub)
    | some (.list items) =>
      if intoLists then
        match lastTable? items with
        | some (sub, put) =>
          (changeAt intoLists change rest sub).map fun sub => replaceEntry t name (.list (put sub))
        | none => none
      else none
    | some _ => none

/-- Adds an entry whose name is not there yet. -/
def addEntry (name : String) (d : Datum) (t : Table) : Option Table :=
  if t.any (·.1 = name) then none else some (t ++ [(name, d)])

/-- Adds an empty table to a list of tables. -/
def addToList (name : String) (t : Table) : Option Table :=
  match t.lookup name with
  | none => some (t ++ [(name, .list [.table []])])
  | some (.list items) => some (replaceEntry t name (.list (items ++ [.table []])))
  | some _ => none

/--
A document as far as it was read. Tables declared by a header, or opened by a dotted name under an earlier
header, are not declared again; frozen data and what lies below do not change. Openings under the present
header wait for the next one.
-/
structure Outline where
  data : Table
  declared : List Key
  frozen : List Key
  waiting : List Key
  deriving BEq, Repr

namespace Outline

def empty : Outline := ⟨[], [], [], []⟩

def isDeclared (o : Outline) (k : Key) : Bool := o.declared.contains k

/-- Whether the place lies in frozen data. The document itself never does. -/
def isFrozen (o : Outline) (k : Key) : Bool := o.frozen.any (·.isPrefixOf k)

/-- Declares what was waiting. -/
def settle (o : Outline) : Outline :=
  { o with declared := o.declared ++ o.waiting, waiting := [] }

/-- A header for a table. -/
def declare (o : Outline) (k : Key) : Option Outline := do
  if o.isDeclared k || o.isFrozen k then none
  else
    let data ← changeAt true some k o.data
    return { o with data := data, declared := k :: o.declared }

/-- A header for one more table of a list. What was declared below the list is free again. -/
def declareItem (o : Outline) (k : Key) : Option Outline := do
  if o.isFrozen k then none
  else
    let data ← changeAt true (addToList (k.getLast?.getD "")) k.dropLast o.data
    let free (ks : List Key) : List Key := ks.filter (!k.isPrefixOf ·)
    return { o with data := data, declared := k :: free o.declared, frozen := free o.frozen }

/-- The places between a header and the last name of a dotted key. -/
def opened (header k : Key) : List Key :=
  (List.range' 1 (k.length - 1)).map fun n => header ++ k.take n

def isStructured : Datum → Bool
  | .list _ | .table _ => true
  | _ => false

/-- An entry under a header. Lists and tables given in a line are frozen. -/
def assign (o : Outline) (header k : Key) (d : Datum) : Option Outline := do
  let places := opened header k
  if places.any o.isDeclared then none
  else
    let parent := header ++ k.dropLast
    if o.isFrozen parent then none
    else
      let data ← changeAt true (addEntry (k.getLast?.getD "") d) parent o.data
      return { o with
        data := data
        waiting := o.waiting ++ places
        frozen := if isStructured d then (header ++ k) :: o.frozen else o.frozen }

end Outline

end Overloads.Document
