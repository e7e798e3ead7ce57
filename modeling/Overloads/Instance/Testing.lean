import Overloads.Class.Names

/-!
Whether a value is an instance of a class. The value can say what its class is and which attributes it has,
and an abstract class can say which classes belong to it; what they run for that can fail.
-/
namespace Overloads

namespace World

/-- The class that a value names as its own; none if what it names is no class. -/
def namedClass? (w : World) (v : Value) : Except Failure (Option ClassName) :=
  (w.attributeOf (Thing.ofValue v) "__class__").map Thing.class?

/-- Whether the class that a value names lies below another. A value may name none at all. -/
def namesBelow (w : World) (v : Value) (c : ClassName) : Except Failure Bool :=
  match w.namedClass? v with
  | .ok named => .ok (named.any (w.isSubclass · c))
  | .error f => if isMissing f then .ok false else .error f

/-- The name of the function by which a class decides which classes belong to it. -/
def subclassHookName : String := "__subclasshook__"

/--
The described function by which an abstract class decides which classes belong to it. Protocols and what
lies below them do not inherit it, and the others no further than from the next native class with its own.
-/
def subclassHook? (w : World) (c : ClassName) : Option Attribute :=
  let heldBy (k : ClassName) : Option (Option Attribute) :=
    match w.described? k with
    | some i => (i.attribute? subclassHookName).map some
    | none => if (joiningMethods k).isEmpty then none else some none
  let order := if w.isBelowProtocol c then [c] else w.linearization c
  (order.findSome? heldBy).join

/-- Calls an attribute of a class the way the class itself does. -/
def callOnClass (w : World) (c : ClassName) (args : List Value) : Attribute → Making Value
  | .function .receiver f | .function .static f => w.callFunction f args
  | .function .owner f => w.callFunction f (.type c :: args)
  | .value (.type k) | .nested k => w.construct k args
  | _ => throw .unfitArguments

/-- What an abstract class answers itself when it is asked for the class `c`, if it has an answer. -/
def verdict? (w : World) (abstractClass c : ClassName) : Except Failure (Option Bool) :=
  match w.subclassHook? abstractClass with
  | none => .ok (if w.joins c abstractClass || w.fits c abstractClass then some true else none)
  | some hook => do
    match ← (w.callOnClass abstractClass [.type c] hook).run' .empty with
    | .bool b => return some b
    | _ => throw .unfitVerdict

/-- The described classes next below a class, the oldest first. -/
def heirs (w : World) (c : ClassName) : List ClassName :=
  let below := (w.classes.map (·.name)).filter fun k => k ≠ c && w.isSubclass k c
  (below.filter fun k => !below.any fun j => j ≠ k && w.isSubclass k j).reverse

/--
Whether the class `c` belongs to an abstract class: as that answers, or by lying below it, or by belonging to
a class below it. `depth` bounds how far down the search goes.
-/
def belongsWithin : Nat → World → ClassName → ClassName → Except Failure Bool
  | 0, _, _, _ => .ok false
  | depth + 1, w, abstractClass, c => do
    match ← w.verdict? abstractClass c with
    | some b => return b
    | none =>
      if w.isSubclass c abstractClass then return true
      (w.heirs abstractClass).anyM fun k => belongsWithin depth w k c

/-- Whether the class `c` belongs to an abstract class. No class lies deeper than there are classes. -/
def belongs (w : World) (abstractClass c : ClassName) : Except Failure Bool :=
  belongsWithin (w.classes.length + 1) w abstractClass c

/-- Whether a value is an instance of an abstract class: by the class that it names, else by its own. -/
def isAbstractInstance (w : World) (v : Value) (c : ClassName) : Except Failure Bool := do
  let some named ← w.namedClass? v | throw .unfitArguments
  if ← w.belongs c named then return true
  if named = w.classOf v then return false
  w.belongs c (w.classOf v)

/-- Whether a value has every name that a protocol asks for; what can be called must not be None. -/
def satisfies (w : World) (v : Value) (protocol : ClassName) : Except Failure Bool :=
  (w.protocolNames protocol).allM fun name =>
    match w.attributeOf (Thing.ofValue v) name with
    | .ok (.value .nothing) => .ok (!w.protocolCalls protocol name)
    | .ok _ => .ok true
    | .error f => if isMissing f then .ok false else .error f

/-- Whether a value passes for an instance of a protocol by what it has, or by its class. -/
def conforms (w : World) (v : Value) (protocol : ClassName) : Except Failure Bool := do
  if ← w.satisfies v protocol then return true
  w.isAbstractInstance v protocol

/--
Whether a value is an instance of a protocol that can be tested for. Where that asks for nothing but what can
be called, the class that the value names may already belong to it.
-/
def isProtocolInstance (w : World) (v : Value) (c : ClassName) : Except Failure Bool := do
  if w.asksForCalls c then
    let some named ← w.namedClass? v | throw .unfitArguments
    if ← w.belongs c named then return true
  w.conforms v c

/--
Whether a value is an instance of a class. Typed dictionaries refuse to be asked, and so do protocols unless
they allow it.
-/
def isInstanceOf (w : World) (v : Value) (c : ClassName) : Except Failure Bool :=
  if w.classOf v = c then .ok true
  else if w.isTypedDict c then .error .notTestable
  else if w.isProtocol c then
    if (w.info? c).any (·.runtimeCheckable) then w.isProtocolInstance v c else .error .notTestable
  else if w.isBelowProtocol c || w.isBelowAbstract c then w.isAbstractInstance v c
  else if w.isSubclass (w.classOf v) c then .ok true
  else w.namesBelow v c

/-- Whether a value passes for a truth value. Of native values only truth values do. -/
def isTruth (w : World) : Value → Except Failure Bool
  | .bool _ => .ok true
  | .object c number content => w.isInstanceOf (.object c number content) (.builtin "bool")
  | _ => .ok false

/--
Whether a value is converted as a number: its class is one of real numbers, and it does not pass for a truth
value. Of native values those are the ones that hold a real number.
-/
def isNumber (w : World) : Value → Except Failure Bool
  | .object c number content => do
    let v : Value := .object c number content
    let some named ← w.namedClass? v | throw .unfitArguments
    if ← w.belongs (Native.numeric "Real") named then return !(← w.isTruth v)
    return false
  | v => .ok v.holdsReal

/-- Whether a parameter of this type takes the value. Truth values are no numbers. -/
def isInstance (w : World) (v : Value) (t : TypeRef) : Except Failure Bool := do
  let target := t.boxed
  if (← w.isTruth v) && target ≠ .builtin "bool" && w.isNumeric target then return false
  w.isInstanceOf v target

end World

end Overloads
