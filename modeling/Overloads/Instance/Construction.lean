import Overloads.Class.Binding
import Overloads.Class.Layout
import Overloads.Instance.Store
import Overloads.Native.Call

/-! What functions do when they are called, and how values and instances are made. -/
namespace Overloads

/-- Makes an instance of a class out of arguments. -/
abbrev Maker := ClassName → List Value → Making Value

namespace World

/-- An instance that no initializer ran for. Most native classes make their instances themselves. -/
def bareInstance (w : World) (c : ClassName) (arguments : List Value) : Making Value := do
  if (w.contentClass? c).any (!Native.makesPlainly ·) || w.isAbstract c then throw .unfitArguments
  let (number, s) := (← get).allocate arguments
  set s
  return .object c number none

end World

namespace Recipe

/-- Makes the value; `make` calls classes. -/
def build (w : World) (make : Maker) : Recipe → Making Value
  | .value v => return v
  | .list items => return .list (← buildAll items)
  | .tuple items => return .tuple (← buildAll items)
  | .dict items => do Value.ofPairs (← buildPairs items)
  | .character of => do (← of.build w make).makeCharacter
  | .hex digits => do return .bytes (← Native.fromHex (.str digits))
  | .ratio num den =>
    if den = 0 then
      throw (.zeroDenominator (some ("Fraction(" ++ Number.decimalText num ++ ", 0)")))
    else return .ratio num den
  | .saved name => do
    match (← get).saved.lookup name with
    | some v => return v
    | none => throw .missingKey
  | .make c args => do make c (← buildAll args)
  | .bare c => do
    if (w.described? c).isNone && c ≠ .object then throw .unfitArguments
    w.bareInstance c []
where
  buildAll : List Recipe → Making (List Value)
    | [] => return []
    | r :: rs => do return (← r.build w make) :: (← buildAll rs)
  buildPairs : List (Recipe × Recipe) → Making (List (Value × Value))
    | [] => return []
    | (a, b) :: rest => do
      let k ← a.build w make
      let v ← b.build w make
      return (← k.key, v) :: (← buildPairs rest)

end Recipe

/-- The instance that a body gets first, by its number, and the other arguments. -/
def Body.keeper (args : List Value) : Except Failure (Nat × List Value) :=
  match args with
  | [] => .error (.noItem "tuple index")
  | .object _ number _ :: rest => .ok (number, rest)
  | _ => .error (.attributeMissing "the receiver keeps no items")

/-- Runs a body on arguments that fit its function. -/
def Body.run (w : World) (make : Maker) (label : String) (args : List Value) : Body → Making Value
  | .trace => return .traced label args
  | .receiver =>
    match args with
    | [] => throw (.noItem "tuple index")
    | v :: _ => return v
  | .append => do
    let (number, more) ← Body.keeper args
    let items := (← get).items number ++ more
    modify (·.setItems number items)
    return .int items.length
  | .items => do
    let (number, _) ← Body.keeper args
    return .list ((← get).items number)
  | .give r => r.build w make
  | .raise kind message => throw (.raised kind message)
  | .refuse => throw .unfitArguments

/-- Calls a function. -/
def Function.call (w : World) (make : Maker) (f : Function) (args : List Value) : Making Value := do
  let some values := f.implementation.bind args | throw .unfitArguments
  match f.role, values with
  | .plain, _ => f.body.run w make f.label values
  | .initializer, .object _ number _ :: rest => do
    modify (·.setArguments number rest)
    match f.body with
    | .trace => return .nothing
    | body => body.run w make f.label values
  | .initializer, _ => throw (.attributeMissing "the receiver keeps no arguments")
  | .allocator, .type c :: rest => w.bareInstance c rest
  | .allocator, _ => throw .unfitArguments

namespace World

/-- Whether an attribute is the initializer that makes no instances. -/
def isRefusal : Attribute → Bool
  | .function _ f => f.body == .refuse
  | _ => false

/-- The nearest initializer that does not refuse. -/
def activeInitializer? (w : World) (c : ClassName) : Option Attribute :=
  (w.linearization c).findSome? fun k =>
    (w.own? k initializerName).filter (!isRefusal ·)

/-- Whether a class has an allocator of its own making. -/
def hasAllocator (w : World) (c : ClassName) : Bool :=
  match w.lookup c allocatorName with
  | some (k, _) => (w.described? k).isSome
  | none => false

/-- Calls an attribute of a class the way its instance does. -/
def callAttribute (w : World) (make : Maker) (c : ClassName) (self : Value) (args : List Value) :
    Attribute → Making Value
  | .function .receiver f => f.call w make (self :: args)
  | .function .static f => f.call w make args
  | .function .owner f => f.call w make (.type c :: args)
  | .value (.type k) | .nested k => make k args
  | _ => throw .unfitArguments

/-- Runs an initializer, which answers nothing. Native ones have taken their arguments already. -/
def prepareBy (w : World) (make : Maker) (c : ClassName) (self : Value) (args : List Value)
    (a : Attribute) : Making Unit := do
  match a with
  | .special =>
    if !args.isEmpty && (w.contentClass? c).isNone && !w.hasAllocator c then
      throw .unfitArguments
  | a =>
    if (← w.callAttribute make c self args a) != .nothing then throw .unfitArguments

/--
Initializes an instance. A class below a protocol passes over the refusal that it inherits, and keeps the
initializer that it finds instead.
-/
def prepare (w : World) (make : Maker) (c : ClassName) (self : Value) (args : List Value) :
    Making Unit := do
  let some (_, a) := w.lookup c initializerName | throw .unfitArguments
  if !isRefusal a then w.prepareBy make c self args a
  else if w.isProtocol c then throw .unfitArguments
  else
    let some active := w.activeInitializer? c | throw .unfitArguments
    modify fun s => { s with initializers := (c, active) :: s.initializers }
    w.prepareBy make c self args active

/-- The special functions that a conversion asks an instance for, the first one first. -/
def castNames : Cast → List String
  | .int => ["__int__", "__index__", "__trunc__"]
  | .float => ["__float__", "__index__"]

/-- What a conversion makes of the answer of a special function. -/
def castAnswer (c : Cast) (name : String) (v : Value) : Except Failure Value :=
  match c, Native.integer? v, Native.double? v with
  | .int, some n, _ => .ok (.int n)
  | .float, some n, _ =>
    if name = "__index__" then (Value.doubleOfInt n).map .float else .error .unfitArguments
  | .float, none, some x =>
    if name = "__float__" then .ok (.float x) else .error .unfitArguments
  | _, _, _ => .error .unfitArguments

/-- The special function that a conversion asks an instance for: the first that its class has. -/
def conversion? (w : World) (c : Cast) (k : ClassName) : Option (String × Attribute) :=
  (castNames c).findSome? fun n => (w.lookup k n).map fun (_, a) => (n, a)

/-- The special function that a conversion asks an instance for, if a described class has it. -/
def ownConversion? (w : World) (c : Cast) (k : ClassName) : Option (String × Attribute) :=
  match w.conversion? c k with
  | some (_, .native _ _) | some (_, .special) | some (_, .unsigned _) | none => none
  | some own => some own

/-- The class that a class has a name from. -/
def holder? (w : World) (c : ClassName) (name : String) : Option ClassName :=
  (w.lookup c name).map (·.1)

/--
The numerator or the denominator of an instance, as its class names it: a described class by a value, the
class of fractions by what the instance holds.
-/
def ratioPart (w : World) (k : ClassName) (content : Option Value) (name : String) :
    Except Failure Int :=
  match w.lookup k name, content with
  | some (_, .value v), _ => v.toInteger
  | some (holder, _), some (.fraction num den) =>
    if holder = Value.fractionClass then .ok (if name = "numerator" then num else den)
    else .error .notConvertible
  | some (holder, _), _ =>
    if holder = Value.fractionClass then .error (.attributeMissing ("_" ++ name))
    else .error .notConvertible
  | none, _ => .error (.attributeMissing name)

/-- The double nearest to the quotient of the numerator and the denominator of an instance. -/
def ratioDouble (w : World) (k : ClassName) (content : Option Value) : Except Failure Value := do
  let num ← w.ratioPart k content "numerator"
  let den ← w.ratioPart k content "denominator"
  if den = 0 then throw (.zeroDenominator (some "division by zero"))
  else (Value.doubleOfRatio (if den < 0 then -num else num) den.natAbs).map .float

/-- Converts an instance by what it holds. An instance below fractions that holds none is not filled yet. -/
def castContent (w : World) (c : Cast) (k : ClassName) (content : Option Value) (v : Value) :
    Except Failure Value :=
  if content.isNone && w.isSubclass k Value.fractionClass then
    .error (.attributeMissing "_numerator")
  else c.apply v

/-- Asks an instance for what it is worth, by a special function of its class. -/
def askedFor (w : World) (make : Maker) (c : Cast) (k : ClassName) (v : Value)
    (asked : String × Attribute) : Making Value := do
  castAnswer c asked.1 (← w.callAttribute make k v [] asked.2)

/--
Converts an instance that no described class answers for. The native classes of rational numbers and of
integers make a double of what their subclasses have.
-/
def castInherited (w : World) (make : Maker) (c : Cast) (k : ClassName) (content : Option Value)
    (v : Value) : Making Value :=
  if c = .float && w.holder? k "__float__" = some (Native.numeric "Rational") then
    w.ratioDouble k content
  else if c = .float && w.holder? k "__float__" = some (Native.numeric "Integral") then
    match w.ownConversion? .int k with
    | some asked => do return .float (← (← w.askedFor make .int k v asked).toDouble)
    | none => throw .notConvertible
  else w.castContent c k content v

/-- Converts a value. Instances are asked for what they are worth before their content is. -/
def castWith (w : World) (make : Maker) (c : Cast) (v : Value) : Making Value :=
  match v with
  | .object k _ content =>
    match w.ownConversion? c k with
    | some asked => w.askedFor make c k v asked
    | none => w.castInherited make c k content v
  | _ => c.apply v

/-- The conversion that making a native class begins with. -/
def castFor? (w : World) (c : ClassName) : Option Cast :=
  if w.isSubclass c (.builtin "int") && c ≠ .builtin "bool" then some .int
  else if w.isSubclass c (.builtin "float") then some .float
  else none

/-- Makes a value of a native class. -/
def makeNative (w : World) (make : Maker) (c : ClassName) (args : List Value) : Making Value := do
  match w.castFor? c, args with
  | some cast, [v] =>
    match v with
    | .object _ _ _ => Native.make c [← w.castWith make cast v]
    | _ => Native.make c args
  | none, [v] => if c = .builtin "type" then return .type (w.classOf v) else Native.make c args
  | _, _ => Native.make c args

/-- Makes an instance that is not initialized yet. -/
def allocate (w : World) (make : Maker) (c : ClassName) (args : List Value) : Making Value := do
  match w.lookup c allocatorName, w.contentClass? c with
  | some (k, .function _ f), content =>
    if (w.described? k).isSome then f.call w make (.type c :: args)
    else filled content
  | _, content => filled content
where
  filled (content : Option ClassName) : Making Value := do
    match content with
    | none => w.bareInstance c []
    | some k =>
      if Native.makesPlainly k && w.isAbstract c then throw .unfitArguments
      let fillsItself := match w.lookup c initializerName with
        | some (_, .special) => false
        | _ => true
      let v ← w.makeNative make k (if fillsItself && Native.isFilledLater k then [] else args)
      if w.isTypedDict c then return v
      let (number, s) := (← get).allocate []
      set s
      return .object c number (some v)

/-- Calls a class; `fuel` bounds how deep such calls lie in one another. -/
def constructWith : Nat → World → Maker
  | 0, _, _, _ => throw .tooDeep
  | fuel + 1, w, c, args => do
    let make := constructWith fuel w
    if (w.described? c).isNone then w.makeNative make c args
    else
      let self ← w.allocate make c args
      if w.isSubclass (w.classOf self) c then w.prepare make c self args
      return self

/-- How deep calls of classes may lie in one another. -/
def depthLimit : Nat := 100

/-- Calls a class. -/
def construct (w : World) : Maker := constructWith depthLimit w

/-- Makes the value that a recipe describes. -/
def make (w : World) (r : Recipe) : Making Value := r.build w w.construct

/-- Calls a function. -/
def callFunction (w : World) (f : Function) (args : List Value) : Making Value :=
  f.call w w.construct args

/-- The text of a value given as a literal. An instance is asked for its own. -/
def literal (w : World) (v : Value) : Making (Option String) := do
  match v with
  | .object c _ _ =>
    match w.lookup c "__repr__" with
    | some (_, .native _ _) | some (_, .special) | some (_, .unsigned _) | none => return v.literal
    | some (_, a) =>
      let some s := (← w.callAttribute w.construct c v [] a).asText? | throw .unfitArguments
      return some s
  | _ => return v.literal

/-- The attribute of a class that it has from a described one. -/
def customized? (w : World) (c : ClassName) (name : String) : Option Attribute :=
  match w.lookup c name with
  | some (_, .native _ _) | some (_, .special) | some (_, .unsigned _) | none => none
  | some (k, a) => if (w.described? k).isSome then some a else none

/--
The function that an instance is asked for its text inside a sentence, with the arguments. The one for
literals counts only where no class but the topmost has a text of its own.
-/
def textFunction? (w : World) (c : ClassName) : Option (List Value × Attribute) :=
  match w.customized? c "__format__", w.customized? c "__str__" with
  | some a, _ => some ([.str ""], a)
  | none, some a => some ([], a)
  | none, none =>
    if (w.lookup c "__str__").any (·.1 ≠ .object) then none
    else (w.customized? c "__repr__").map ([], ·)

/-- The text of a value inside a sentence. An instance is asked for its own. -/
def sentence (w : World) (v : Value) : Except Failure (Option String) :=
  match v with
  | .object c _ _ =>
    match w.textFunction? c with
    | some (args, a) => do
      let some s := (← (w.callAttribute w.construct c v args a).run' .empty).asText?
        | throw .unfitArguments
      return some s
    | none => plain v
  | v => plain v
where
  plain (v : Value) : Except Failure (Option String) :=
    if v.isWritable then .ok v.text else .error .integerUnwritable

/-- Applies a cast to a value. -/
def cast (w : World) (c : Cast) (v : Value) : Except Failure Value :=
  (w.castWith w.construct c v).run' .empty

end World

end Overloads
