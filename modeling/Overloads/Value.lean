import Overloads.Class.Name
import Overloads.Number.Shortest
import Overloads.Text.Quoted

/-! The values that routines are called with. -/
namespace Overloads

open Overloads.Number Overloads.Text

/-- The boxes of integral primitives. -/
inductive IntegralBox where
  | byte | short | integer
  deriving DecidableEq, Repr

def IntegralBox.primitive : IntegralBox → Primitive
  | .byte => .byte
  | .short => .short
  | .integer => .int

def IntegralBox.name (b : IntegralBox) : ClassName := b.primitive.boxed

/-- The box that a class is, if it is one. -/
def IntegralBox.ofClass? (c : ClassName) : Option IntegralBox :=
  [IntegralBox.integer, .short, .byte].find? (·.name = c)

/-- How a value of a builtin class is written that no other form fits. -/
inductive NativeForm where
  /-- As a call of its class on its parts. -/
  | call
  /-- As a call too; inside a sentence only the parts show. -/
  | error
  /-- Its parts between braces. -/
  | braces
  /-- By a text of its own, where that is fixed. -/
  | text (shown : Option String)
  deriving DecidableEq, Repr

/--
A value. A `native` one is an instance of a builtin class without a form of its own, given by what it is
made of. An `object` is an instance of a described class, told from others by its number in the store;
it has a content if its class extends a builtin one. A `traced` value records a call that was made.
-/
inductive Value where
  | nothing
  | bool (b : Bool)
  | int (n : Int)
  | boxedInt (box : IntegralBox) (n : Int)
  | float (x : Binary64)
  | boxedFloat (x : Binary64)
  | str (s : String)
  | character (s : String)
  | list (items : List Value)
  | tuple (items : List Value)
  | dict (items : List (Value × Value))
  | bytes (data : List UInt8)
  | fraction (num : Int) (den : Nat)
  | type (c : ClassName)
  | native (c : ClassName) (form : NativeForm) (parts : List Value)
  | object (c : ClassName) (number : Nat) (content : Option Value)
  | traced (label : String) (args : List Value)
  deriving BEq, Repr, Inhabited

namespace Value

def fractionClass : ClassName := ⟨["fractions"], ["Fraction"]⟩

/-- The fraction in lowest terms with a positive denominator. -/
def ratio (num : Int) (den : Int) : Value :=
  let g := Nat.gcd num.natAbs den.natAbs
  let sign : Int := if den < 0 then -1 else 1
  .fraction (sign * num / g) (den.natAbs / g)

/-- The builtin value inside an instance; every other value is its own content. -/
def content : Value → Value
  | .object _ _ (some v) => v
  | v => v

/-- Parts behind a name, as in a call. -/
def callText (name : String) (parts : List String) : String :=
  name ++ "(" ++ ", ".intercalate parts ++ ")"

/--
The text of a value given as a literal where there is one; instances without a content have no fixed
text. An instance of a class below a builtin one shows the name of its own class where its literal has
one.
-/
def literalAs (name : Option String) : Value → Option String
  | .nothing => some "None"
  | .bool b => some (if b then "True" else "False")
  | .int n => some (decimalText n)
  | .boxedInt b n => some s!"{b.name.simpleName}({decimalText n})"
  | .float x => some x.text
  | .boxedFloat x => some s!"Float({x.text})"
  | .str s => some (quoted s)
  | .character s => some s!"Character({quoted s})"
  | .list items => (literals items).map fun ts => "[" ++ ", ".intercalate ts ++ "]"
  | .tuple items => (literals items).map fun
    | [t] => "(" ++ t ++ ",)"
    | ts => "(" ++ ", ".intercalate ts ++ ")"
  | .dict items => (pairLiterals items).map fun ts => "\x7b" ++ ", ".intercalate ts ++ "\x7d"
  | .bytes data => some (quotedBytes data)
  | .fraction num den =>
    some (callText (name.getD "Fraction") [decimalText num, decimalText den])
  | .type c => some s!"<class '{c.text}'>"
  | .native c form parts =>
    let shown := name.getD c.simpleName
    match form with
    | .call | .error => (literals parts).map (callText shown)
    | .braces => (literals parts).map fun
      | [] => callText shown []
      | ts =>
        let braced := "\x7b" ++ ", ".intercalate ts ++ "\x7d"
        if shown = "set" then braced else callText shown [braced]
    | .text t => t
  | .object c _ content =>
    match content with
    | some v => v.literalAs (some c.simpleName)
    | none => none
  | .traced _ _ => none
where
  literals : List Value → Option (List String)
    | [] => some []
    | v :: vs => do return (← v.literalAs none) :: (← literals vs)
  pairLiterals : List (Value × Value) → Option (List String)
    | [] => some []
    | (k, v) :: rest => do
      return ((← k.literalAs none) ++ ": " ++ (← v.literalAs none)) :: (← pairLiterals rest)

/-- The text of a value given as a literal, where it is fixed. -/
def literal (v : Value) : Option String := v.literalAs none

/-- Whether all integers that a value holds are short enough to be written. -/
def isWritable : Value → Bool
  | .int n | .boxedInt _ n => (writtenInteger? n).isSome
  | .list items | .tuple items => all items
  | .dict items => allPairs items
  | .fraction num den => (writtenInteger? num).isSome && (writtenInteger? den).isSome
  | .native _ _ parts => all parts
  | .object _ _ (some v) => v.isWritable
  | _ => true
where
  all : List Value → Bool
    | [] => true
    | v :: vs => v.isWritable && all vs
  allPairs : List (Value × Value) → Bool
    | [] => true
    | (k, v) :: rest => k.isWritable && v.isWritable && allPairs rest

/--
The text of a value inside a sentence: strings and fractions go without decoration, and errors show
their parts alone.
-/
def text (v : Value) : Option String :=
  match v.content with
  | .str s | .character s => some s
  | .fraction num den =>
    some (if den = 1 then decimalText num else s!"{decimalText num}/{decimalText den}")
  | .native _ .error [] => some ""
  | .native _ .error [part] =>
    match part.content with
    | .str s | .character s => some s
    | _ => part.literal
  | .native _ .error parts => (Value.tuple parts).literal
  | _ => v.literal

end Value

end Overloads
