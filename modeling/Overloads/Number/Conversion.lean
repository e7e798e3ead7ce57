import Overloads.Failure
import Overloads.Value.Items

/-! Numbers out of values. -/
namespace Overloads

open Overloads.Number

namespace Value

/-- Whether a value holds a real number. Truth values are not counted as numbers here. -/
def holdsReal (v : Value) : Bool :=
  match v.content with
  | .int _ | .boxedInt _ _ | .float _ | .boxedFloat _ | .fraction _ _ => true
  | _ => false

/-- The integer part of a real number, toward zero; NaN and the infinities have none. -/
def truncated? (v : Value) : Option Int :=
  match v.content with
  | .int n | .boxedInt _ n => some n
  | .float x | .boxedFloat x => x.truncate
  | .fraction num den => some (num.tdiv den)
  | _ => none

/-- The double nearest to an integer. -/
def doubleOfInt (n : Int) : Except Failure Binary64 :=
  match Binary64.ofInt n with
  | .infinite _ => .error .floatOfLargeInteger
  | x => .ok x

/-- The double nearest to a fraction. -/
def doubleOfRatio (num : Int) (den : Nat) : Except Failure Binary64 :=
  match Binary64.ofRatio (num < 0) num.natAbs den with
  | .infinite _ => .error .floatOfLargeFraction
  | x => .ok x

/-- Bytes as the characters of a number; what is not plain text fits no number. -/
def numeralOfBytes (data : List UInt8) : List Char :=
  data.map fun b => if b.toNat < 128 then Char.ofNat b.toNat else '?'

def readIntegerOr (v : Value) (s : List Char) : Except Failure Int :=
  match readInteger s with
  | .value n => .ok n
  | .tooLong digits => .error (.integerTooLong digits)
  | .malformed => .error (.notAnInteger 10 v.literal)

def readDecimalOr (v : Value) (s : List Char) : Except Failure Binary64 :=
  match readDecimal s with
  | some x => .ok x
  | none => .error (.notANumber v.literal)

/-- The conversion to an integer. -/
def toInteger (v : Value) : Except Failure Int :=
  match v.content with
  | .bool b => .ok (if b then 1 else 0)
  | .float .nan | .boxedFloat .nan => .error .integerOfNaN
  | .float (.infinite _) | .boxedFloat (.infinite _) => .error .integerOfInfinity
  | .str s | .character s => v.readIntegerOr s.toList
  | w =>
    match w.truncated?, w.bytes? with
    | some n, _ => .ok n
    | none, some data => readIntegerOr (.bytes data) (numeralOfBytes data)
    | none, none => .error .notConvertible

/-- The conversion to a double. -/
def toDouble (v : Value) : Except Failure Binary64 :=
  match v.content with
  | .bool b => .ok (.ofInt (if b then 1 else 0))
  | .int n | .boxedInt _ n => doubleOfInt n
  | .float x | .boxedFloat x => .ok x
  | .fraction num den => doubleOfRatio num den
  | .str s | .character s => v.readDecimalOr s.toList
  | w =>
    match w.bytes? with
    | some data => readDecimalOr w (numeralOfBytes data)
    | none => .error .notConvertible

/-- The character that a value of one item is written as. -/
def makeCharacter (v : Value) : Except Failure Value :=
  match v.length? with
  | some 1 => .ok (.character (v.text.getD ""))
  | some _ => .error (.notOneCharacter v.literal)
  | none => .error .notConvertible

end Value

/-- Applies a cast to a value. -/
def Cast.apply (c : Cast) (v : Value) : Except Failure Value :=
  match c with
  | .int => v.toInteger.map .int
  | .float => v.toDouble.map .float

end Overloads
