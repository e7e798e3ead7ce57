import Overloads.Native.Arguments
import Overloads.Number.Conversion
import Overloads.Number.Hexadecimal

/-! The functions of numbers. -/
namespace Overloads.Native

open Overloads.Number Overloads.Text

/-- The number of ones among the binary digits; `fuel` bounds their number. -/
def onesCount : Nat → Nat → Nat
  | 0, _ => 0
  | fuel + 1, n => n % 2 + onesCount fuel (n / 2)

def bitLength (n : Nat) : Nat := if n = 0 then 0 else n.log2 + 1

/-- The bytes of a number, the lowest first. -/
def littleEndian : Nat → Nat → List UInt8
  | 0, _ => []
  | count + 1, n => (n % 256).toUInt8 :: littleEndian count (n / 256)

def ofLittleEndian (data : List UInt8) : Nat := data.foldr (fun b n => b.toNat + 256 * n) 0

/-- The two orders of the bytes of a number, by name; true means the lowest first. -/
def littleFirst (v : Option Value) : Except Failure Bool := do
  match String.ofList (← orElse text v "big".toList) with
  | "little" => return true
  | "big" => return false
  | _ => throw (.rejectedValue "byteorder must be either 'little' or 'big'")

/-- The bytes of a number in `length` places. -/
def toBytes (n : Int) (length order : Option Value) : Answer := do
  let count ← orElse size length 1
  let low ← littleFirst order
  if count < 0 then throw (.rejectedValue "length argument must be non-negative")
  if n < 0 then throw (.rejectedSize "can't convert negative int to unsigned")
  if count * 8 < bitLength n.toNat then throw (.rejectedSize "int too big to convert")
  let data := littleEndian count.toNat n.toNat
  answer (.bytes (if low then data else data.reverse))

/-- The bytes that a value stands for when bytes are asked for. -/
def asBytes (v : Value) : Except Failure (List UInt8) :=
  match v.bytes?, v.asText?, v.items? with
  | some data, _, _ => .ok data
  | none, none, some items => items.mapM fun v => do
    let n ← integer v
    if n < 0 || 256 ≤ n then throw (.rejectedValue "bytes must be in range(0, 256)")
    return n.toNat.toUInt8
  | none, _, _ => misfit

/-- The number that bytes make up. -/
def ofBytes (data : Value) (order : Option Value) : Except Failure Int := do
  let low ← littleFirst order
  let data ← asBytes data
  return ofLittleEndian (if low then data else data.reverse)

/-- A function of integers. -/
def integerFunction (name : String) (receiver : Value) (args : List Value) : Answer := do
  let n ← integer receiver
  match name, args with
  | "bit_length", [] => answer (.int (bitLength n.natAbs))
  | "bit_count", [] => answer (.int (onesCount (bitLength n.natAbs) n.natAbs))
  | "to_bytes", [] => toBytes n none none
  | "to_bytes", [length] => toBytes n length none
  | "to_bytes", [length, order] => toBytes n length order
  | "as_integer_ratio", [] => answer (.tuple [.int n, .int 1])
  | _, _ => misfit

/-- A double as a ratio of integers in lowest terms. -/
def doubleRatio (x : Binary64) : Except Failure (Int × Nat) :=
  match x with
  | .nan => .error (.rejectedValue "cannot convert NaN to integer ratio")
  | .infinite _ => .error (.rejectedSize "cannot convert Infinity to integer ratio")
  | .finite negative m e =>
    let (n, d) := Binary64.ratio m e
    let g := Nat.gcd n d
    .ok (if negative then -((n / g : Nat) : Int) else ((n / g : Nat) : Int), d / g)

/-- A double. -/
def double? (v : Value) : Option Binary64 :=
  match v.content with
  | .float x | .boxedFloat x => some x
  | _ => none

/-- A function of doubles. -/
def doubleFunction (name : String) (receiver : Value) (args : List Value) : Answer := do
  let some x := double? receiver | misfit
  match name, args with
  | "conjugate", [] => answer (.float x)
  | "as_integer_ratio", [] => do
    let (n, d) ← doubleRatio x
    answer (.tuple [.int n, .int d])
  | "hex", [] => answer (.str (hexadecimalText x))
  | "is_integer", [] => answer (.bool x.isIntegral)
  | _, _ => misfit

/-- The double that a text gives in hexadecimal digits. -/
def doubleOfHex (v : Value) : Except Failure Binary64 := do
  match readHexadecimalText (← text v) with
  | .value x => return x
  | .tooLarge => throw (.rejectedSize "hexadecimal value too large to represent as a float")
  | .malformed => throw (.rejectedValue "invalid hexadecimal floating-point string")

/-- A rational number. -/
def ratio? (v : Value) : Option (Int × Nat) :=
  match v.content with
  | .fraction num den => some (num, den)
  | _ => (integer? v).map (·, 1)

/-- The quotient of two rational numbers as a fraction. -/
def quotient (a b : Int × Nat) : Except Failure Value :=
  let num := a.1 * b.2
  let den := b.1 * a.2
  if den = 0 then .error (.zeroDenominator (some ("Fraction(" ++ decimalText num ++ ", 0)")))
  else .ok (.ratio num den)

/-- Reads the text of a fraction: a quotient of integers or a decimal number. -/
def readRatio? (s : List Char) : Option (Int × Int) :=
  let (negative, body) := readSign (trimmed s)
  let signed (n : Nat) : Int := if negative then -(n : Int) else n
  let (whole, count, rest) := readDigits 0 0 body
  match rest with
  | '/' :: rest =>
    match readDigits 0 0 rest with
    | (den, _ + 1, []) => if count = 0 then none else some (signed whole, den)
    | _ => none
  | _ =>
    let (n, places, rest) := match rest with
      | '.' :: rest => readDigits whole 0 rest
      | _ => (whole, 0, rest)
    match readExponent rest with
    | some e =>
      if count + places = 0 then none
      else
        let shift := e - places
        if 0 ≤ shift then some (signed (n * tenTo shift.toNat), 1)
        else some (signed n, tenTo (-shift).toNat)
    | none => none

/-- The fraction that one value stands for. -/
def fractionOf (v : Value) : Except Failure Value := do
  match ratio? v, double? v, v.asText? with
  | some (n, d), _, _ => return .fraction n d
  | _, some x, _ => do
    let (n, d) ← doubleRatio x
    return .fraction n d
  | _, _, some s =>
    match readRatio? s.toList with
    | some (n, 0) =>
      throw (.zeroDenominator (some ("Fraction(" ++ decimalText n ++ ", 0)")))
    | some (n, d) => return .ratio n d
    | none => throw (.rejectedValue ("Invalid literal for Fraction: " ++ v.literal.getD ""))
  | none, none, none => misfit

/--
The two convergents around a fraction whose denominators are the last within a bound and the first beyond
it, cut down to the bound; `fuel` bounds the steps.
-/
def convergents (bound : Nat) : Nat → (Int × Nat) → (Int × Nat) → Int → Nat →
    (Int × Nat) × (Int × Nat)
  | 0, a, b, _, _ => (a, b)
  | fuel + 1, (p, q), (p', q'), n, d =>
    let step := n.fdiv d
    let next := q + step.toNat * q'
    if d = 0 || bound < next then
      let k := if q' = 0 then 0 else (bound - q) / q'
      ((p + k * p', q + k * q'), (p', q'))
    else convergents bound fuel (p', q') (p + step * p', next) d (n - step * d).toNat

/-- The fraction nearest to another among those whose denominators keep within a bound. -/
def limited (num : Int) (den bound : Nat) : Int × Nat :=
  if den ≤ bound then (num, den)
  else
    let ((p, q), (p', q')) := convergents bound (2 * (den.log2 + 2)) (0, 1) (1, 0) num den
    let distance (p : Int) (q : Nat) : Nat := (p * den - num * q).natAbs
    if distance p' q' * q ≤ distance p q * q' then (p', q') else (p, q)

/-- A function of fractions. -/
def fractionFunction (name : String) (receiver : Value) (args : List Value) : Answer := do
  let .fraction num den := receiver.content | misfit
  match name, args with
  | "as_integer_ratio", [] => answer (.tuple [.int num, .int den])
  | "limit_denominator", args => do
    let bound ← orElse integer args.head? 1000000
    if bound < 1 then throw (.rejectedValue "max_denominator should be at least 1")
    let (n, d) := limited num den bound.toNat
    answer (.fraction n d)
  | _, _ => misfit

/-- A part of a complex number, which goes without its places where they are zero. -/
def partText (x : Binary64) : String :=
  let s := x.text
  if s.endsWith ".0" then String.ofList (s.toList.dropLast.dropLast) else s

/-- A complex number. -/
def complexNumber (re im : Binary64) : Value :=
  let imaginary := partText im ++ "j"
  let signed := if im.isNegative then imaginary else "+" ++ imaginary
  let shown :=
    if re = .zero false then imaginary else "(" ++ partText re ++ signed ++ ")"
  .native (.builtin "complex") (.text (some shown)) [.float re, .float im]

/-- The two parts of a complex number. -/
def complexParts? (v : Value) : Option (Binary64 × Binary64) :=
  match v.content with
  | .native c _ [.float re, .float im] => if c = .builtin "complex" then some (re, im) else none
  | _ => none

/-- A function of complex numbers. -/
def complexFunction (name : String) (receiver : Value) (args : List Value) : Answer := do
  let some (re, im) := complexParts? receiver | misfit
  match name, args with
  | "conjugate", [] => answer (complexNumber re im.negated)
  | _, _ => misfit

end Overloads.Native
