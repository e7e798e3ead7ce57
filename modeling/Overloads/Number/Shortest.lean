import Overloads.Number.Binary64

/-! The shortest decimal text that reads back as a given double. -/
namespace Overloads.Number

/-- The decimal digits of a number, the highest first. -/
def decimalDigits (n : Nat) : List Char := Nat.toDigits 10 n

/-- The decimal text of an integer. -/
def decimalText (n : Int) : String :=
  match n with
  | .ofNat k => String.ofList (decimalDigits k)
  | .negSucc k => String.ofList ('-' :: decimalDigits (k + 1))

/-- Integers with more digits than this are neither read from text nor written. -/
def digitLimit : Nat := 4300

/-- The decimal digits of an integer, unless there are too many. -/
def writtenInteger? (n : Int) : Option String :=
  if (decimalDigits n.natAbs).length ≤ digitLimit then some (decimalText n) else none

/-- The exponent `p` with `10 ^ (p - 1) ≤ num / den < 10 ^ p`, of a positive fraction. -/
def decimalExponent (num den : Nat) : Int :=
  if den ≤ num then (decimalDigits (num / den)).length
  else 1 - ((decimalDigits ((den + num - 1) / num - 1)).length : Int)

/-- The fractions that round to one double, all over one denominator. -/
structure Interval where
  low : Nat
  value : Nat
  high : Nat
  den : Nat
  closed : Bool

/-- The interval of a positive finite double. Below a power of two its lower half is halved. -/
def Interval.of (mantissa : Nat) (exponent : Int) : Interval :=
  let below := if mantissa = twoTo 52 ∧ Binary64.leastExponent < exponent then 1 else 2
  let unit : Nat × Nat := Binary64.ratio 1 (exponent - 2)
  ⟨(4 * mantissa - below) * unit.1, 4 * mantissa * unit.1, (4 * mantissa + 2) * unit.1, unit.2,
    mantissa % 2 == 0⟩

/-- Whether the decimal `k * 10 ^ e` lies in the interval. -/
def Interval.holds (i : Interval) (k : Nat) (e : Int) : Bool :=
  let x := if 0 ≤ e then k * tenTo e.toNat * i.den else k * i.den
  let s := if 0 ≤ e then 1 else tenTo (-e).toNat
  if i.closed then i.low * s ≤ x && x ≤ i.high * s else i.low * s < x && x < i.high * s

/-- The multiple of `10 ^ e` in the interval that is nearest to its value, an even one at a tie. -/
def Interval.onGrid? (i : Interval) (e : Int) : Option Nat :=
  let num := if 0 ≤ e then i.value else i.value * tenTo (-e).toNat
  let den := if 0 ≤ e then i.den * tenTo e.toNat else i.den
  let k := num / den
  match i.holds k e, i.holds (k + 1) e with
  | true, true => some (Binary64.nearest num den)
  | true, false => some k
  | false, true => some (k + 1)
  | false, false => none

/-- Tries `left` grids, each ten times as fine as the one before, and takes the first with a hit. -/
def Interval.search (i : Interval) (p : Int) (digits : Nat) : Nat → Nat × Int
  | 0 => (i.value / i.den, 0)
  | left + 1 =>
    let e := p - digits
    match i.onGrid? e with
    | some k => (k, e)
    | none => i.search p (digits + 1) left

/-- The shortest decimal `k * 10 ^ e` that reads back as the double, of those the nearest. -/
def shortest (mantissa : Nat) (exponent : Int) : Nat × Int :=
  let i := Interval.of mantissa exponent
  i.search (decimalExponent i.value i.den) 1 17

/-- Where a number is written positionally and how its exponent looks. -/
structure FloatFormat where
  leastPositional : Int
  leastExponential : Int
  exponentDigits : Nat

/-- Numbers from `1e-4` up to `1e16` are positional; exponents are signed and have two digits. -/
def floatFormat : FloatFormat := ⟨-4, 16, 2⟩

def FloatFormat.exponentText (f : FloatFormat) (e : Int) : List Char :=
  let digits := decimalDigits e.natAbs
  'e' :: (if e < 0 then '-' else '+') ::
    (List.replicate (f.exponentDigits - digits.length) '0' ++ digits)

/-- The text of the digits `d₁d₂…` read as `d₁.d₂… * 10 ^ e`. -/
def FloatFormat.digitsText (f : FloatFormat) (digits : List Char) (e : Int) : List Char :=
  if e < f.leastPositional ∨ f.leastExponential ≤ e then
    let tail := digits.drop 1
    digits.take 1 ++ (if tail.isEmpty then [] else '.' :: tail) ++ f.exponentText e
  else if e < 0 then
    '0' :: '.' :: (List.replicate ((-e).toNat - 1) '0' ++ digits)
  else
    let whole := e.toNat + 1
    let padded := digits ++ List.replicate (whole - digits.length) '0'
    let places := padded.drop whole
    padded.take whole ++ '.' :: (if places.isEmpty then ['0'] else places)

/-- The digits of a number without the zeros at its end; zero keeps one digit. -/
def significantDigits (k : Nat) : List Char :=
  match ((decimalDigits k).reverse.dropWhile (· == '0')).reverse with
  | [] => ['0']
  | ds => ds

def FloatFormat.render (f : FloatFormat) : Binary64 → String
  | .nan => "nan"
  | .infinite negative => if negative then "-inf" else "inf"
  | .finite negative m e =>
    let digits :=
      if m = 0 then f.digitsText ['0'] 0
      else
        let (k, e) := shortest m e
        f.digitsText (significantDigits k) ((decimalDigits k).length - 1 + e)
    String.ofList (if negative then '-' :: digits else digits)

/-- The text of a double. -/
def Binary64.text (x : Binary64) : String := floatFormat.render x

end Overloads.Number
