import Overloads.Instance.Testing

/-! Coercion hooks: functions of a value and the class that a parameter asks for. -/
namespace Overloads

/--
A hook that acts in `m`. `path` is the dotted path under which it can be imported, or else the text by
which it is shown, where that is fixed.
-/
structure Hook (m : Type → Type) where
  path : Except (Option String) String
  apply : Value → ClassName → m Value

namespace Hook

/-- Whether a conversion failed because the value has no integer. -/
def isIntegerless (f : Failure) : Bool := f.isBadValue || f.kind = "OverflowError"

/--
What widening or narrowing makes of a value, if it makes something: a number becomes the integral or
floating box that is asked for. What has no integer, as NaN and the infinities, stays as it is where one
is asked for, and so does everything that is no number.
-/
def widened? (w : World) (v : Value) (target : ClassName) : Except Failure (Option Value) := do
  if !(← w.isNumber v) then return none
  match IntegralBox.ofClass? target with
  | some box =>
    match w.cast .int v with
    | .ok n => return n.truncated?.map (.boxedInt box)
    | .error f => if isIntegerless f then return none else throw f
  | none =>
    if target = Primitive.boxed .float then
      return some (.boxedFloat (← (← w.cast .float v).toDouble))
    else return none

/-- Widens or narrows numbers; everything else passes unchanged. -/
def widen (w : World) (v : Value) (target : ClassName) : Except Failure Value :=
  (widened? w v target).map (·.getD v)

/-- The path under which widening can be imported. -/
def widenPath : String := "tortilla.synthesis.coercion.coerce"

def identity (v : Value) (_ : ClassName) : Except Failure Value := .ok v

/-- Whether a text is a plain integer: digits after an optional minus sign. -/
def isPlainInteger (s : String) : Bool :=
  let digits := match s.toList with
    | '-' :: rest => rest
    | cs => cs
  !digits.isEmpty && digits.all Char.isDigit

/-- Reads plain integers where an integer is asked for. -/
def readIntegers (v : Value) (target : ClassName) : Except Failure Value :=
  match v with
  | .str s =>
    let box := IntegralBox.ofClass? target
    if isPlainInteger s && (box.isSome || target = .builtin "int") then
      v.toInteger.map fun n => match box with
        | some b => .boxedInt b n
        | none => .int n
    else .ok v
  | _ => .ok v

/-- Turns texts of one character into characters where one is asked for. -/
def readCharacters (v : Value) (target : ClassName) : Except Failure Value :=
  match v.asText? with
  | some s =>
    .ok (if target = Primitive.boxed .char && s.length = 1 then .character s else v)
  | none => .ok v

/-- Reads integers, then characters, then widens. -/
def readAll (w : World) (v : Value) (target : ClassName) : Except Failure Value := do
  widen w (← readCharacters (← readIntegers v target) target) target

/-- Refuses every text and widens the rest. -/
def refuseText (w : World) (v : Value) (target : ClassName) : Except Failure Value :=
  match v with
  | .str _ => .error (.raised .value ("cannot coerce to " ++ target.text))
  | _ => widen w v target

end Hook

end Overloads
