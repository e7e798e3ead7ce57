import Overloads.Routine.Clause
import Overloads.Text.Wrap

/-! The documentation of a routine. -/
namespace Overloads

open Overloads.Text

/-- The signature in one line, such as `(str, int) -> str`. -/
def DeclaredSignature.line (s : DeclaredSignature) : String :=
  "(" ++ ", ".intercalate s.params ++ ") -> " ++ s.returns

/-- Signatures are indented by four, the lines that continue one by eight. -/
def signatureMargins (width : Int) : Margins := ⟨(max (width - 4) 20).toNat, 4, 8⟩

/-- The lines for one signature; without a width it is one line. -/
def DeclaredSignature.lines (width : Option Int) (s : DeclaredSignature) : List String :=
  match width with
  | none => ["    " ++ s.line]
  | some n => (wrap (signatureMargins n) s.line.toList).map String.ofList

/-- The name of a routine and its signatures. -/
def Routine.documentation (width : Option Int) (r : Routine) : String :=
  "\n".intercalate <|
    ["Dispatch " ++ r.owner ++ "." ++ r.memberName ++ ".", "", "Signatures:"] ++
      r.signatures.flatMap (·.lines width)

end Overloads
