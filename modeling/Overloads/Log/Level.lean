import Overloads.Text.Blank

/-! How grave an event is. -/
namespace Overloads

inductive Level where
  | debug | info | warning | error
  deriving DecidableEq, Repr

namespace Level

def number : Level → Nat
  | .debug => 10
  | .info => 20
  | .warning => 30
  | .error => 40

def text : Level → String
  | .debug => "debug"
  | .info => "info"
  | .warning => "warning"
  | .error => "error"

def names : List (String × Level) :=
  [("DEBUG", .debug), ("INFO", .info), ("WARN", .warning), ("WARNING", .warning),
    ("ERROR", .error)]

/-- The upper case of the letters for which it is an ASCII letter, two that are not ASCII among them. -/
def upperLetter (c : Char) : Char :=
  if c = 'ı' then 'I' else if c = 'ſ' then 'S' else c.toUpper

/-- The level that a text names, in any case and with white space around it; else the one for warnings. -/
def ofText (s : String) : Level :=
  let name := String.ofList ((Text.trimmed s.toList).map upperLetter)
  (names.lookup name).getD .warning

/-- Whether events of level `l` are shown where this level is set. -/
def shows (threshold l : Level) : Bool := threshold.number ≤ l.number

end Level

end Overloads
