import Overloads.Source.Basic
import Overloads.Text.Lines

/-! The text of source code. -/
namespace Overloads.Source

open Overloads.Number (decimalText)
open Overloads.Text

def indent : String := "    "

def commas (items : List String) : String := ", ".intercalate items

def Expr.text : Expr → String
  | .argument i => "args[" ++ decimalText i ++ "]"
  | .item => "value"
  | .coerced hook e target => hook ++ "(" ++ e.text ++ ", " ++ target ++ ")"
  | .cast c e => c.text ++ "(" ++ e.text ++ ")"

/-- The arguments from a place on. -/
def sliceText (start : Nat) : String := "args[" ++ decimalText start ++ ":]"

def Test.text : Test → String
  | .isInstance e path => instanceTest ++ "(" ++ e.text ++ ", " ++ path ++ ")"
  | .allInstances start e path =>
    "all(" ++ instanceTest ++ "(" ++ e.text ++ ", " ++ path ++ ") for value in " ++
      sliceText start ++ ")"

def Passed.text : Passed → String
  | .one e => e.text
  | .rest start => "*" ++ sliceText start
  | .each start e => "*[" ++ e.text ++ " for value in " ++ sliceText start ++ "]"

def Invocation.text (i : Invocation) : String :=
  i.path ++ "(" ++ commas (i.passed.map (·.text)) ++ ")"

/-- The condition of a branch; without tests it holds. -/
def conditionText (tests : List Test) : String :=
  if tests.isEmpty then "True" else " and ".intercalate (tests.map (·.text))

def refusalText (owner memberName more : String) : String :=
  "raise " ++ refusal ++ "(" ++ commas [quoted owner, quoted memberName, "args"] ++ more ++ ")"

def Ending.text : Ending → String
  | .call i => "return " ++ i.text
  | .refusal owner memberName => refusalText owner memberName ""

def branchLines (branch : List Test × Invocation) : List String :=
  [indent ++ "if " ++ conditionText branch.1 ++ ":", indent ++ indent ++ "return " ++ branch.2.text]

def Block.lines (b : Block) : List String :=
  let head := "if len(args) " ++ (if b.orMore then ">=" else "==") ++ " " ++
    decimalText b.arity ++ ":"
  head :: b.branches.flatMap branchLines ++ [indent ++ b.ending.text]

/-- Text as it stands between triple quotes. -/
def escapeTriple : List Char → List Char
  | '"' :: '"' :: '"' :: rest => '\\' :: '"' :: '\\' :: '"' :: '\\' :: '"' :: escapeTriple rest
  | '\\' :: rest => '\\' :: '\\' :: escapeTriple rest
  | c :: rest => c :: escapeTriple rest
  | [] => []

/-- The lines of a documentation string. -/
def documentationLines (s : String) : List String :=
  let lines := (splitLines (escapeTriple s.toList)).map String.ofList
  let rest := lines.tail.map fun l => if l.isEmpty then "" else indent ++ l
  (indent ++ "\"\"\"" ++ lines.headD "") :: rest ++ [indent ++ "\"\"\""]

def wrongNumberText : String :=
  ", reason=f\"Wrong number of arguments (\x7blen(args)\x7d) for\""

def Definition.lines (d : Definition) : List String :=
  ("def " ++ d.name ++ "(*args):") :: (d.documentation.map documentationLines).getD [] ++
    (d.blocks.flatMap (·.lines)).map (indent ++ ·) ++
    [indent ++ refusalText d.owner d.memberName wrongNumberText]

/-- Lines as one text, each with its end. -/
def joinLines (lines : List String) : String := String.join (lines.map (· ++ "\n"))

def Definition.text (d : Definition) : String := joinLines d.lines

def header : String := "# Generated by tortilla. Do not edit."

/-- The longest beginning of a path, itself left out, that is a loaded module. -/
def moduleFor? (loaded : List (List String)) (path : String) : Option (List String) :=
  let parts := splitDots path
  (List.range parts.length).reverse.findSome? fun n =>
    let candidate := parts.take n
    if n ≠ 0 && loaded.contains candidate then some candidate else none

/-- The modules to import for some code, sorted. Builtin names need none. -/
def imports (loaded : List (List String)) (ds : List Definition) : List String :=
  let modules := (ds.flatMap (·.paths)).filterMap (moduleFor? loaded)
  let names := (modules.filter (· ≠ ClassName.builtinModule)).eraseDups.map dotted
  names.mergeSort fun a b => !decide (b < a)

/-- The whole text: a header, the imports, and each function after two empty lines. -/
def moduleText (loaded : List (List String)) (ds : List Definition) : String :=
  joinLines (header :: (imports loaded ds).map ("import " ++ ·) ++
    ds.flatMap fun d => "" :: "" :: d.lines)

end Overloads.Source

namespace Overloads

/--
The source of routines that use a hook. With `documented` they are documented, in lines of the width
inside if there is one. A hook without a dotted path fails as soon as it is used.
-/
def render (w : World) (hookPath : Option (Except (Option String) String))
    (documented : Option (Option Int)) (rs : List Routine) : Except Failure String :=
  let named := match hookPath with
    | none => none
    | some (.ok path) => some path
    | some (.error _) => some ""
  let ds := rs.map (Source.definition named documented)
  match hookPath with
  | some (.error shown) =>
    if ds.any (·.blocks.any (·.hasHook)) then .error (.notImportable shown)
    else .ok (Source.moduleText (w.modules.map (·.name)) ds)
  | _ => .ok (Source.moduleText (w.modules.map (·.name)) ds)

end Overloads
