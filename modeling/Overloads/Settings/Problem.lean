import Overloads.Number.Shortest
import Overloads.Text.Excerpt

/-! What can be wrong with one field of the settings. -/
namespace Overloads.Settings

/-- A step from the whole settings to the faulty part. -/
inductive Step where
  | field (name : String)
  | index (i : Nat)
  deriving DecidableEq, Repr

inductive Problem where
  | notPositive
  | integerText
  | integerType
  | integerFraction
  | integerInfinite
  | integerSize
  | booleanText
  | booleanType
  | textType
  | listType
  | unknownOrder (given : String)
  deriving DecidableEq, Repr

/-- A problem, where it is, and the faulty input: its text and the name of its type. -/
structure FieldProblem where
  place : List Step
  problem : Problem
  shown : String
  typeName : String
  deriving DecidableEq, Repr

namespace Problem

/-- The short name of the problem. -/
def code : Problem → String
  | .notPositive => "greater_than"
  | .integerText => "int_parsing"
  | .integerType => "int_type"
  | .integerFraction => "int_from_float"
  | .integerInfinite => "finite_number"
  | .integerSize => "int_parsing_size"
  | .booleanText => "bool_parsing"
  | .booleanType => "bool_type"
  | .textType => "string_type"
  | .listType => "list_type"
  | .unknownOrder _ => "value_error"

def message : Problem → String
  | .notPositive => "Input should be greater than 0"
  | .integerText => "Input should be a valid integer, unable to parse string as an integer"
  | .integerType => "Input should be a valid integer"
  | .integerFraction =>
    "Input should be a valid integer, got a number with a fractional part"
  | .integerInfinite => "Input should be a finite number"
  | .integerSize => "Unable to parse input string as an integer, exceeded maximum size"
  | .booleanText => "Input should be a valid boolean, unable to interpret input"
  | .booleanType => "Input should be a valid boolean"
  | .textType => "Input should be a valid string"
  | .listType => "Input should be a valid list"
  | .unknownOrder given => "Value error, unknown order policy: " ++ given

end Problem

def Step.text : Step → String
  | .field name => name
  | .index i => Number.decimalText i

/-- The problem in two lines: where it is, and what it is. -/
def FieldProblem.text (p : FieldProblem) : String :=
  ".".intercalate (p.place.map (·.text)) ++ "\n  " ++ p.problem.message ++ " [type=" ++
    p.problem.code ++ ", input_value=" ++ Text.excerpt p.shown ++ ", input_type=" ++
    p.typeName ++ "]"

/-- All problems with the settings of a kind. -/
def report (model : String) (problems : List FieldProblem) : String :=
  "\n".intercalate ((Number.decimalText problems.length ++ " validation error" ++
    (if problems.length = 1 then "" else "s") ++ " for " ++ model) :: problems.map (·.text))

end Overloads.Settings
