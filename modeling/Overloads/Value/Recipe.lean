import Overloads.Value

/-! Values that are still to be made. -/
namespace Overloads

/-- How a value is made. `saved` stands for a value that was kept under a name. -/
inductive Recipe where
  | value (v : Value)
  | list (items : List Recipe)
  | tuple (items : List Recipe)
  | dict (items : List (Recipe × Recipe))
  | character (of : Recipe)
  /-- Bytes, by the hexadecimal digits of a text. -/
  | hex (digits : String)
  | ratio (num den : Int)
  | saved (name : String)
  /-- A call of the class. -/
  | make (c : ClassName) (args : List Recipe)
  /-- An instance that no constructor ran for. -/
  | bare (c : ClassName)
  deriving BEq, Repr, Inhabited

end Overloads
