import Overloads.Text.Digit
import Overloads.Text.Letter

/-! Characters that stand for digits or numbers (Unicode 14). -/
namespace Overloads.Text

/-- Where the digits that are no decimal digits begin and end. -/
def lesserDigitPoints : List Nat := [
  178, 180, 185, 186, 4969, 4978, 6618, 6619, 8304, 8305, 8308, 8314, 8320, 8330, 9312, 9321, 9332,
  9341, 9352, 9361, 9450, 9451, 9461, 9470, 9471, 9472, 10102, 10111, 10112, 10121, 10122, 10131,
  68160, 68164, 69216, 69225, 69714, 69723, 127232, 127243]

/-- Where the letters that stand for numbers begin and end. -/
def numeralLetterPoints : List Nat := [
  13317, 13318, 13443, 13444, 14378, 14379, 15181, 15182, 19968, 19969, 19971, 19972, 19975, 19976,
  19977, 19978, 20061, 20062, 20108, 20109, 20116, 20117, 20118, 20119, 20159, 20161, 20191, 20192,
  20200, 20201, 20237, 20238, 20336, 20337, 20740, 20741, 20806, 20807, 20841, 20842, 20843, 20844,
  20845, 20846, 21313, 21314, 21315, 21318, 21324, 21325, 21441, 21445, 22235, 22236, 22769, 22770,
  22777, 22778, 24186, 24187, 24318, 24320, 24332, 24335, 24336, 24337, 25342, 25343, 25420, 25421,
  26578, 26579, 28422, 28423, 29590, 29591, 30334, 30335, 32902, 32903, 33836, 33837, 36014, 36015,
  36019, 36020, 36144, 36145, 38433, 38434, 38470, 38471, 38476, 38477, 38520, 38521, 38646, 38647,
  63851, 63852, 63859, 63860, 63864, 63865, 63922, 63923, 63953, 63954, 63955, 63956, 63997, 63998,
  131073, 131074, 131172, 131173, 131298, 131299, 131361, 131362, 133418, 133419, 133507, 133508,
  133516, 133517, 133532, 133533, 133866, 133867, 133885, 133886, 133913, 133914, 140176, 140177,
  141720, 141721, 146203, 146204, 156269, 156270, 194704, 194705]

/-- A digit, be it one of a decimal system or not. -/
def isAnyDigit (c : Char) : Bool := isDigit c || inside lesserDigitPoints c.toNat

/-- A character that stands for a number. -/
def isNumeral (c : Char) : Bool :=
  inside numberPoints c.toNat || inside numeralLetterPoints c.toNat

end Overloads.Text
