import Overloads.Pattern.Syntax
import Overloads.Text.Blank
import Overloads.Text.Digit
import Overloads.Text.LowerCase
import Overloads.Text.Word

/-! Which characters a literal or a set stands for, with and without regard to case. -/
namespace Overloads.Pattern

open Overloads.Text

/-- Small letters that other small letters stand for when case is ignored. -/
def kinRows : List (Nat × List Nat) := [
  (105, [305]), (115, [383]), (181, [956]), (305, [105]),
  (383, [115]), (837, [953, 8126]), (912, [8147]), (944, [8163]),
  (946, [976]), (949, [1013]), (952, [977]), (953, [837, 8126]),
  (954, [1008]), (956, [181]), (960, [982]), (961, [1009]),
  (962, [963]), (963, [962]), (966, [981]), (976, [946]),
  (977, [952]), (981, [966]), (982, [960]), (1008, [954]),
  (1009, [961]), (1013, [949]), (1074, [7296]), (1076, [7297]),
  (1086, [7298]), (1089, [7299]), (1090, [7300, 7301]), (1098, [7302]),
  (1123, [7303]), (7296, [1074]), (7297, [1076]), (7298, [1086]),
  (7299, [1089]), (7300, [1090, 7301]), (7301, [1090, 7300]), (7302, [1098]),
  (7303, [1123]), (7304, [42571]), (7777, [7835]), (7835, [7777]),
  (8126, [837, 953]), (8147, [912]), (8163, [944]), (42571, [7304]),
  (64261, [64262]), (64262, [64261])]

def kin (code : Nat) : List Nat := (kinRows.lookup code).getD []

def asciiLower (c : Char) : Char := if 'A' ≤ c && c ≤ 'Z' then Char.ofNat (c.toNat + 32) else c

/-- The small letter by which a character is compared under some flags. -/
def folded (f : Flags) (c : Char) : Char :=
  if !f.contains .ignoreCase then c
  else if f.contains .ascii then asciiLower c
  else lower c

/-- The small letter of a code point, which may be none of a character. -/
def foldedCode (f : Flags) (code : Nat) : Nat :=
  if h : code.isValidChar then (folded f (Char.ofNatAux code h)).toNat else code

/-- Whether case is ignored in every script. -/
def Flags.foldsAll (f : Flags) : Bool := f.contains .ignoreCase && !f.contains .ascii

/-- Whether a character stands for the code point. -/
def sameCode (f : Flags) (c : Char) (code : Nat) : Bool :=
  let folded := (folded f c).toNat
  let sought := foldedCode f code
  folded = sought || (f.foldsAll && (kin sought).contains folded)

def Category.holds (ascii : Bool) (c : Char) : Category → Bool
  | .digit => if ascii then c.isDigit else isDigit c
  | .blank => if ascii then c = ' ' || (9 ≤ c.toNat && c.toNat ≤ 13) else isBlank c
  | .word => if ascii then c.isAlphanum || c = '_' else isWord c

/-- The code points that fold to a small letter or to one of its kin. -/
def unfolded (f : Flags) (c : Char) : List Nat :=
  if !f.contains .ignoreCase then [c.toNat]
  else if f.contains .ascii then
    if c.isLower then [c.toNat, c.toNat - 32] else [c.toNat]
  else
    let near := c.toNat :: (kinRows.filter (·.2.contains c.toNat)).map (·.1)
    near.flatMap fun n => n :: (raised (Char.ofNat n)).map (·.toNat)

/--
Whether a character is in a set for the sake of one item. When case is ignored the character is folded
first; a literal is folded with it up to the code point 0xFFFF and not beyond.
-/
def SetItem.holds (f : Flags) (c : Char) : SetItem → Bool
  | .literal code => if code < 0x10000 then sameCode f c code else (folded f c).toNat = code
  | .range low high => (unfolded f (folded f c)).any fun n => low ≤ n && n ≤ high
  | .category k negated => k.holds (f.contains .ascii) (folded f c) != negated

end Overloads.Pattern
