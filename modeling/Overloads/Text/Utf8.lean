/-! Text as bytes: UTF-8. -/
namespace Overloads.Text

def isTail (b : UInt8) : Bool := 0x80 ≤ b.toNat && b.toNat < 0xC0

def tailBits (b : UInt8) : Nat := b.toNat - 0x80

/-- The character of a code point that needs at least `least` to be written as it was. -/
def scalar? (least n : Nat) : Option Char :=
  if h : n.isValidChar then if least ≤ n then some (Char.ofNatAux n h) else none else none

/-- The text that bytes write. Overlong forms, surrogates and loose bytes write nothing. -/
def decodeUtf8 : List UInt8 → Option (List Char)
  | [] => some []
  | a :: rest =>
    let n := a.toNat
    if n < 0x80 then (decodeUtf8 rest).map (Char.ofNat n :: ·)
    else if n < 0xC0 then none
    else if n < 0xE0 then
      match rest with
      | b :: rest =>
        if isTail b then do
          let c ← scalar? 0x80 ((n - 0xC0) * 64 + tailBits b)
          return c :: (← decodeUtf8 rest)
        else none
      | _ => none
    else if n < 0xF0 then
      match rest with
      | b :: c :: rest =>
        if isTail b && isTail c then do
          let d ← scalar? 0x800 ((n - 0xE0) * 4096 + tailBits b * 64 + tailBits c)
          return d :: (← decodeUtf8 rest)
        else none
      | _ => none
    else if n < 0xF8 then
      match rest with
      | b :: c :: d :: rest =>
        if isTail b && isTail c && isTail d then do
          let e ← scalar? 0x10000
            ((n - 0xF0) * 262144 + tailBits b * 4096 + tailBits c * 64 + tailBits d)
          return e :: (← decodeUtf8 rest)
        else none
      | _ => none
    else none

/-- The text with every line end written as a line feed. -/
def unifyLineEnds : List Char → List Char
  | [] => []
  | '\r' :: '\n' :: rest => '\n' :: unifyLineEnds rest
  | '\r' :: rest => '\n' :: unifyLineEnds rest
  | c :: rest => c :: unifyLineEnds rest

end Overloads.Text
