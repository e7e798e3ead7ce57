/-! Texts as units of two or four bytes. -/
namespace Overloads.Text

/-- The order of the bytes of a unit. -/
inductive ByteOrder where
  | little | big
  deriving DecidableEq, Repr

/-- The bytes of a number, `count` of them. -/
def ByteOrder.bytes (o : ByteOrder) (count n : Nat) : List UInt8 :=
  let ascending := (List.range count).map fun i => (n >>> (8 * i)).toUInt8
  match o with
  | .little => ascending
  | .big => ascending.reverse

/-- The number that bytes give. -/
def ByteOrder.number (o : ByteOrder) (data : List UInt8) : Nat :=
  let descending := match o with
    | .little => data.reverse
    | .big => data
  descending.foldl (fun n b => 256 * n + b.toNat) 0

/-- The units of two bytes for a character: one, or a pair of surrogates. -/
def units16 (c : Char) : List Nat :=
  let n := c.toNat
  if n < 0x10000 then [n] else [0xD800 + (n - 0x10000) / 0x400, 0xDC00 + (n - 0x10000) % 0x400]

/-- The mark that texts begin with if their byte order is not agreed on. -/
def byteOrderMark : Nat := 0xFEFF

/-- How a piece at the front of some bytes reads: as a character, or as nothing. -/
structure Piece where
  length : Nat
  character : Option Char
  deriving DecidableEq, Repr

def isHighSurrogate (n : Nat) : Bool := 0xD800 ≤ n && n < 0xDC00

def isLowSurrogate (n : Nat) : Bool := 0xDC00 ≤ n && n < 0xE000

/-- The first piece of bytes that are units of two. A high surrogate needs a low one after it. -/
def ByteOrder.piece16 (o : ByteOrder) (data : List UInt8) : Piece :=
  match data with
  | a :: b :: rest =>
    let n := o.number [a, b]
    if isLowSurrogate n then ⟨2, none⟩
    else if !isHighSurrogate n then ⟨2, some (Char.ofNat n)⟩
    else match rest with
      | c :: d :: _ =>
        let m := o.number [c, d]
        if isLowSurrogate m then
          ⟨4, some (Char.ofNat (0x10000 + (n - 0xD800) * 0x400 + (m - 0xDC00)))⟩
        else ⟨2, none⟩
      | _ => ⟨data.length, none⟩
  | _ => ⟨data.length, none⟩

/-- The first piece of bytes that are units of four, each a code point. -/
def ByteOrder.piece32 (o : ByteOrder) (data : List UInt8) : Piece :=
  if data.length < 4 then ⟨data.length, none⟩
  else
    let n := o.number (data.take 4)
    ⟨4, if n.isValidChar then some (Char.ofNat n) else none⟩

end Overloads.Text
