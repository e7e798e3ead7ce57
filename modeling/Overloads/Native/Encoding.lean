import Overloads.Native.Arguments
import Overloads.Text.CharacterName
import Overloads.Text.Splitting
import Overloads.Text.Units
import Overloads.Text.Utf8

/-! Encodings of texts as bytes, by their names. -/
namespace Overloads.Native

open Overloads.Text

/-- Encodings by units whose order may be given; one that is not begins with a mark. -/
inductive Encoding where
  | utf8 (marked : Bool)
  | ascii | latin1 | windows
  | utf16 (order : Option ByteOrder)
  | utf32 (order : Option ByteOrder)
  deriving DecidableEq, Repr

/-- The names that each encoding goes by. -/
def encodingNames : List (Encoding × List String) := [
  (.utf8 false, ["utf_8", "utf8", "u8", "utf", "utf8_ucs2", "utf8_ucs4", "cp65001"]),
  (.utf8 true, ["utf_8_sig"]),
  (.ascii, ["ascii", "646", "ansi_x3.4_1968", "ansi_x3_4_1968", "ansi_x3.4_1986", "cp367",
    "csascii", "ibm367", "iso646_us", "iso_646.irv_1991", "iso_ir_6", "us", "us_ascii"]),
  (.latin1, ["latin_1", "8859", "cp819", "csisolatin1", "ibm819", "iso8859", "iso8859_1",
    "iso_8859_1", "iso_8859_1_1987", "iso_ir_100", "l1", "latin", "latin1"]),
  (.windows, ["cp1252", "1252", "windows_1252"]),
  (.utf16 none, ["utf_16", "utf16", "u16"]),
  (.utf16 (some .little), ["utf_16_le", "utf_16le", "unicodelittleunmarked"]),
  (.utf16 (some .big), ["utf_16_be", "utf_16be", "unicodebigunmarked"]),
  (.utf32 none, ["utf_32", "utf32", "u32"]),
  (.utf32 (some .little), ["utf_32_le", "utf_32le"]),
  (.utf32 (some .big), ["utf_32_be", "utf_32be"])]

/-- What the bytes from 128 to 159 stand for, where that is not their own number; 0 is nothing. -/
def windowsCodes : List Nat := [
  0x20AC, 0, 0x201A, 0x192, 0x201E, 0x2026, 0x2020, 0x2021, 0x2C6, 0x2030, 0x160, 0x2039, 0x152, 0,
  0x17D, 0, 0, 0x2018, 0x2019, 0x201C, 0x201D, 0x2022, 0x2013, 0x2014, 0x2DC, 0x2122, 0x161, 0x203A,
  0x153, 0, 0x17E, 0x178]

/-- The name of an encoding in its plain form: one underscore for what is no letter or digit. -/
def plainName (name : List Char) : String :=
  let parts := splitWords (fun c => !c.isAlphanum && c ≠ '.') name.length name
  "_".intercalate (parts.map fun p => String.ofList (p.map Char.toLower))

def Encoding.ofName (name : List Char) : Except Failure Encoding :=
  match encodingNames.find? (·.2.contains (plainName name)) with
  | some (e, _) => .ok e
  | none => .error (.unknownEncoding (String.ofList name))

/-- What is done about a character or a byte that has no counterpart. -/
inductive Remedy where
  | refuse | skip | substitute | backslash | reference | name
  deriving DecidableEq, Repr

def remedies : List (String × Remedy) := [
  ("strict", .refuse), ("ignore", .skip), ("replace", .substitute), ("surrogateescape", .refuse),
  ("surrogatepass", .refuse), ("backslashreplace", .backslash), ("xmlcharrefreplace", .reference),
  ("namereplace", .name)]

/-- The code point of a character behind a backslash. -/
def backslashed (c : Char) : List Char :=
  let n := c.toNat
  '\\' :: (if n < 0x100 then 'x' :: hexDigits 2 n
    else if n < 0x10000 then 'u' :: hexDigits 4 n else 'U' :: hexDigits 8 n)

/-- What takes the place of a character that cannot be encoded. -/
def Remedy.forChar (r : Remedy) (c : Char) : Except Failure (List Char) :=
  match r with
  | .refuse => .error .unencodableText
  | .skip => .ok []
  | .substitute => .ok ['?']
  | .backslash => .ok (backslashed c)
  | .reference => .ok ("&#".toList ++ Number.decimalDigits c.toNat ++ [';'])
  | .name => .ok (match nameOfCode? c.toNat with
    | some s => "\\N\x7b".toList ++ s.toList ++ ['\x7d']
    | none => backslashed c)

/-- What takes the place of bytes that cannot be decoded. -/
def Remedy.forBytes (r : Remedy) (data : List UInt8) : Except Failure (List Char) :=
  match r with
  | .refuse => .error .undecodableText
  | .skip => .ok []
  | .substitute => .ok [Char.ofNat 0xFFFD]
  | .backslash => .ok (data.flatMap fun b => '\\' :: 'x' :: hexDigits 2 b.toNat)
  | .reference | .name => misfit

/-- The remedy of a name. It is asked for only where one is needed. -/
def remedy (name : List Char) : Except Failure Remedy :=
  match remedies.lookup (String.ofList name) with
  | some r => .ok r
  | none => .error (.unknownRemedy (String.ofList name))

/-- Encodes a text by a byte for each character that has one. -/
def encodeBy (byte? : Char → Option UInt8) (errors : List Char) (s : List Char) :
    Except Failure (List UInt8) := do
  let parts ← s.mapM fun c =>
    match byte? c with
    | some b => Except.ok [b]
    | none => do return bytesOfChars (← (← remedy errors).forChar c)
  return parts.flatten

def byteBelow? (bound : Nat) (c : Char) : Option UInt8 :=
  if c.toNat < bound then some c.toNat.toUInt8 else none

def windowsByte? (c : Char) : Option UInt8 :=
  let n := c.toNat
  if n < 128 || (160 ≤ n && n < 256) then some n.toUInt8
  else (windowsCodes.findIdx? (· = n)).map fun i => (128 + i).toUInt8

/-- Units of `count` bytes, behind a mark where their order is not given. -/
def encodeUnits (order : Option ByteOrder) (count : Nat) (units : List Nat) : List UInt8 :=
  match order with
  | some o => units.flatMap (o.bytes count)
  | none => (byteOrderMark :: units).flatMap (ByteOrder.little.bytes count)

def Encoding.encode (e : Encoding) (errors : List Char) (s : List Char) :
    Except Failure (List UInt8) :=
  match e with
  | .utf8 marked =>
    let s := if marked then Char.ofNat byteOrderMark :: s else s
    .ok (String.ofList s).toUTF8.toList
  | .ascii => encodeBy (byteBelow? 128) errors s
  | .latin1 => encodeBy (byteBelow? 256) errors s
  | .windows => encodeBy windowsByte? errors s
  | .utf16 order => .ok (encodeUnits order 2 (s.flatMap units16))
  | .utf32 order => .ok (encodeUnits order 4 (s.map (·.toNat)))

/-- How many bytes a character takes that begins with a byte. -/
def leadLength (b : UInt8) : Nat :=
  if b < 0x80 then 1 else if b < 0xC2 then 0 else if b < 0xE0 then 2
  else if b < 0xF0 then 3 else if b < 0xF5 then 4 else 0

/-- Whether a byte can be the second one of a character. -/
def fitsSecond (lead b : UInt8) : Bool :=
  isTail b && (lead ≠ 0xE0 || 0xA0 ≤ b) && (lead ≠ 0xED || b < 0xA0) &&
    (lead ≠ 0xF0 || 0x90 ≤ b) && (lead ≠ 0xF4 || b < 0x90)

/-- How many bytes at the front go together without making a character. -/
def brokenLength : List UInt8 → Nat
  | [] => 0
  | lead :: rest =>
    match rest with
    | b :: rest =>
      if leadLength lead ≤ 1 || !fitsSecond lead b then 1
      else if leadLength lead = 4 && (rest.head?.map isTail).getD false then 3 else 2
    | [] => 1

/-- The first piece of bytes that are a text of characters of several bytes. -/
def piece8 (data : List UInt8) : Piece :=
  let count := leadLength (data.headD 0)
  match decodeUtf8 (data.take count) with
  | some [c] => ⟨count, some c⟩
  | _ => ⟨brokenLength data, none⟩

/-- The first piece where each byte is a character. -/
def pieceOf (character? : UInt8 → Option Char) (data : List UInt8) : Piece :=
  ⟨1, data.head?.bind character?⟩

def windowsCharacter? (b : UInt8) : Option Char :=
  let n := b.toNat
  if n < 128 || 160 ≤ n then some (Char.ofNat n)
  else ((windowsCodes[n - 128]?).filter (· ≠ 0)).map Char.ofNat

/-- Decodes bytes piece by piece; at most `fuel` of them are read. -/
def decodeWith (piece : List UInt8 → Piece) (errors : List Char) :
    Nat → List UInt8 → Except Failure (List Char)
  | 0, _ => .ok []
  | fuel + 1, data =>
    if data.isEmpty then .ok []
    else
      let p := piece data
      match p.character with
      | some c => do return c :: (← decodeWith piece errors fuel (data.drop p.length))
      | none => do
        let replacement ← (← remedy errors).forBytes (data.take p.length)
        return replacement ++ (← decodeWith piece errors fuel (data.drop p.length))

/-- The order that a mark at the front gives, and what follows the mark. -/
def orderOf (count : Nat) (data : List UInt8) : ByteOrder × List UInt8 :=
  let rest := data.drop count
  if data.take count = ByteOrder.little.bytes count byteOrderMark then (.little, rest)
  else if data.take count = ByteOrder.big.bytes count byteOrderMark then (.big, rest)
  else (.little, data)

def Encoding.decode (e : Encoding) (errors : List Char) (data : List UInt8) :
    Except Failure (List Char) :=
  let units (order : Option ByteOrder) (count : Nat) (piece : ByteOrder → List UInt8 → Piece) :=
    let (o, data) := match order with
      | some o => (o, data)
      | none => orderOf count data
    decodeWith (piece o) errors data.length data
  match e with
  | .utf8 marked =>
    let data := if marked && data.take 3 = [0xEF, 0xBB, 0xBF] then data.drop 3 else data
    decodeWith piece8 errors data.length data
  | .ascii =>
    let character? (b : UInt8) := if b < 128 then some (Char.ofNat b.toNat) else none
    decodeWith (pieceOf character?) errors data.length data
  | .latin1 => .ok (charsOfBytes data)
  | .windows => decodeWith (pieceOf windowsCharacter?) errors data.length data
  | .utf16 order => units order 2 ByteOrder.piece16
  | .utf32 order => units order 4 ByteOrder.piece32

/-- The names of an encoding and of what is done about errors, which may be left out. -/
def encodingArguments (args : List Value) : Except Failure (List Char × List Char) := do
  if 2 < args.length then misfit
  let name ← orElse text args.head? "utf-8".toList
  let errors ← orElse text args[1]? "strict".toList
  return (name, errors)

/-- Encodes a text as the arguments say. -/
def encoded (s : List Char) (args : List Value) : Except Failure (List UInt8) := do
  let (name, errors) ← encodingArguments args
  (← Encoding.ofName name).encode errors s

/-- Decodes bytes as the arguments say. No bytes are a text in every encoding. -/
def decoded (data : List UInt8) (args : List Value) : Except Failure (List Char) := do
  let (name, errors) ← encodingArguments args
  if data.isEmpty then return []
  (← Encoding.ofName name).decode errors data

end Overloads.Native
