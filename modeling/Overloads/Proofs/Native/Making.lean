import Overloads.Native.Making
import Overloads.Proofs.Refusal

/-! Making a value of a native class never fails the way a routine refuses a call. -/
namespace Overloads

namespace Value

@[simp] theorem unrefused_doubleOfInt (n : Int) : Unrefused (doubleOfInt n) := by
  unfold doubleOfInt
  split <;> simp

@[simp] theorem unrefused_doubleOfRatio (num : Int) (den : Nat) :
    Unrefused (doubleOfRatio num den) := by
  unfold doubleOfRatio
  split <;> simp

@[simp] theorem unrefused_readIntegerOr (v : Value) (s : List Char) :
    Unrefused (v.readIntegerOr s) := by
  unfold readIntegerOr
  split <;> simp

@[simp] theorem unrefused_readDecimalOr (v : Value) (s : List Char) :
    Unrefused (v.readDecimalOr s) := by
  unfold readDecimalOr
  split <;> simp

@[simp] theorem unrefused_toInteger (v : Value) : Unrefused v.toInteger := by
  unfold toInteger
  split
  case h_8 => split <;> simp
  all_goals simp

@[simp] theorem unrefused_toDouble (v : Value) : Unrefused v.toDouble := by
  unfold toDouble
  split
  case h_9 => split <;> simp
  all_goals simp

@[simp] theorem unrefused_makeCharacter (v : Value) : Unrefused v.makeCharacter := by
  unfold makeCharacter
  split <;> simp

@[simp] theorem unrefused_key (v : Value) : Unrefused v.key := by simp [key]

@[simp] theorem unrefused_ofPairs (pairs : List (Value × Value)) : Unrefused (ofPairs pairs) := by
  simp only [ofPairs, unrefused_bind, unrefused_pure, implies_true, and_true]
  exact unrefused_foldlM (by simp) pairs []

@[simp] theorem unrefused_distinct (values : List Value) : Unrefused (distinct values) :=
  unrefused_foldlM (by simp) values []

end Value

theorem Cast.unrefused_apply (c : Cast) (v : Value) : Unrefused (c.apply v) := by
  cases c <;> simp [Cast.apply]

namespace Native

variable {α : Type}

@[simp] theorem unrefused_misfit : Unrefused (misfit : Except Failure α) := by simp [misfit]

@[simp] theorem unrefused_integer (v : Value) : Unrefused (integer v) := by simp [integer]

@[simp] theorem unrefused_size (v : Value) : Unrefused (size v) := by simp [size]

@[simp] theorem unrefused_text (v : Value) : Unrefused (text v) := by simp [text]

@[simp] theorem unrefused_bytes (v : Value) : Unrefused (bytes v) := by simp [bytes]

@[simp] theorem unrefused_orElse {read : Value → Except Failure α} (h : ∀ v, Unrefused (read v))
    (v : Option Value) (default : α) : Unrefused (orElse read v default) := by
  cases v <;> simp [orElse, h]

@[simp] theorem unrefused_ofName (name : List Char) : Unrefused (Encoding.ofName name) := by
  unfold Encoding.ofName
  split <;> simp

@[simp] theorem unrefused_remedy (name : List Char) : Unrefused (remedy name) := by
  unfold remedy
  split <;> simp

@[simp] theorem unrefused_forChar (r : Remedy) (c : Char) : Unrefused (r.forChar c) := by
  cases r <;> simp [Remedy.forChar]

@[simp] theorem unrefused_forBytes (r : Remedy) (data : List UInt8) :
    Unrefused (r.forBytes data) := by
  cases r <;> simp [Remedy.forBytes]

@[simp] theorem unrefused_encodeBy (byte? : Char → Option UInt8) (errors s : List Char) :
    Unrefused (encodeBy byte? errors s) := by
  simp only [encodeBy, unrefused_bind, unrefused_pure, implies_true, and_true]
  apply unrefused_mapM
  intro c _
  split <;> simp

@[simp] theorem unrefused_encode (e : Encoding) (errors s : List Char) :
    Unrefused (e.encode errors s) := by
  cases e <;> simp [Encoding.encode]

@[simp] theorem unrefused_decodeWith (piece : List UInt8 → Text.Piece) (errors : List Char)
    (fuel : Nat) (data : List UInt8) : Unrefused (decodeWith piece errors fuel data) := by
  induction fuel generalizing data with
  | zero => simp [decodeWith]
  | succ fuel ih =>
    simp only [decodeWith, unrefused_ite, unrefused_ok, implies_true, true_and]
    intro _
    split <;> simp [ih]

@[simp] theorem unrefused_decode (e : Encoding) (errors : List Char) (data : List UInt8) :
    Unrefused (e.decode errors data) := by
  cases e <;> simp [Encoding.decode]

@[simp] theorem unrefused_encodingArguments (args : List Value) :
    Unrefused (encodingArguments args) := by
  simp [encodingArguments]

@[simp] theorem unrefused_encoded (s : List Char) (args : List Value) :
    Unrefused (encoded s args) := by
  simp [encoded]

@[simp] theorem unrefused_decoded (data : List UInt8) (args : List Value) :
    Unrefused (decoded data args) := by
  simp [decoded]

@[simp] theorem unrefused_fromHex (v : Value) : Unrefused (fromHex v) := by
  simp only [fromHex, unrefused_bind, unrefused_text, true_and]
  intro s _
  split <;> simp

@[simp] theorem unrefused_byteNamed (what : String) (v : Value) : Unrefused (byteNamed what v) := by
  simp [byteNamed]

@[simp] theorem unrefused_quotient (a b : Int × Nat) : Unrefused (quotient a b) := by
  simp [quotient]

@[simp] theorem unrefused_doubleRatio (x : Number.Binary64) : Unrefused (doubleRatio x) := by
  unfold doubleRatio
  split <;> simp

@[simp] theorem unrefused_fractionOf (v : Value) : Unrefused (fractionOf v) := by
  unfold fractionOf
  dsimp only
  split
  case h_3 => split <;> simp
  all_goals simp

@[simp] theorem unrefused_integerIn (v base : Value) : Unrefused (integerIn v base) := by
  simp only [integerIn, unrefused_bind, unrefused_integer, true_and]
  intro b _
  split
  · simp
  · split
    case h_3 => simp [misfit]
    all_goals
      simp only [pure_bind]
      split <;> simp

@[simp] theorem unrefused_makeInteger (args : List Value) : Unrefused (makeInteger args) := by
  unfold makeInteger
  split <;> simp

@[simp] theorem unrefused_makeDouble (args : List Value) : Unrefused (makeDouble args) := by
  unfold makeDouble
  split <;> simp

@[simp] theorem unrefused_complexOf (v : Value) : Unrefused (complexOf v) := by
  unfold complexOf
  split <;> simp

@[simp] theorem unrefused_makeComplex (args : List Value) : Unrefused (makeComplex args) := by
  unfold makeComplex
  split
  case h_2 =>
    split
    · split <;> simp
    · simp
  all_goals simp

@[simp] theorem unrefused_makeText (args : List Value) : Unrefused (makeText args) := by
  unfold makeText
  split <;> simp

@[simp] theorem unrefused_makeBytes (what : String) (args : List Value) :
    Unrefused (makeBytes what args) := by
  unfold makeBytes
  split
  case h_2 =>
    split
    case h_3 => split <;> simp [unrefused_mapM]
    all_goals simp
  all_goals simp

@[simp] theorem unrefused_makeItems (args : List Value) : Unrefused (makeItems args) := by
  unfold makeItems
  split <;> simp

@[simp] theorem unrefused_pairsFrom (place : Nat) (items : List Value) :
    Unrefused (pairsFrom place items) := by
  induction items generalizing place with
  | nil => simp [pairsFrom]
  | cons item rest ih =>
    unfold pairsFrom
    split <;> simp [ih]

@[simp] theorem unrefused_makeMapping (args : List Value) : Unrefused (makeMapping args) := by
  unfold makeMapping
  split
  case h_2 => split <;> simp
  all_goals simp

@[simp] theorem unrefused_makeRange (args : List Value) : Unrefused (makeRange args) := by
  unfold makeRange
  dsimp only
  split <;> simp

@[simp] theorem unrefused_makeSlice (args : List Value) : Unrefused (makeSlice args) := by
  unfold makeSlice
  dsimp only
  split <;> simp

@[simp] theorem unrefused_makeFraction (args : List Value) : Unrefused (makeFraction args) := by
  unfold makeFraction
  split
  case h_4 => split <;> simp
  all_goals simp

@[simp] theorem unrefused_makeError (c : ClassName) (args : List Value) :
    Unrefused (makeError c args) := by
  simp [makeError]

@[simp] theorem unrefused_makeBuiltin (name : String) (args : List Value) :
    Unrefused (makeBuiltin name args) := by
  unfold makeBuiltin
  dsimp only
  split <;> simp

theorem unrefused_make (c : ClassName) (args : List Value) : Unrefused (make c args) := by
  unfold make
  split
  · simp
  · split
    · simp
    · split
      · simp
      · split
        · simp
        · simp only [unrefused_ite, unrefused_map, unrefused_makeDouble, unrefused_misfit,
            implies_true, true_and, and_true]
          intro _ _
          split <;> simp

end Native

end Overloads
