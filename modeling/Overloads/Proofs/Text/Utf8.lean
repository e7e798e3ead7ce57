import Overloads.Text.Utf8

/-! Which bytes are read as a text: those that write its characters, each in its one form. -/
namespace Overloads.Text

/-- The bytes that write a text. -/
def encodeUtf8 (cs : List Char) : List UInt8 := cs.flatMap String.utf8EncodeChar

/-- The four forms in which bytes write a character, told apart by the first of them. -/
inductive Form : List UInt8 → Char → Prop
  | one {a : UInt8} (ha : a.toNat < 0x80) : Form [a] (Char.ofNat a.toNat)
  | two {a b : UInt8} {c : Char} (ha : 0xC0 ≤ a.toNat) (ha' : a.toNat < 0xE0) (hb : isTail b)
      (hc : scalar? 0x80 ((a.toNat - 0xC0) * 64 + tailBits b) = some c) : Form [a, b] c
  | three {a b d : UInt8} {c : Char} (ha : 0xE0 ≤ a.toNat) (ha' : a.toNat < 0xF0) (hb : isTail b)
      (hd : isTail d)
      (hc : scalar? 0x800 ((a.toNat - 0xE0) * 4096 + tailBits b * 64 + tailBits d) = some c) :
      Form [a, b, d] c
  | four {a b d e : UInt8} {c : Char} (ha : 0xF0 ≤ a.toNat) (ha' : a.toNat < 0xF8) (hb : isTail b)
      (hd : isTail d) (he : isTail e)
      (hc : scalar? 0x10000
        ((a.toNat - 0xF0) * 262144 + tailBits b * 4096 + tailBits d * 64 + tailBits e) = some c) :
      Form [a, b, d, e] c

variable {b : UInt8} {n least : Nat} {c : Char} {cs : List Char} {bytes data rest : List UInt8}

theorem encodeUtf8_cons :
    encodeUtf8 (c :: cs) = String.utf8EncodeChar c ++ encodeUtf8 cs := rfl

section Bits

theorem toNat_ofNat (h : n < 256) : (UInt8.ofNat n).toNat = n := UInt8.toNat_ofNat_of_lt' h

theorem isTail_iff : isTail b ↔ 0x80 ≤ b.toNat ∧ b.toNat < 0xC0 := by
  simp only [isTail, Bool.and_eq_true, decide_eq_true_eq]

theorem isTail_ofNat (n : Nat) : isTail (UInt8.ofNat (n % 64 + 128)) := by
  rw [isTail_iff, toNat_ofNat (by omega)]
  omega

theorem tailBits_ofNat (n : Nat) : tailBits (UInt8.ofNat (n % 64 + 128)) = n % 64 := by
  have h := toNat_ofNat (n := n % 64 + 128) (by omega)
  unfold tailBits
  omega

theorem tailBits_lt (hb : isTail b) : tailBits b < 64 := by
  have := isTail_iff.mp hb
  unfold tailBits
  omega

theorem ofNat_tailBits (hb : isTail b) : UInt8.ofNat (tailBits b + 128) = b := by
  have := isTail_iff.mp hb
  have h : tailBits b + 128 = b.toNat := by
    unfold tailBits
    omega
  rw [h, UInt8.ofNat_toNat]

theorem toNat_lt (c : Char) : c.toNat < 0x110000 := by
  rcases c.valid with h | ⟨-, h⟩
  · exact Nat.lt_trans h (by decide)
  · exact h

theorem scalar?_toNat (h : least ≤ c.toNat) : scalar? least c.toNat = some c := by
  have hv : c.toNat.isValidChar := c.valid
  rw [scalar?, dif_pos hv, if_pos h]
  exact congrArg some (Char.ext rfl)

theorem scalar?_eq_some (h : scalar? least n = some c) : c.toNat = n ∧ least ≤ n := by
  by_cases hv : n.isValidChar
  · rw [scalar?, dif_pos hv] at h
    by_cases hleast : least ≤ n
    · rw [if_pos hleast] at h
      cases h
      exact ⟨rfl, hleast⟩
    · rw [if_neg hleast] at h
      cases h
  · rw [scalar?, dif_neg hv] at h
    cases h

end Bits

/-- Every character has a form. -/
theorem form_encode (c : Char) : Form (String.utf8EncodeChar c) c := by
  have hlt := toNat_lt c
  unfold String.utf8EncodeChar
  simp only [show c.val.toNat = c.toNat from rfl]
  split
  · have ha := toNat_ofNat (n := c.toNat) (by omega)
    have h := Form.one (a := UInt8.ofNat c.toNat) (by omega)
    rwa [ha, Char.ofNat_toNat] at h
  split
  · have ha := toNat_ofNat (n := c.toNat / 64 % 32 + 192) (by omega)
    refine .two (by omega) (by omega) (isTail_ofNat _) ?_
    rw [ha, tailBits_ofNat, show (c.toNat / 64 % 32 + 192 - 192) * 64 + c.toNat % 64 = c.toNat by omega]
    exact scalar?_toNat (by omega)
  split
  · have ha := toNat_ofNat (n := c.toNat / 4096 % 16 + 224) (by omega)
    refine .three (by omega) (by omega) (isTail_ofNat _) (isTail_ofNat _) ?_
    rw [ha, tailBits_ofNat, tailBits_ofNat,
      show (c.toNat / 4096 % 16 + 224 - 224) * 4096 + c.toNat / 64 % 64 * 64 + c.toNat % 64 = c.toNat by
        omega]
    exact scalar?_toNat (by omega)
  · have ha := toNat_ofNat (n := c.toNat / 262144 % 8 + 240) (by omega)
    refine .four (by omega) (by omega) (isTail_ofNat _) (isTail_ofNat _) (isTail_ofNat _) ?_
    rw [ha, tailBits_ofNat, tailBits_ofNat, tailBits_ofNat,
      show (c.toNat / 262144 % 8 + 240 - 240) * 262144 + c.toNat / 4096 % 64 * 4096 +
        c.toNat / 64 % 64 * 64 + c.toNat % 64 = c.toNat by omega]
    exact scalar?_toNat (by omega)

namespace Form

/-- There is no second form: the least number of each rules out the forms with more bytes. -/
theorem eq_encode (h : Form bytes c) : bytes = String.utf8EncodeChar c := by
  unfold String.utf8EncodeChar
  simp only [show c.val.toNat = c.toNat from rfl]
  cases h with
  | @one a ha =>
    have hc : (Char.ofNat a.toNat).toNat = a.toNat := by
      rw [Char.ofNat, dif_pos (.inl (by omega))]
      rfl
    rw [hc, if_pos (by omega), UInt8.ofNat_toNat]
  | @two a b _ ha ha' hb hc =>
    obtain ⟨hc, hleast⟩ := scalar?_eq_some hc
    have := tailBits_lt hb
    have h₁ : c.toNat / 64 % 32 + 192 = a.toNat := by omega
    have h₂ : c.toNat % 64 = tailBits b := by omega
    rw [if_neg (by omega), if_pos (by omega), h₁, h₂, UInt8.ofNat_toNat, ofNat_tailBits hb]
  | @three a b d _ ha ha' hb hd hc =>
    obtain ⟨hc, hleast⟩ := scalar?_eq_some hc
    have := tailBits_lt hb
    have := tailBits_lt hd
    have h₁ : c.toNat / 4096 % 16 + 224 = a.toNat := by omega
    have h₂ : c.toNat / 64 % 64 = tailBits b := by omega
    have h₃ : c.toNat % 64 = tailBits d := by omega
    rw [if_neg (by omega), if_neg (by omega), if_pos (by omega), h₁, h₂, h₃, UInt8.ofNat_toNat,
      ofNat_tailBits hb, ofNat_tailBits hd]
  | @four a b d e _ ha ha' hb hd he hc =>
    obtain ⟨hc, hleast⟩ := scalar?_eq_some hc
    have := tailBits_lt hb
    have := tailBits_lt hd
    have := tailBits_lt he
    have h₁ : c.toNat / 262144 % 8 + 240 = a.toNat := by omega
    have h₂ : c.toNat / 4096 % 64 = tailBits b := by omega
    have h₃ : c.toNat / 64 % 64 = tailBits d := by omega
    have h₄ : c.toNat % 64 = tailBits e := by omega
    rw [if_neg (by omega), if_neg (by omega), if_neg (by omega), h₁, h₂, h₃, h₄, UInt8.ofNat_toNat,
      ofNat_tailBits hb, ofNat_tailBits hd, ofNat_tailBits he]

/-- A character that is written in front is read first. -/
theorem decodeUtf8_append (h : Form bytes c) :
    decodeUtf8 (bytes ++ rest) = (decodeUtf8 rest).map (c :: ·) := by
  cases h with
  | one ha =>
    simp only [List.singleton_append]
    rw [decodeUtf8.eq_def]
    simp only [ha, if_true]
  | two ha ha' hb hc =>
    simp only [List.cons_append, List.nil_append]
    rw [decodeUtf8.eq_def]
    simp only
    rw [if_neg (by omega), if_neg (by omega), if_pos ha', if_pos hb, hc]
    cases decodeUtf8 rest <;> rfl
  | three ha ha' hb hd hc =>
    simp only [List.cons_append, List.nil_append]
    rw [decodeUtf8.eq_def]
    simp only
    rw [if_neg (by omega), if_neg (by omega), if_neg (by omega), if_pos ha',
      if_pos (by simp [hb, hd]), hc]
    cases decodeUtf8 rest <;> rfl
  | four ha ha' hb hd he hc =>
    simp only [List.cons_append, List.nil_append]
    rw [decodeUtf8.eq_def]
    simp only
    rw [if_neg (by omega), if_neg (by omega), if_neg (by omega), if_neg (by omega), if_pos ha',
      if_pos (by simp [hb, hd, he]), hc]
    cases decodeUtf8 rest <;> rfl

theorem append_eq (h : Form bytes c) (hrest : rest = encodeUtf8 cs) :
    bytes ++ rest = encodeUtf8 (c :: cs) := by
  rw [encodeUtf8_cons, h.eq_encode, hrest]

end Form

theorem decodeUtf8_encodeUtf8 (cs : List Char) : decodeUtf8 (encodeUtf8 cs) = some cs := by
  induction cs with
  | nil => rfl
  | cons c cs ih =>
    rw [encodeUtf8_cons, (form_encode c).decodeUtf8_append, ih]
    rfl

/-- Bytes that are read as a text are those that write it. -/
theorem eq_encodeUtf8 (h : decodeUtf8 data = some cs) : data = encodeUtf8 cs := by
  fun_induction decodeUtf8 data generalizing cs with
  | case1 =>
    cases h
    rfl
  | case2 a rest n ha =>
    rename_i ih
    obtain ⟨cs, hcs, rfl⟩ := Option.map_eq_some_iff.mp h
    exact (Form.one ha).append_eq (ih hcs)
  | case4 a n ha ha' ha'' b rest hb =>
    rename_i ih
    simp only [Option.bind_eq_bind, Option.bind_eq_some_iff] at h
    obtain ⟨c, hc, cs, hcs, h⟩ := h
    cases h
    exact (Form.two (by omega) ha'' hb hc).append_eq (ih hcs)
  | case7 a n ha ha' ha'' ha₃ b d rest hb =>
    rename_i ih
    simp only [Option.bind_eq_bind, Option.bind_eq_some_iff] at h
    obtain ⟨c, hc, cs, hcs, h⟩ := h
    cases h
    obtain ⟨hb, hd⟩ := Bool.and_eq_true_iff.mp hb
    exact (Form.three (by omega) ha₃ hb hd hc).append_eq (ih hcs)
  | case10 a n ha ha' ha'' ha₃ ha₄ b d e rest hb =>
    rename_i ih
    simp only [Option.bind_eq_bind, Option.bind_eq_some_iff] at h
    obtain ⟨c, hc, cs, hcs, h⟩ := h
    cases h
    simp only [Bool.and_eq_true] at hb
    exact (Form.four (by omega) ha₄ hb.1.1 hb.1.2 hb.2 hc).append_eq (ih hcs)
  | _ => cases h

theorem decodeUtf8_eq_some_iff : decodeUtf8 data = some cs ↔ data = encodeUtf8 cs := by
  refine ⟨eq_encodeUtf8, ?_⟩
  rintro rfl
  exact decodeUtf8_encodeUtf8 cs

theorem unifyLineEnds_eq (h : '\r' ∉ cs) : unifyLineEnds cs = cs := by
  fun_induction unifyLineEnds cs with
  | case1 => rfl
  | case2 rest ih => simp at h
  | case3 rest hrest ih => simp at h
  | case4 c rest hcrlf hcr ih => rw [ih (List.not_mem_of_not_mem_cons h)]

end Overloads.Text
