import Overloads.Text.Kebab

/-! Lower case has no capitals and is its own lower case. -/
namespace Overloads.Text

variable {r q : CaseRow} {c d : Char} {s before after : List Char} {n : Nat}

namespace CaseRow

/-- The code point that a row gives for one of its own. -/
def image (r : CaseRow) (n : Nat) : Nat := Int.toNat (n + r.shift)

theorem holds_iff :
    r.holds n = true ↔ r.first ≤ n ∧ n ≤ r.last ∧ (n - r.first) % r.step = 0 := by
  simp [holds, and_assoc]

/--
Whether another row has nothing of what a row gives: that lies outside its bounds, or between its
members if these are every second code point.
-/
def clears (r q : CaseRow) : Bool :=
  (r.image r.last).blt q.first || q.last.blt (r.image r.first) ||
    (q.step == 2 && (r.step == 2 || r.first == r.last) && Nat.blt 0 (r.image r.first) &&
      (r.image r.first + q.first) % 2 == 1)

theorem not_holds_image (h : r.clears q = true) (hn : r.holds n = true) :
    q.holds (r.image n) = false := by
  obtain ⟨hfirst, hlast, hstep⟩ := holds_iff.mp hn
  rw [Bool.eq_false_iff]
  intro hq
  obtain ⟨hqfirst, hqlast, hqstep⟩ := holds_iff.mp hq
  simp only [clears, Nat.blt_eq, Bool.or_eq_true, Bool.and_eq_true, beq_iff_eq] at h
  simp only [image] at h hqfirst hqlast hqstep
  rcases h with (hbelow | habove) | ⟨⟨⟨htwo, hr⟩, hpos⟩, hodd⟩
  · omega
  · omega
  · rw [htwo] at hqstep
    rcases hr with hr | hr
    · rw [hr] at hstep
      omega
    · omega

end CaseRow

theorem clears_lowerRows : (lowerRows.all fun r => lowerRows.all r.clears) = true := by
  decide +kernel

/-- That no row has the character. Such a one is its own lower case wherever it stands. -/
def IsLowered (c : Char) : Prop := ∀ r ∈ lowerRows, r.holds c.toNat = false

instance (c : Char) : Decidable (IsLowered c) :=
  inferInstanceAs (Decidable (∀ r ∈ lowerRows, r.holds c.toNat = false))

theorem isLowered_of_image (hr : r ∈ lowerRows) (hn : r.holds n = true) (hc : c.toNat = r.image n) :
    IsLowered c := by
  intro q hq
  rw [hc]
  have hclears := List.all_eq_true.mp (List.all_eq_true.mp clears_lowerRows r hr) q hq
  exact CaseRow.not_holds_image hclears hn

/-- The row of the capitals of ASCII. -/
def asciiRow : CaseRow := ⟨65, 90, 1, 32⟩

theorem asciiRow_mem : asciiRow ∈ lowerRows := List.mem_cons_self

theorem holds_asciiRow : asciiRow.holds c.toNat = isCapital c := by
  simp [CaseRow.holds, asciiRow, isCapital, Char.le_def, UInt32.le_iff_toNat_le, Nat.mod_one]
  rfl

/-- No other row begins before the end of ASCII. -/
theorem first_of_lowerRows (hr : r ∈ lowerRows) : r = asciiRow ∨ 128 ≤ r.first := by
  have hrest : lowerRows.tail.all (fun r => Nat.ble 128 r.first) = true := by decide
  rcases List.mem_cons.mp hr with rfl | hr
  · exact Or.inl rfl
  · exact Or.inr (Nat.le_of_ble_eq_true (List.all_eq_true.mp hrest r hr))

theorem isLowered_of_ascii (hc : c.toNat < 128) (hcapital : isCapital c = false) : IsLowered c := by
  intro r hr
  rcases first_of_lowerRows hr with rfl | hfirst
  · rw [holds_asciiRow, hcapital]
  · rw [Bool.eq_false_iff, Ne, CaseRow.holds_iff]
    omega

theorem IsLowered.isCapital (h : IsLowered c) : isCapital c = false := by
  rw [← holds_asciiRow]
  exact h asciiRow asciiRow_mem

theorem toLower_of_not_capital (h : isCapital c = false) : c.toLower = c := by
  have hbounds : ¬ (c.val ≥ 'A'.val ∧ c.val ≤ 'Z'.val) := by
    simpa [isCapital, Char.le_def] using h
  exact dif_neg hbounds

theorem toNat_toLower (h : isCapital c = true) : c.toLower.toNat = asciiRow.image c.toNat := by
  have hbounds : c.val ≥ 'A'.val ∧ c.val ≤ 'Z'.val := by
    simpa [isCapital, Char.le_def] using h
  have hlast : c.toNat ≤ 90 := hbounds.2
  have hvalue : (c.val + ('a'.val - 'A'.val)).toNat = c.toNat + 32 := by
    rw [UInt32.toNat_add]
    exact Nat.mod_eq_of_lt (Nat.lt_of_le_of_lt (Nat.add_le_add_right hlast 32) (by decide))
  have hlower : c.toLower.toNat = (c.val + ('a'.val - 'A'.val)).toNat :=
    congrArg Char.toNat (dif_pos hbounds)
  exact hlower.trans hvalue

theorem lower_of_isLowered (h : IsLowered c) : lower c = c := by
  unfold lower
  split
  · exact toLower_of_not_capital h.isCapital
  · have hnone : lowerRows.find? (·.holds c.toNat) = none := by
      rw [List.find?_eq_none]
      intro r hr
      simp [h r hr]
    rw [hnone]

theorem toNat_ofNat_eq_or (n : Nat) : (Char.ofNat n).toNat = n ∨ (Char.ofNat n).toNat = 0 := by
  by_cases h : n.isValidChar
  · exact Or.inl (congrArg Char.toNat (dif_pos h))
  · exact Or.inr (congrArg Char.toNat (dif_neg h))

theorem isLowered_of_zero (h : c.toNat = 0) : IsLowered c := by
  apply isLowered_of_ascii (by omega)
  rw [← holds_asciiRow, h]
  rfl

theorem isLowered_lower (c : Char) : IsLowered (lower c) := by
  unfold lower
  split
  next hascii =>
    cases hcapital : isCapital c with
    | true =>
      exact isLowered_of_image asciiRow_mem (holds_asciiRow.trans hcapital) (toNat_toLower hcapital)
    | false =>
      rw [toLower_of_not_capital hcapital]
      exact isLowered_of_ascii hascii hcapital
  next =>
    split
    next r hr =>
      have hheld := List.find?_some hr
      rcases toNat_ofNat_eq_or (r.image c.toNat) with himage | hzero
      · exact isLowered_of_image (List.mem_of_find?_eq_some hr) hheld himage
      · exact isLowered_of_zero hzero
    next hnone =>
      intro r hr
      simpa using List.find?_eq_none.mp hnone r hr

theorem isLowered_of_mem_lowerBetween (h : d ∈ lowerBetween before c after) : IsLowered d := by
  have hsigmas : IsLowered 'ς' ∧ IsLowered 'σ' := by decide +kernel
  have hdotted : IsLowered 'i' ∧ IsLowered (Char.ofNat 0x307) := by decide +kernel
  unfold lowerBetween at h
  split at h
  · split at h
    · rw [List.mem_singleton.mp h]
      exact hsigmas.1
    · rw [List.mem_singleton.mp h]
      exact hsigmas.2
  · split at h
    · simp only [List.mem_cons, List.not_mem_nil, or_false] at h
      rcases h with rfl | rfl
      · exact hdotted.1
      · exact hdotted.2
    · rw [List.mem_singleton.mp h]
      exact isLowered_lower c

/-- What a text becomes has no row, whatever stands before it. -/
theorem isLowered_of_mem_lowerFrom (h : d ∈ lowerFrom before s) : IsLowered d := by
  induction s generalizing before with
  | nil => cases h
  | cons c rest ih =>
    rcases List.mem_append.mp h with h | h
    · exact isLowered_of_mem_lowerBetween h
    · exact ih h

theorem isLowered_of_mem_lowerText (h : d ∈ lowerText s) : IsLowered d :=
  isLowered_of_mem_lowerFrom h

/-- The two characters whose lower case hangs on more than themselves are in rows. -/
theorem lowerBetween_of_isLowered (h : IsLowered c) : lowerBetween before c after = [c] := by
  have hsigma : ¬ ∀ r ∈ lowerRows, r.holds 0x3A3 = false := by decide +kernel
  have hdotted : ¬ ∀ r ∈ lowerRows, r.holds 0x130 = false := by decide +kernel
  have hnotSigma : c.toNat ≠ 0x3A3 := fun hc => hsigma (hc ▸ h)
  have hnotDotted : c.toNat ≠ 0x130 := fun hc => hdotted (hc ▸ h)
  rw [lowerBetween, if_neg hnotSigma, if_neg hnotDotted, lower_of_isLowered h]

theorem lowerFrom_of_isLowered (h : ∀ c ∈ s, IsLowered c) : lowerFrom before s = s := by
  induction s generalizing before with
  | nil => rfl
  | cons c rest ih =>
    rw [lowerFrom, lowerBetween_of_isLowered (h c List.mem_cons_self),
      ih fun d hd => h d (List.mem_cons_of_mem c hd)]
    rfl

theorem lowerText_lowerText (s : List Char) : lowerText (lowerText s) = lowerText s :=
  lowerFrom_of_isLowered fun _ => isLowered_of_mem_lowerText

end Overloads.Text
