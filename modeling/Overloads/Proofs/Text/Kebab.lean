import Overloads.Proofs.Text.LowerCase

/-! Where a name is parted by hyphens: one look at both neighbours of each capital decides. -/
namespace Overloads.Text

variable {a c : Char} {s : List Char}

/--
Whether a word begins at a place behind the first: a capital stands there, with a small letter or a
digit before it, or with a small letter after it and anything but a line break before it.
-/
def beginsWord (s : List Char) (i : Nat) : Bool :=
  0 < i && s[i]?.any isCapital &&
    (s[i - 1]?.any isSmallOrDigit || (s[i + 1]?.any isSmall && s[i - 1]?.any (· ≠ '\n')))

/-- The text with one hyphen before each place where a word begins, and with nothing else changed. -/
def hyphenated (s : List Char) : List Char :=
  s.zipIdx.flatMap fun (c, i) => if beginsWord s i then ['-', c] else [c]

/-- Whether a word begins with a character between two others, of which there may be none. -/
def opensWord (before : Option Char) (c : Char) (after : Option Char) : Bool :=
  isCapital c && before.any fun a => isSmallOrDigit a || (after.any isSmall && a ≠ '\n')

/-- Puts the hyphens in one pass over what stands behind a character, if there is one. -/
def hyphenate (before : Option Char) : List Char → List Char
  | [] => []
  | c :: rest =>
    (if opensWord before c rest.head? then ['-', c] else [c]) ++ hyphenate (some c) rest

theorem beginsWord_append (front : List Char) (c : Char) (rest : List Char) :
    beginsWord (front ++ c :: rest) front.length = opensWord front.getLast? c rest.head? := by
  have hafter : (front ++ c :: rest)[front.length + 1]? = rest.head? := by
    rw [List.getElem?_append_right (by omega), List.head?_eq_getElem?]
    simp
  cases hlast : front.getLast? with
  | none =>
    simp [List.getLast?_eq_none_iff.mp hlast, beginsWord, opensWord]
  | some a =>
    have hpos : 0 < front.length := by
      rw [List.length_pos_iff]
      rintro rfl
      cases hlast
    have hbefore : (front ++ c :: rest)[front.length - 1]? = some a := by
      rw [List.getElem?_append_left (by omega), ← List.getLast?_eq_getElem?, hlast]
    simp [beginsWord, opensWord, hafter, hbefore, hpos]

theorem flatMap_zipIdx_eq (front rest : List Char) :
    ((rest.zipIdx front.length).flatMap fun (c, i) =>
        if beginsWord (front ++ rest) i then ['-', c] else [c]) =
      hyphenate front.getLast? rest := by
  induction rest generalizing front with
  | nil => rfl
  | cons c rest ih =>
    have hrest := ih (front ++ [c])
    simp only [List.length_append, List.length_singleton, List.append_assoc, List.singleton_append,
      List.getLast?_append, List.getLast?_singleton, Option.some_or] at hrest
    rw [List.zipIdx_cons, List.flatMap_cons, hrest]
    dsimp only
    rw [beginsWord_append, hyphenate]

/-- One pass finds all places at which words begin. -/
theorem hyphenated_eq (s : List Char) : hyphenated s = hyphenate none s :=
  flatMap_zipIdx_eq [] s

theorem sublist_hyphenate (before : Option Char) (s : List Char) :
    s.Sublist (hyphenate before s) := by
  induction s generalizing before with
  | nil => exact List.Sublist.refl []
  | cons c rest ih =>
    rw [hyphenate]
    split
    · exact ((ih (some c)).cons_cons c).cons '-'
    · exact (ih (some c)).cons_cons c

theorem hyphenate_of_no_capital (h : ∀ c ∈ s, isCapital c = false) (before : Option Char) :
    hyphenate before s = s := by
  induction s generalizing before with
  | nil => rfl
  | cons c rest ih =>
    have hc := h c List.mem_cons_self
    rw [hyphenate, ih fun d hd => h d (List.mem_cons_of_mem c hd)]
    simp [opensWord, hc]

theorem not_smallOrDigit_of_capital (h : isCapital c = true) : isSmallOrDigit c = false := by
  rw [Bool.eq_false_iff]
  simp only [isCapital, isSmallOrDigit, isSmall, Ne, Bool.or_eq_true, Bool.and_eq_true,
    decide_eq_true_eq, Char.le_def, UInt32.le_iff_toNat_le] at h ⊢
  have hvalues : 'A'.val.toNat = 65 ∧ 'Z'.val.toNat = 90 ∧ 'a'.val.toNat = 97 ∧
      '9'.val.toNat = 57 := by decide
  omega

theorem not_capital_of_small (h : isSmall c = true) : isCapital c = false := by
  rw [Bool.eq_false_iff]
  intro hcapital
  have hnot := not_smallOrDigit_of_capital hcapital
  simp [isSmallOrDigit, h] at hnot

theorem splitAtCapitals_cons_of_not (h : isSmallOrDigit c = false) (rest : List Char) :
    splitAtCapitals (c :: rest) = c :: splitAtCapitals rest := by
  cases rest with
  | nil => rfl
  | cons b rest => simp [splitAtCapitals, h]

theorem splitAtCapitals_cons_cons (a b : Char) (rest : List Char) :
    splitAtCapitals (a :: b :: rest) =
      a :: ((if isSmallOrDigit a && isCapital b then ['-'] else []) ++
        splitAtCapitals (b :: rest)) := by
  rw [splitAtCapitals]
  split
  next h =>
    have hcapital : isCapital b = true := (Bool.and_eq_true_iff.mp h).2
    rw [splitAtCapitals_cons_of_not (not_smallOrDigit_of_capital hcapital)]
    rfl
  next => rfl

theorem hyphenate_cons (before : Option Char) (c : Char) (rest : List Char) :
    hyphenate before (c :: rest) =
      (if opensWord before c rest.head? then ['-'] else []) ++ c :: hyphenate (some c) rest := by
  rw [hyphenate]
  split <;> rfl

theorem hyphenate_none (c : Char) (rest : List Char) :
    hyphenate none (c :: rest) = c :: hyphenate (some c) rest := by
  simp [hyphenate_cons, opensWord]

/-- Where no capitalized pair begins, only a small letter or a digit before a capital counts. -/
theorem opensWord_eq_of_not_pair {after : Option Char}
    (h : isSmallOrDigit a = true ∨ (a ≠ '\n' && isCapital c && after.any isSmall) = false) :
    opensWord (some a) c after = (isSmallOrDigit a && isCapital c) := by
  rw [opensWord, Option.any_some]
  rcases h with hsmall | hpair
  · simp [hsmall]
  · cases hcapital : isCapital c with
    | false => simp
    | true =>
      have hnot : (after.any isSmall && a ≠ '\n') = false := by
        rw [hcapital, Bool.and_true, Bool.and_comm] at hpair
        exact hpair
      rw [hnot, Bool.or_false, Bool.and_comm]

/-- A text keeps its first character in front. -/
theorem exists_splitCapitalized (a : Char) (rest : List Char) :
    ∃ more, splitCapitalized false (a :: rest) = a :: more := by
  match rest with
  | [] => exact ⟨[], by simp [splitCapitalized]⟩
  | [b] => exact ⟨[b], by simp [splitCapitalized]⟩
  | b :: c :: rest =>
    rw [splitCapitalized]
    split <;> exact ⟨_, rfl⟩

/--
The capitals that the first of two passes leaves out for standing where a pair ends are found by the
second, and no others. The small letter that a pair has ended with so far is `before`.
-/
theorem splitAtCapitals_splitCapitalized (before : Option Char)
    (h : ∀ a ∈ before, isSmall a = true) (s : List Char) :
    splitAtCapitals (before.toList ++ splitCapitalized before.isSome s) =
      before.toList ++ hyphenate before s := by
  generalize hin : before.isSome = inPair
  induction inPair, s using splitCapitalized.induct generalizing before with
  | case1 c rest hsmall ih =>
    obtain ⟨a, rfl⟩ := Option.isSome_iff_exists.mp hin
    have hrest := ih (some c) (by simpa using hsmall) rfl
    simp only [Option.toList_some, List.singleton_append] at hrest ⊢
    rw [splitCapitalized, if_pos hsmall, splitAtCapitals_cons_cons, hrest, hyphenate_cons]
    simp [opensWord, not_capital_of_small hsmall]
  | case2 c rest hsmall ih =>
    obtain ⟨a, rfl⟩ := Option.isSome_iff_exists.mp hin
    have hopens : opensWord (some a) c rest.head? = (isSmallOrDigit a && isCapital c) :=
      opensWord_eq_of_not_pair (Or.inl (by simp [isSmallOrDigit, h a rfl]))
    have hrest := ih none (by simp) rfl
    obtain ⟨more, hmore⟩ := exists_splitCapitalized c rest
    simp only [Option.toList_some, Option.toList_none, List.singleton_append,
      List.nil_append] at hrest ⊢
    rw [hmore] at hrest
    rw [splitCapitalized, if_neg hsmall, hmore, splitAtCapitals_cons_cons, hrest, hyphenate_none,
      hyphenate_cons, hopens]
  | case3 a b c rest hwords ih =>
    obtain rfl := Option.isNone_iff_eq_none.mp (by simpa using hin)
    obtain ⟨⟨hline, hcapital⟩, hsmall⟩ : (a ≠ '\n' ∧ isCapital b = true) ∧ isSmall c = true := by
      simpa using hwords
    have hopens : opensWord (some a) b (some c) = true := by
      simp [opensWord, hline, hcapital, hsmall]
    have hb := not_smallOrDigit_of_capital hcapital
    have hhyphen : isSmallOrDigit '-' = false ∧ isCapital '-' = false := by decide
    have hrest := ih (some c) (by simpa using hsmall) rfl
    simp only [Option.toList_some, Option.toList_none, List.singleton_append,
      List.nil_append] at hrest ⊢
    rw [splitCapitalized, if_pos hwords, splitAtCapitals_cons_cons,
      splitAtCapitals_cons_of_not hhyphen.1, splitAtCapitals_cons_of_not hb, hrest, hyphenate_none,
      hyphenate_cons, List.head?_cons, hopens, hyphenate_cons]
    simp [opensWord, hhyphen, not_capital_of_small hsmall]
  | case4 a b c rest hwords ih =>
    obtain rfl := Option.isNone_iff_eq_none.mp (by simpa using hin)
    have hopens : opensWord (some a) b (some c) = (isSmallOrDigit a && isCapital b) :=
      opensWord_eq_of_not_pair (Or.inr (by simpa using hwords))
    have hrest := ih none (by simp) rfl
    obtain ⟨more, hmore⟩ := exists_splitCapitalized b (c :: rest)
    simp only [Option.toList_none, List.nil_append] at hrest ⊢
    rw [hmore, hyphenate_none] at hrest
    rw [splitCapitalized, if_neg hwords, hmore, splitAtCapitals_cons_cons, hrest, hyphenate_none,
      hyphenate_cons (some a), List.head?_cons, hopens]
  | case5 inPair s hpair hwords =>
    -- No capital here has a small letter after it, so the first pass has nothing to do.
    rw [splitCapitalized.eq_3 inPair s hpair hwords]
    match s, before with
    | [], none => rfl
    | [], some a => rfl
    | [a], none => exact (hyphenate_none a []).symm
    | [a, b], none =>
      have hopens : opensWord (some a) b none = (isSmallOrDigit a && isCapital b) :=
        opensWord_eq_of_not_pair (Or.inr (by simp))
      rw [Option.toList_none, List.nil_append, List.nil_append, splitAtCapitals_cons_cons,
        hyphenate_none, hyphenate_cons, List.head?_nil, hopens]
      rfl
    | a :: b :: c :: rest, none => exact (hwords a b c rest hin.symm rfl).elim
    | c :: rest, some a => exact (hpair c rest hin.symm rfl).elim

/--
A name is parted before each place where a word begins, with one hyphen and with nothing lost, and its
lower case is taken then. What comes out is left as it is by the same.
-/
theorem kebab_eq_hyphenated (s : String) :
    kebab s = String.ofList (lowerText (hyphenated s.toList)) ∧
      s.toList.Sublist (hyphenated s.toList) ∧ kebab (kebab s) = kebab s := by
  have hkebab (t : String) : kebab t = String.ofList (lowerText (hyphenate none t.toList)) := by
    rw [kebab]
    exact congrArg _ (congrArg _ (splitAtCapitals_splitCapitalized none (by simp) _))
  refine ⟨by rw [hyphenated_eq, hkebab], ?_, ?_⟩
  · rw [hyphenated_eq]
    exact sublist_hyphenate none s.toList
  · have hlowered : ∀ c ∈ (kebab s).toList, isCapital c = false := by
      rw [hkebab s, String.toList_ofList]
      exact fun c hc => (isLowered_of_mem_lowerText hc).isCapital
    rw [hkebab (kebab s), hyphenate_of_no_capital hlowered, hkebab s, String.toList_ofList,
      lowerText_lowerText]

/-- Capitals in a row are one word up to the last, which goes with the small letters after it. -/
example : hyphenated "HTTPServer2Go-Up".toList = "HTTP-Server2-Go--Up".toList := by decide

end Overloads.Text
