import Overloads.Proofs.Text.Identifier
import Overloads.Text.Kebab

/-! Identifiers that are made up are valid, and counting on finds one that is not taken. -/
namespace Overloads.Text

variable {s t base name : String} {taken bases : List String} {n : Nat}

/-- That a text is a letter or an underscore, and letters, digits and underscores after it. -/
def IsIdentifier (s : String) : Prop :=
  ∃ c cs, s.toList = c :: cs ∧ (c.isAlpha = true ∨ c = '_') ∧
    ∀ d ∈ cs, isIdentifierChar d = true

theorem IsIdentifier.append (hs : IsIdentifier s)
    (ht : ∀ c ∈ t.toList, isIdentifierChar c = true) : IsIdentifier (s ++ t) := by
  obtain ⟨c, cs, hlist, hfirst, hrest⟩ := hs
  refine ⟨c, cs ++ t.toList, by simp [hlist], hfirst, ?_⟩
  intro d hd
  rcases List.mem_append.mp hd with hd | hd
  · exact hrest d hd
  · exact ht d hd

theorem isIdentifier_identifierText (name : String) :
    IsIdentifier (identifierText name defaultFallback) := by
  have hfallback : IsIdentifier defaultFallback :=
    ⟨'r', _, rfl, Or.inl rfl, List.all_eq_true.mp (by rfl)⟩
  have hkept : ∀ c ∈ name.toList.filter isIdentifierChar, isIdentifierChar c = true :=
    fun c hc => (List.mem_filter.mp hc).2
  unfold identifierText
  split
  · exact hfallback
  · rename_i first rest hlist
    rw [hlist] at hkept
    split
    · exact hfallback.append (by simpa using hkept)
    · rename_i hdigit
      refine ⟨first, rest, by simp, ?_, fun d hd => hkept d (List.mem_cons_of_mem _ hd)⟩
      have hfirst := hkept first List.mem_cons_self
      simpa [isIdentifierChar, Char.isAlphanum, hdigit] using hfirst

theorem isIdentifier_identifier (name : String) :
    IsIdentifier (identifier name defaultFallback) := by
  have htext := isIdentifier_identifierText
    (String.ofList (name.toList.map fun c => if c = '-' then '_' else c))
  simp only [identifier]
  split
  · exact htext.append (by simp [isIdentifierChar])
  · exact htext

theorem identifier_notMem_keywords (name fallback : String) :
    identifier name fallback ∉ keywords := by
  have hextended : ∀ s ∈ keywords, s ++ "_" ∉ keywords := by decide
  simp only [identifier]
  split
  · rename_i hkeyword
    exact hextended _ hkeyword
  · assumption

/-- Only a capital with something behind it begins a word of small letters. -/
theorem splitCapitalized_of_noCapital (inPair : Bool) (s : List Char)
    (h : ∀ c ∈ s.dropLast, isCapital c = false) : splitCapitalized inPair s = s := by
  induction inPair, s using splitCapitalized.induct with
  | case1 c rest hsmall ih =>
    rw [splitCapitalized, if_pos hsmall, ih]
    intro d hd
    apply h
    cases rest with
    | nil => cases hd
    | cons => exact List.mem_cons_of_mem _ hd
  | case2 c rest hsmall ih => rw [splitCapitalized, if_neg hsmall, ih h]
  | case3 a b c rest hwords ih =>
    have hb : isCapital b = false := h b (by simp)
    simp [hb] at hwords
  | case4 a b c rest hwords ih =>
    rw [splitCapitalized, if_neg hwords, ih]
    intro d hd
    exact h d (List.mem_cons_of_mem _ hd)
  | case5 => rw [splitCapitalized] <;> assumption

theorem kebab_of_noCapital (h : s.toList.dropLast.any isCapital = false) :
    kebab s = String.ofList (lowerText (splitAtCapitals s.toList)) := by
  rw [kebab, splitCapitalized_of_noCapital false _ (by simpa using h)]

/-- What an identifier keeps of a text. -/
def kept (s : String) : List Char :=
  (s.toList.map fun c => if c = '-' then '_' else c).filter isIdentifierChar

/-- An identifier begins with what it keeps of the beginning of its name, unless that is a digit. -/
theorem kept_isPrefix_identifier (hs : ∃ c cs, kept s = c :: cs ∧ c.isDigit = false)
    (name fallback : String) : kept s <+: (identifier (s ++ name) fallback).toList := by
  obtain ⟨c, cs, hkept, hdigit⟩ := hs
  have htext : identifierText (String.ofList ((s ++ name).toList.map fun c =>
      if c = '-' then '_' else c)) fallback = String.ofList (kept s ++ kept name) := by
    have hall : ((s ++ name).toList.map fun c => if c = '-' then '_' else c).filter
        isIdentifierChar = c :: (cs ++ kept name) := by
      rw [String.toList_append, List.map_append, List.filter_append, ← List.cons_append, ← hkept]
      rfl
    rw [identifierText, String.toList_ofList, hall, hkept]
    simp [hdigit]
  rw [identifier, htext]
  split <;> simp [List.append_assoc]

/-- What is tried in place `n` for a base: the base itself, then `base2`, `base3`, … -/
def attempt (base : String) : Nat → String
  | 0 => base
  | n + 1 => base ++ toString (n + 2)

theorem isDigit_of_mem_toString {c : Char} (hc : c ∈ (toString n).toList) : c.isDigit = true := by
  rw [Nat.toString_eq_repr, Nat.toList_repr] at hc
  exact Nat.isDigit_of_mem_toDigits (by decide) (by decide) hc

theorem attempt_injective (base : String) {m n : Nat} (h : attempt base m = attempt base n) :
    m = n := by
  have hlists := congrArg String.toList h
  cases m with
  | zero =>
    cases n with
    | zero => rfl
    | succ n => simp [attempt, Nat.toDigits_ne_nil] at hlists
  | succ m =>
    cases n with
    | zero => simp [attempt, Nat.toDigits_ne_nil] at hlists
    | succ n =>
      have hdigits : Nat.toDigits 10 (m + 2) = Nat.toDigits 10 (n + 2) := by
        simpa [attempt] using hlists
      have hnumbers := congrArg (Nat.ofDigitChars 10 · 0) hdigits
      simpa [Nat.ofDigitChars_ten_toDigits] using hnumbers

theorem isPrefix_attempt (base : String) (n : Nat) : base.toList <+: (attempt base n).toList := by
  cases n <;> simp [attempt]

theorem IsIdentifier.attempt (h : IsIdentifier base) (n : Nat) :
    IsIdentifier (attempt base n) := by
  cases n with
  | zero => exact h
  | succ n =>
    refine h.append fun c hc => ?_
    simp [isIdentifierChar, Char.isAlphanum, isDigit_of_mem_toString hc]

theorem attempt_notMem_keywords (h : base ∉ keywords) (n : Nat) : attempt base n ∉ keywords := by
  cases n with
  | zero => exact h
  | succ n =>
    have hplain : ∀ s ∈ keywords, s.toList.all (!·.isDigit) = true := by decide
    intro hkeyword
    have hdigits : (toString (n + 2)).toList ≠ [] := by simp [Nat.toDigits_ne_nil]
    obtain ⟨d, hd⟩ := List.exists_mem_of_ne_nil _ hdigits
    have hmem : d ∈ (base ++ toString (n + 2)).toList := by
      rw [String.toList_append]
      exact List.mem_append_right _ hd
    have hnone := List.all_eq_true.mp (hplain _ hkeyword) d hmem
    simp [isDigit_of_mem_toString hd] at hnone

/-- There are no more attempts that are taken than names that are taken. -/
theorem le_length_of_attempts (h : ∀ m < n, attempt base m ∈ taken) : n ≤ taken.length := by
  have hnodup : ((List.range n).map (attempt base)).Nodup :=
    List.Pairwise.map _ (fun a b hne heq => hne (attempt_injective base heq)) List.nodup_range
  have hsub : (List.range n).map (attempt base) ⊆ taken := by
    intro s hs
    obtain ⟨m, hm, rfl⟩ := List.mem_map.mp hs
    exact h m (List.mem_range.mp hm)
  simpa using hnodup.length_le_of_subset hsub

theorem exists_numbered (base : String) (taken : List String) (counter fuel : Nat) :
    ∃ k ≤ fuel, numbered base taken counter fuel = base ++ toString (counter + k) ∧
      (∀ j < k, base ++ toString (counter + j) ∈ taken) ∧
      (k < fuel → base ++ toString (counter + k) ∉ taken) := by
  induction fuel generalizing counter with
  | zero => exact ⟨0, Nat.le_refl 0, rfl, by simp, by simp⟩
  | succ fuel ih =>
    by_cases hfirst : base ++ toString counter ∈ taken
    · obtain ⟨k, hk, heq, hbefore, hfree⟩ := ih (counter + 1)
      refine ⟨k + 1, by omega, ?_, ?_, ?_⟩
      · rw [numbered, if_pos hfirst, heq, Nat.add_right_comm, Nat.add_assoc]
      · intro j hj
        cases j with
        | zero => exact hfirst
        | succ j =>
          have := hbefore j (by omega)
          rwa [Nat.add_right_comm, Nat.add_assoc] at this
      · intro hlt
        have := hfree (by omega)
        rwa [Nat.add_right_comm, Nat.add_assoc] at this
    · exact ⟨0, by omega, by rw [numbered, if_neg hfirst, Nat.add_zero], by simp, fun _ => hfirst⟩

/-- The identifier is the first attempt that is not taken, and it is found before the steps run out. -/
theorem exists_uniqueIdentifier (base : String) (taken : List String) :
    ∃ n ≤ taken.length, uniqueIdentifier base taken = attempt base n ∧
      attempt base n ∉ taken ∧ ∀ m < n, attempt base m ∈ taken := by
  by_cases hbase : base ∈ taken
  · obtain ⟨k, -, heq, hbefore, hfree⟩ := exists_numbered base taken 2 taken.length
    have htaken : ∀ m < k + 1, attempt base m ∈ taken := by
      intro m hm
      cases m with
      | zero => exact hbase
      | succ m =>
        rw [attempt, Nat.add_comm m 2]
        exact hbefore m (by omega)
    have hlength := le_length_of_attempts htaken
    have hattempt : attempt base (k + 1) = base ++ toString (2 + k) := by
      rw [attempt, Nat.add_comm k 2]
    refine ⟨k + 1, hlength, ?_, ?_, htaken⟩
    · rw [uniqueIdentifier, if_pos hbase, heq, hattempt]
    · rw [hattempt]
      exact hfree hlength
  · exact ⟨0, Nat.zero_le _, by simp [uniqueIdentifier, hbase, attempt], hbase, by simp⟩

theorem uniqueIdentifier_notMem (base : String) (taken : List String) :
    uniqueIdentifier base taken ∉ taken := by
  obtain ⟨n, -, heq, hfree, -⟩ := exists_uniqueIdentifier base taken
  rwa [heq]

/-- Identifiers for some bases, each different from those before it and from what is taken. -/
def identifiersFrom (taken : List String) : List String → List String
  | [] => []
  | base :: rest =>
    uniqueIdentifier base taken :: identifiersFrom (uniqueIdentifier base taken :: taken) rest

theorem notMem_identifiersFrom (h : s ∈ taken) : s ∉ identifiersFrom taken bases := by
  induction bases generalizing taken with
  | nil => simp [identifiersFrom]
  | cons base rest ih =>
    rw [identifiersFrom, List.mem_cons, not_or]
    refine ⟨?_, ih (List.mem_cons_of_mem _ h)⟩
    rintro rfl
    exact uniqueIdentifier_notMem base taken h

theorem nodup_identifiersFrom : (identifiersFrom taken bases).Nodup := by
  induction bases generalizing taken with
  | nil => exact List.nodup_nil
  | cons base rest ih =>
    rw [identifiersFrom, List.nodup_cons]
    exact ⟨notMem_identifiersFrom List.mem_cons_self, ih⟩

/-- A numbered identifier can be what a later base is. -/
example : identifiersFrom [] ["get_x", "get_x", "get_x2"] = ["get_x", "get_x2", "get_x22"] := by
  decide

theorem exists_of_mem_identifiersFrom (h : s ∈ identifiersFrom taken bases) :
    ∃ base ∈ bases, ∃ n, s = attempt base n := by
  induction bases generalizing taken with
  | nil => cases h
  | cons base rest ih =>
    rcases List.mem_cons.mp h with rfl | h
    · obtain ⟨n, -, heq, -⟩ := exists_uniqueIdentifier base taken
      exact ⟨base, List.mem_cons_self, n, heq⟩
    · obtain ⟨b, hb, hattempt⟩ := ih h
      exact ⟨b, List.mem_cons_of_mem _ hb, hattempt⟩

end Overloads.Text
