import Overloads.Text.Identifier

/-! Identifiers made out of names hold nothing but letters, digits and underscores. -/
namespace Overloads.Text

theorem isIdentifierChar_identifierText (name : String) :
    ∀ c ∈ (identifierText name defaultFallback).toList, isIdentifierChar c = true := by
  have hfallback : ∀ c ∈ defaultFallback.toList, isIdentifierChar c = true :=
    List.all_eq_true.mp (by rfl)
  have hkept : ∀ c ∈ name.toList.filter isIdentifierChar, isIdentifierChar c = true :=
    fun c hc => (List.mem_filter.mp hc).2
  intro c hc
  unfold identifierText at hc
  split at hc
  · exact hfallback c hc
  · rename_i first rest hlist
    rw [hlist] at hkept
    split at hc
    · rw [String.toList_append, String.toList_ofList] at hc
      rcases List.mem_append.mp hc with hc | hc
      · exact hfallback c hc
      · exact hkept c hc
    · rw [String.toList_ofList] at hc
      exact hkept c hc

theorem identifierText_ne_empty (name : String) : identifierText name defaultFallback ≠ "" := by
  unfold identifierText
  split
  · decide
  · split <;> simp [← String.toList_eq_nil_iff]

/-- An identifier is made of letters, digits and underscores. -/
theorem isIdentifierChar_identifier (name : String) :
    ∀ c ∈ (identifier name defaultFallback).toList, isIdentifierChar c = true := by
  intro c hc
  simp only [identifier] at hc
  split at hc
  · rw [String.toList_append] at hc
    rcases List.mem_append.mp hc with hc | hc
    · exact isIdentifierChar_identifierText _ c hc
    · obtain rfl : c = '_' := by simpa using hc
      decide
  · exact isIdentifierChar_identifierText _ c hc

theorem identifier_ne_empty (name : String) : identifier name defaultFallback ≠ "" := by
  have hne := identifierText_ne_empty
    (String.ofList (name.toList.map fun c => if c = '-' then '_' else c))
  simp only [identifier]
  split
  · simp [← String.toList_eq_nil_iff]
  · exact hne

end Overloads.Text
