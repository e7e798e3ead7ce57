import Overloads.Class.Reference

/-! Dotted names: what is split at its dots joins to the same again. -/
namespace Overloads

variable {parts : List String} {s : String} {modules : List (List String)}

theorem splitDots_ne_nil (s : String) : splitDots s ≠ [] := by
  simp [splitDots]

theorem dotted_splitDots (s : String) : dotted (splitDots s) = s := by
  apply String.toList_injective
  have hdot : ".".toList = ['.'] := rfl
  have hparts : (s.toList.splitOn '.').map (String.toList ∘ String.ofList) =
      s.toList.splitOn '.' := by
    simp
  rw [dotted, splitDots, String.toList_intercalate, List.map_map, hparts, hdot,
    List.intercalate_splitOn]

theorem dot_notMem_of_mem_splitOn {l : List Char} {part : List Char} (h : part ∈ l.splitOn '.') :
    '.' ∉ part := by
  induction l generalizing part with
  | nil => simp_all
  | cons c rest ih =>
    rw [List.splitOn_cons_eq_if_modifyHead] at h
    split at h
    · rcases List.mem_cons.mp h with rfl | h
      · simp
      · exact ih h
    · rename_i hc
      cases hparts : rest.splitOn '.' with
      | nil => exact (List.splitOn_ne_nil _ _ hparts).elim
      | cons first others =>
        rw [hparts, List.modifyHead_cons] at h
        rcases List.mem_cons.mp h with rfl | h
        · have hfirst : '.' ∉ first := ih (by simp [hparts])
          have hne : '.' ≠ c := by
            rintro rfl
            exact hc rfl
          simp [hne, hfirst]
        · exact ih (by simp [hparts, h])

/-- What is joined at dots is split into the same again, where no part has a dot. -/
theorem splitDots_dotted {parts : List String} (hne : parts ≠ [])
    (hparts : ∀ s ∈ parts, '.' ∉ s.toList) : splitDots (dotted parts) = parts := by
  have hdot : ".".toList = ['.'] := rfl
  have hlists : ∀ l ∈ parts.map String.toList, '.' ∉ l := by
    intro l hl
    obtain ⟨s, hs, rfl⟩ := List.mem_map.mp hl
    exact hparts s hs
  rw [splitDots, dotted, String.toList_intercalate, hdot,
    List.splitOn_intercalate '.' hlists (by simpa using hne)]
  simp [Function.comp_def]

/-- A dotted text in two parts, each of at least one name. -/
theorem dotted_split {k : Nat} (hpos : 0 < k) (hlt : k < (splitDots s).length) :
    s = dotted ((splitDots s).take k) ++ "." ++ dotted ((splitDots s).drop k) := by
  have hfront : (splitDots s).take k ≠ [] := by
    rw [← List.length_pos_iff, List.length_take]
    omega
  have hbehind : (splitDots s).drop k ≠ [] := by
    rw [← List.length_pos_iff, List.length_drop]
    omega
  calc s = dotted ((splitDots s).take k ++ (splitDots s).drop k) := by
        rw [List.take_append_drop, dotted_splitDots]
    _ = _ := String.intercalate_append_of_ne_nil hfront hbehind

/-- The fronts of a text that starts with no dot are no empty names, and start with none either. -/
theorem front_of_not_startsWith {k : Nat} (hdot : s.startsWith "." = false) (hpos : 0 < k)
    (hlt : k < (splitDots s).length) :
    dotted ((splitDots s).take k) ≠ "" ∧ (dotted ((splitDots s).take k)).startsWith "." = false := by
  have hsplit := dotted_split hpos hlt
  rw [String.startsWith_string_eq_false_iff] at hdot ⊢
  constructor
  · intro hempty
    rw [hempty] at hsplit
    apply hdot
    rw [hsplit]
    exact ⟨(dotted ((splitDots s).drop k)).toList, by simp⟩
  · rintro ⟨rest, hrest⟩
    apply hdot
    rw [hsplit]
    exact ⟨rest ++ ".".toList ++ (dotted ((splitDots s).drop k)).toList, by simp [← hrest]⟩

/-- In front of a dot at the beginning stands an empty name. -/
theorem splitDots_of_startsWith (hdot : s.startsWith ".") :
    ∃ rest, rest ≠ [] ∧ splitDots s = "" :: rest := by
  obtain ⟨rest, hrest⟩ := String.startsWith_string_iff.mp hdot
  have hs : s.toList = '.' :: rest := hrest.symm
  refine ⟨(rest.splitOn '.').map .ofList, by simp, ?_⟩
  rw [splitDots, hs, List.splitOn_cons_eq_if_modifyHead]
  rfl

/-- The class of a dotted name has the name itself as its path, but for builtin classes. -/
theorem fullPath_ofText (modules : List (List String)) (s : String) :
    (ClassName.ofText modules s).fullPath = s ∨
      (ClassName.ofText modules s).fullPath = "builtins." ++ s := by
  unfold ClassName.ofText
  dsimp only
  split
  · left
    rw [ClassName.fullPath, List.take_append_drop, dotted_splitDots]
  · right
    have hjoin : dotted ("builtins" :: splitDots s) = "builtins" ++ "." ++ dotted (splitDots s) :=
      String.intercalate_cons_of_ne_nil (splitDots_ne_nil s)
    rw [dotted_splitDots] at hjoin
    exact hjoin

end Overloads
