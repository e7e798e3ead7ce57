import Overloads.Class.Special

/-! The special attributes that native classes do not have. -/
namespace Overloads

namespace Native

theorem contains_words {name s : String} (h : name.toList ∉ s.toList.splitOn ' ') :
    (words s).contains name = false := by
  rw [Bool.eq_false_iff]
  intro hname
  rw [words, List.contains_iff_mem, List.mem_filter, List.mem_map] at hname
  obtain ⟨⟨cs, hcs, rfl⟩, -⟩ := hname
  exact h (by simpa using hcs)

/-- A native class has none of the special attributes that its row does not list. -/
theorem special?_eq_none {c : ClassName} {name : String} {r : Specials}
    (hrow : specialRows.find? (·.name = c) = some r)
    (h : ∀ text ∈ [r.slots, r.methods, r.statics, r.values], name.toList ∉ text.toList.splitOn ' ') :
    special? c name = none := by
  have hnone : ∀ text ∈ [r.slots, r.methods, r.statics, r.values],
      (words text).contains name = false := fun text htext => contains_words (h text htext)
  have hspecials : specialsOf c = r := by rw [specialsOf, hrow, Option.getD_some]
  simp only [List.forall_mem_cons] at hnone
  obtain ⟨hslots, hmethods, hstatics, hvalues, -⟩ := hnone
  simp only [special?, hspecials, hslots, hmethods, hstatics, hvalues]
  simp

theorem special?_call :
    special? (.builtin "str") "__call__" = none ∧ special? .object "__call__" = none := by
  constructor
  · refine special?_eq_none rfl ?_
    simp only [List.forall_mem_cons, String.toList_append, String.reduceToList]
    decide
  · refine special?_eq_none rfl ?_
    simp only [List.forall_mem_cons, String.toList_append, String.reduceToList]
    decide

/-- The topmost class names no signature, and nothing that it wraps. -/
theorem special?_signature :
    special? .object "__signature__" = none ∧ special? .object "__wrapped__" = none := by
  constructor
  · refine special?_eq_none rfl ?_
    simp only [List.forall_mem_cons, String.toList_append, String.reduceToList]
    decide
  · refine special?_eq_none rfl ?_
    simp only [List.forall_mem_cons, String.toList_append, String.reduceToList]
    decide

end Native

end Overloads
