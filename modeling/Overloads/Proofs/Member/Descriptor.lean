import Overloads.Proofs.Member.Testability

/-! When the descriptors of two members tell their signatures apart. -/
namespace Overloads

variable {α β : Type} {l l' r r' : List α} {x : α} {a b m : Member} {texts texts' : List String}

/-- What a caller sees of a member: its name and its signature. -/
structure Overload where
  name : String
  declared : List TypeRef
  varargs : Option TypeRef
  returns : TypeRef
  deriving DecidableEq

def Member.overload (m : Member) : Overload := ⟨m.name, m.declared, m.varargs, m.returns⟩

/-- The types that a signature is made of. -/
def Member.types (m : Member) : List TypeRef := m.testedTypes ++ [m.returns]

/-- That a text is seen to begin and to end in a list of parameters. -/
structure Legible (s : String) : Prop where
  nonempty : s ≠ ""
  noComma : ',' ∉ s.toList
  noParenthesis : ')' ∉ s.toList
  noDot : s.toList.getLast? ≠ some '.'

instance (s : String) : Decidable (Legible s) :=
  decidable_of_iff (s ≠ "" ∧ ',' ∉ s.toList ∧ ')' ∉ s.toList ∧ s.toList.getLast? ≠ some '.')
    ⟨fun ⟨h, hcomma, hparenthesis, hdot⟩ => ⟨h, hcomma, hparenthesis, hdot⟩,
      fun ⟨h, hcomma, hparenthesis, hdot⟩ => ⟨h, hcomma, hparenthesis, hdot⟩⟩

/-- A text is cut in one way at the first place of a character. -/
theorem append_cons_inj (hl : x ∉ l) (hl' : x ∉ l') (h : l ++ x :: r = l' ++ x :: r') :
    l = l' ∧ r = r' := by
  induction l generalizing l' with
  | nil =>
    cases l' with
    | nil => exact ⟨rfl, (List.cons.inj h).2⟩
    | cons y rest =>
      obtain ⟨rfl, -⟩ := List.cons.inj h
      exact (hl' List.mem_cons_self).elim
  | cons y rest ih =>
    cases l' with
    | nil =>
      obtain ⟨rfl, -⟩ := List.cons.inj h
      exact (hl List.mem_cons_self).elim
    | cons z rest' =>
      rw [List.cons_append, List.cons_append, List.cons.injEq] at h
      obtain ⟨rfl, h⟩ := h
      obtain ⟨rfl, rfl⟩ := ih (fun hx => hl (List.mem_cons_of_mem _ hx))
        (fun hx => hl' (List.mem_cons_of_mem _ hx)) h
      exact ⟨rfl, rfl⟩

/-- Two lists that look the same under `f` look the same under all that `f` decides. -/
theorem map_eq_of_map_eq {γ : Type} {f : α → β} {g : α → γ} (h : l.map f = l'.map f)
    (hfg : ∀ a ∈ l, ∀ b ∈ l', f a = f b → g a = g b) : l.map g = l'.map g := by
  induction l generalizing l' with
  | nil => simp_all
  | cons a rest ih =>
    cases l' with
    | nil => simp at h
    | cons b rest' =>
      obtain ⟨hab, hrest⟩ := List.cons.inj h
      rw [List.map_cons, List.map_cons, hfg a List.mem_cons_self b List.mem_cons_self hab,
        ih hrest fun c hc d hd => hfg c (List.mem_cons_of_mem _ hc) d (List.mem_cons_of_mem _ hd)]

theorem getLast?_intercalate (h : ∀ s ∈ texts, Legible s) :
    (",".intercalate texts).toList.getLast? ≠ some '.' := by
  induction texts with
  | nil => simp
  | cons s rest ih =>
    cases rest with
    | nil => simpa using (h s List.mem_cons_self).noDot
    | cons t rest =>
      have hrest := ih fun u hu => h u (List.mem_cons_of_mem _ hu)
      rw [String.intercalate_cons_cons, String.toList_append, List.getLast?_append]
      intro hdot
      rcases Option.or_eq_some_iff.mp hdot with hlast | ⟨-, hcomma⟩
      · exact hrest hlast
      · simp [String.toList_append, List.getLast?_append] at hcomma

theorem parenthesis_notMem_intercalate (h : ∀ s ∈ texts, Legible s) :
    ')' ∉ (",".intercalate texts).toList := by
  induction texts with
  | nil => simp
  | cons s rest ih =>
    have hs := (h s List.mem_cons_self).noParenthesis
    cases rest with
    | nil => simpa using hs
    | cons t rest =>
      have hrest := ih fun u hu => h u (List.mem_cons_of_mem _ hu)
      rw [String.intercalate_cons_cons, String.toList_append, String.toList_append]
      simp only [List.mem_append, hs, hrest, or_false, false_or]
      decide

theorem intercalate_eq_empty_iff (h : ∀ s ∈ texts, Legible s) :
    ",".intercalate texts = "" ↔ texts = [] := by
  cases texts with
  | nil => simp
  | cons s rest =>
    have hs := (h s List.mem_cons_self).nonempty
    cases rest with
    | nil => simpa using hs
    | cons t rest => simp [String.intercalate_cons_cons]

theorem intercalate_injective (h : ∀ s ∈ texts, Legible s) (h' : ∀ s ∈ texts', Legible s)
    (heq : ",".intercalate texts = ",".intercalate texts') : texts = texts' := by
  by_cases hempty : texts = []
  · have hsame := (intercalate_eq_empty_iff h).mpr hempty
    rw [hempty, (intercalate_eq_empty_iff h').mp (heq ▸ hsame)]
  · have hempty' : texts' ≠ [] := by
      intro hnone
      have hsame := (intercalate_eq_empty_iff h').mpr hnone
      exact hempty ((intercalate_eq_empty_iff h).mp (heq ▸ hsame))
    have hsplit : ∀ l : List String, (∀ s ∈ l, Legible s) → l ≠ [] →
        (",".intercalate l).toList.splitOn ',' = l.map String.toList := by
      intro l hl hne
      rw [String.toList_intercalate]
      apply List.splitOn_intercalate ',' _ (by simpa using hne)
      intro cs hcs
      obtain ⟨s, hs, rfl⟩ := List.mem_map.mp hcs
      exact (hl s hs).noComma
    have hlists : texts.map String.toList = texts'.map String.toList := by
      rw [← hsplit texts h hempty, ← hsplit texts' h' hempty', heq]
    have htexts := map_eq_of_map_eq (g := id) hlists fun s _ t _ hst => String.toList_injective hst
    simpa using htexts

/-- The parameters as the descriptor shows them. -/
def Member.parameterText (m : Member) : String :=
  ",".intercalate (m.testedTypes.map (·.text)) ++ if m.isVariadic then "..." else ""

theorem Member.toList_descriptor (m : Member) : m.descriptor.toList =
    m.name.toList ++ '(' :: (m.parameterText.toList ++ ')' :: ':' :: m.returns.text.toList) := by
  simp [descriptor, parameterText, testedTypes, String.toList_append]

/-- What precedes the result in a descriptor is told from the result. -/
theorem parameterText_inj (ha : ')' ∉ a.parameterText.toList) (hb : ')' ∉ b.parameterText.toList)
    (hname : a.name = b.name) (h : a.descriptor = b.descriptor) :
    a.parameterText = b.parameterText ∧ a.returns.text = b.returns.text := by
  have hlists := congrArg String.toList h
  rw [Member.toList_descriptor, Member.toList_descriptor, hname, List.append_right_inj,
    List.cons.injEq] at hlists
  obtain ⟨hparameters, hreturns⟩ := append_cons_inj ha hb hlists.2
  rw [List.cons.injEq] at hreturns
  exact ⟨String.toList_injective hparameters, String.toList_injective hreturns.2⟩

section Legible

variable (ha : ∀ t ∈ a.testedTypes, Legible t.text) (hb : ∀ t ∈ b.testedTypes, Legible t.text)
include ha

theorem legible_texts : ∀ s ∈ a.testedTypes.map (·.text), Legible s := by
  intro s hs
  obtain ⟨t, ht, rfl⟩ := List.mem_map.mp hs
  exact ha t ht

theorem parenthesis_notMem_parameterText : ')' ∉ a.parameterText.toList := by
  rw [Member.parameterText, String.toList_append, List.mem_append, not_or]
  refine ⟨parenthesis_notMem_intercalate (legible_texts ha), ?_⟩
  split <;> decide

/-- Only a variadic member has dots at the end of its parameters. -/
theorem getLast?_parameterText :
    a.parameterText.toList.getLast? = some '.' ↔ a.isVariadic = true := by
  have hdot := getLast?_intercalate (legible_texts ha)
  rw [Member.parameterText, String.toList_append, List.getLast?_append]
  cases a.isVariadic with
  | false => simpa using hdot
  | true => simp

include hb

/-- Where all texts are legible, the descriptor tells the texts of the types. -/
theorem texts_eq_of_descriptor (hname : a.name = b.name) (h : a.descriptor = b.descriptor) :
    a.declared.map (·.text) = b.declared.map (·.text) ∧
      a.varargs.toList.map (·.text) = b.varargs.toList.map (·.text) ∧
      a.returns.text = b.returns.text := by
  obtain ⟨hparameters, hreturns⟩ := parameterText_inj (parenthesis_notMem_parameterText ha)
    (parenthesis_notMem_parameterText hb) hname h
  have hvariadic : a.isVariadic = b.isVariadic := by
    rw [Bool.eq_iff_iff, ← getLast?_parameterText ha, ← getLast?_parameterText hb, hparameters]
  have htexts : a.testedTypes.map (·.text) = b.testedTypes.map (·.text) := by
    apply intercalate_injective (legible_texts ha) (legible_texts hb)
    rw [Member.parameterText, Member.parameterText, hvariadic] at hparameters
    exact String.append_left_inj _ |>.mp hparameters
  have hlength : (a.varargs.toList.map (·.text)).length =
      (b.varargs.toList.map (·.text)).length := by
    have : a.varargs.isSome = b.varargs.isSome := hvariadic
    cases ha : a.varargs <;> cases hb : b.varargs <;> simp_all
  rw [Member.testedTypes, Member.testedTypes, List.map_append, List.map_append] at htexts
  obtain ⟨hdeclared, hvarargs⟩ := List.append_inj' htexts hlength
  exact ⟨hdeclared, hvarargs, hreturns⟩

/-- Where the texts also tell the types apart, members of one descriptor have one signature. -/
theorem overload_eq_of_descriptor
    (htypes : ∀ t ∈ a.types, ∀ u ∈ b.types, t.text = u.text → t = u) (hname : a.name = b.name)
    (h : a.descriptor = b.descriptor) : a.overload = b.overload := by
  obtain ⟨hdeclared, hvarargs, hreturns⟩ := texts_eq_of_descriptor ha hb hname h
  have hmem (m : Member) : (∀ t ∈ m.declared, t ∈ m.types) ∧ (∀ t ∈ m.varargs.toList, t ∈ m.types) ∧
      m.returns ∈ m.types := by
    simp only [Member.types, Member.testedTypes, List.mem_append, List.mem_singleton]
    exact ⟨fun t ht => Or.inl (Or.inl ht), fun t ht => Or.inl (Or.inr ht), Or.inr trivial⟩
  obtain ⟨hdeclaredA, hvarargsA, hreturnsA⟩ := hmem a
  obtain ⟨hdeclaredB, hvarargsB, hreturnsB⟩ := hmem b
  have hdeclared := map_eq_of_map_eq (g := id) hdeclared fun t ht u hu =>
    htypes t (hdeclaredA t ht) u (hdeclaredB u hu)
  have hvarargs := map_eq_of_map_eq (g := id) hvarargs fun t ht u hu =>
    htypes t (hvarargsA t ht) u (hvarargsB u hu)
  rw [List.map_id, List.map_id] at hdeclared hvarargs
  have hvarargs : a.varargs = b.varargs := by
    rw [← Option.head?_toList (o := a.varargs), hvarargs, Option.head?_toList]
  rw [Member.overload, Member.overload, hname, hdeclared, hvarargs,
    htypes a.returns hreturnsA b.returns hreturnsB hreturns]

end Legible

end Overloads
