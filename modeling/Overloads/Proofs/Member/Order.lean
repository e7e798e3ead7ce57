import Overloads.Member.Selection
import Overloads.Proofs.Member.Descriptor
import Overloads.Proofs.Routine.Grouping

/-! Sorted members: names and descriptors settle the order, and ties are left to the declarations. -/
namespace Overloads

variable {a b c : Member} {members others : List Member}

/-- What members are sorted by. -/
def Member.sortKey (m : Member) : String × String := (m.name, m.descriptor)

/-- The order of names, and of descriptors below one name. -/
def keyLe (k l : String × String) : Prop := k.1 < l.1 ∨ k.1 = l.1 ∧ k.2 ≤ l.2

theorem keyLe_trans {j k l : String × String} (h : keyLe j k) (h' : keyLe k l) : keyLe j l := by
  rcases h with hlt | ⟨heq, hle⟩ <;> rcases h' with hlt' | ⟨heq', hle'⟩
  · exact Or.inl (String.lt_trans hlt hlt')
  · exact Or.inl (heq' ▸ hlt)
  · exact Or.inl (heq ▸ hlt')
  · exact Or.inr ⟨heq.trans heq', String.le_trans hle hle'⟩

theorem keyLe_total (k l : String × String) : keyLe k l ∨ keyLe l k := by
  by_cases hlt : k.1 < l.1
  · exact Or.inl (Or.inl hlt)
  · by_cases hgt : l.1 < k.1
    · exact Or.inr (Or.inl hgt)
    · have heq := String.le_antisymm (String.not_lt.mp hgt) (String.not_lt.mp hlt)
      exact (String.le_total k.2 l.2).imp (Or.inr ⟨heq, ·⟩) (Or.inr ⟨heq.symm, ·⟩)

theorem keyLe_antisymm {k l : String × String} (h : keyLe k l) (h' : keyLe l k) : k = l := by
  rcases h with hlt | ⟨heq, hle⟩ <;> rcases h' with hlt' | ⟨heq', hle'⟩
  · exact (String.lt_asymm hlt hlt').elim
  · exact (String.lt_irrefl _ (heq' ▸ hlt)).elim
  · exact (String.lt_irrefl _ (heq ▸ hlt')).elim
  · exact Prod.ext heq (String.le_antisymm hle hle')

theorem precedes_iff : a.precedes b = true ↔ keyLe a.sortKey b.sortKey := by
  simp only [Member.precedes, keyLe, Member.sortKey, Bool.or_eq_true, Bool.and_eq_true,
    decide_eq_true_eq, beq_iff_eq, Bool.not_eq_true', decide_eq_false_iff_not, String.not_lt]

theorem precedes_trans (a b c : Member) (h : a.precedes b = true) (h' : b.precedes c = true) :
    a.precedes c = true :=
  precedes_iff.mpr (keyLe_trans (precedes_iff.mp h) (precedes_iff.mp h'))

theorem precedes_total (a b : Member) : (a.precedes b || b.precedes a) = true := by
  rw [Bool.or_eq_true, precedes_iff, precedes_iff]
  exact keyLe_total _ _

theorem precedes_of_sortKey_eq (h : a.sortKey = b.sortKey) : a.precedes b = true := by
  rw [precedes_iff, h]
  exact Or.inr ⟨rfl, String.le_refl _⟩

theorem arrange_perm (p : OrderPolicy) (members : List Member) :
    (p.arrange members).Perm members := by
  cases p with
  | sort => exact List.mergeSort_perm members _
  | trust => exact .refl members

/-- In whatever order members are declared, the sorted ones have the same keys place by place. -/
theorem map_sortKey_arrange (h : others.Perm members) :
    (OrderPolicy.sort.arrange others).map (·.sortKey) =
      (OrderPolicy.sort.arrange members).map (·.sortKey) := by
  have hordered (members : List Member) :
      ((OrderPolicy.sort.arrange members).map (·.sortKey)).Pairwise keyLe := by
    rw [List.pairwise_map]
    exact (List.pairwise_mergeSort precedes_trans precedes_total members).imp precedes_iff.mp
  have hperm : (OrderPolicy.sort.arrange others).Perm (OrderPolicy.sort.arrange members) :=
    (arrange_perm .sort others).trans (h.trans (arrange_perm .sort members).symm)
  exact (hperm.map _).eq_of_pairwise (fun _ _ _ _ => keyLe_antisymm) (hordered others)
    (hordered members)

/-- Sorting leaves members of one key in the order of their declarations. -/
theorem filter_arrange (members : List Member) (k : String × String) :
    (OrderPolicy.sort.arrange members).filter (·.sortKey = k) = members.filter (·.sortKey = k) := by
  apply filter_mergeSort precedes_trans precedes_total
  intro a b ha hb
  have ha : a.sortKey = k := by simpa using ha
  have hb : b.sortKey = k := by simpa using hb
  exact precedes_of_sortKey_eq (ha.trans hb.symm)

theorem sortKey_of_overload (h : a.overload = b.overload) : a.sortKey = b.sortKey := by
  simp only [Member.overload, Overload.mk.injEq] at h
  obtain ⟨hname, hdeclared, hvarargs, hreturns⟩ := h
  have hdescriptor : a.descriptor = b.descriptor := by
    unfold Member.descriptor Member.isVariadic
    rw [hname, hdeclared, hvarargs, hreturns]
  exact Prod.ext hname hdescriptor

/-- That members of one name and one descriptor have one signature. -/
def DescribedApart (members : List Member) : Prop :=
  ∀ a ∈ members, ∀ b ∈ members, a.sortKey = b.sortKey → a.overload = b.overload

theorem map_filter_of_map_eq {α β : Type} {f : α → β} {p : α → Bool} {l l' : List α}
    (hp : ∀ a b, f a = f b → p a = p b) (h : l.map f = l'.map f) :
    (l.filter p).map f = (l'.filter p).map f := by
  induction l generalizing l' with
  | nil =>
    obtain rfl : l' = [] := by simpa using h.symm
    rfl
  | cons a rest ih =>
    cases l' with
    | nil => simp at h
    | cons b rest' =>
      obtain ⟨hab, hrest⟩ := List.cons.inj h
      have hsame := ih hrest
      have hpab := hp a b hab
      cases hb : p b with
      | false => simpa [hpab, hb] using hsame
      | true => simpa [hpab, hb] using ⟨hab, hsame⟩

/-- The sorted signatures do not depend on the declarations exactly if descriptors tell them apart. -/
theorem map_overload_arrange_iff :
    (∀ others, others.Perm members → (OrderPolicy.sort.arrange others).map (·.overload) =
      (OrderPolicy.sort.arrange members).map (·.overload)) ↔ DescribedApart members := by
  constructor
  · intro h a ha b hb hkey
    obtain ⟨front, back, rfl⟩ := List.append_of_mem ha
    by_cases hab : a = b
    · rw [hab]
    · have hrest : b ∈ front ++ back := by
        have := List.perm_middle.mem_iff.mp hb
        exact (List.mem_cons.mp this).resolve_left (Ne.symm hab)
      obtain ⟨front', back', hsplit⟩ := List.append_of_mem hrest
      have hfirst : (front ++ a :: back).Perm (a :: b :: (front' ++ back')) := by
        refine List.perm_middle.trans (.cons a ?_)
        rw [hsplit]
        exact List.perm_middle
      -- Of two orders of declaration that differ in these two, each keeps its own.
      have hsame := (h _ hfirst.symm).trans (h _ ((List.Perm.swap ..).trans hfirst.symm)).symm
      have htied := map_filter_of_map_eq (p := (·.sortKey = a.sortKey))
        (fun m n hmn => by rw [sortKey_of_overload hmn]) hsame
      rw [filter_arrange, filter_arrange] at htied
      simp only [List.filter_cons, hkey, decide_true, if_true, List.map_cons,
        List.cons.injEq] at htied
      exact htied.1
  · intro h others hperm
    refine map_eq_of_map_eq (map_sortKey_arrange hperm) fun a ha b hb hkey => ?_
    have ha := hperm.mem_iff.mp ((arrange_perm _ _).mem_iff.mp ha)
    exact h a ha b ((arrange_perm _ _).mem_iff.mp hb) hkey

/-- Legible texts that tell the types apart are enough for it. -/
theorem describedApart_of_legible (hlegible : ∀ m ∈ members, ∀ t ∈ m.testedTypes, Legible t.text)
    (htypes : ∀ m ∈ members, ∀ t ∈ m.types, ∀ k ∈ members, ∀ u ∈ k.types,
      t.text = u.text → t = u) : DescribedApart members := by
  intro a ha b hb hkey
  obtain ⟨hname, hdescriptor⟩ := Prod.ext_iff.mp hkey
  exact overload_eq_of_descriptor (hlegible a ha) (hlegible b hb)
    (fun t ht u hu => htypes a ha t ht b hb u hu) hname hdescriptor

end Overloads
