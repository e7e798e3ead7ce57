import Overloads.Routine.Grouping

/-! Grouping by arity as a stable sort, and the members that a number of arguments can reach. -/
namespace Overloads

variable {α : Type} {key : α → Nat} {l : List α} {ks ns : List Nat} {k n : Nat}

theorem eraseDups_increasing (ns : List Nat) (h : ns.Pairwise (· ≤ ·)) :
    ns.eraseDups.Pairwise (· < ·) := by
  match ns with
  | [] => simp
  | n :: rest =>
    obtain ⟨hn, hrest⟩ := List.pairwise_cons.mp h
    rw [List.eraseDups_cons, List.pairwise_cons]
    refine ⟨fun k hk => ?_, eraseDups_increasing _ (hrest.sublist List.filter_sublist)⟩
    obtain ⟨hmem, hne⟩ := List.mem_filter.mp (List.mem_eraseDups.mp hk)
    have hle := hn k hmem
    have : k ≠ n := by simpa using hne
    omega
termination_by ns.length
decreasing_by exact Nat.lt_succ_of_le (List.length_filter_le ..)

/-- Elements by their keys, equal ones in the order in which they stand. -/
def sortedBy (key : α → Nat) (l : List α) : List α := l.mergeSort fun a b => key a ≤ key b

@[simp] theorem mem_sortedBy {a : α} : a ∈ sortedBy key l ↔ a ∈ l := List.mem_mergeSort

theorem key_le_trans (key : α → Nat) (a b c : α) :
    decide (key a ≤ key b) = true → decide (key b ≤ key c) = true →
      decide (key a ≤ key c) = true := by
  simp only [decide_eq_true_eq]
  omega

theorem key_le_total (key : α → Nat) (a b : α) :
    (decide (key a ≤ key b) || decide (key b ≤ key a)) = true := by
  simp only [Bool.or_eq_true, decide_eq_true_eq]
  omega

theorem sortedBy_ordered (key : α → Nat) (l : List α) :
    (sortedBy key l).Pairwise fun a b => key a ≤ key b :=
  (List.pairwise_mergeSort (key_le_trans key) (key_le_total key) l).imp (by simp)

theorem ascending_increasing (ns : List Nat) : (ascending ns).Pairwise (· < ·) :=
  eraseDups_increasing _ (sortedBy_ordered id ns)

@[simp] theorem mem_ascending : n ∈ ascending ns ↔ n ∈ ns := by
  simp [ascending, List.mem_eraseDups]

theorem filter_filter_comm (p q : α → Bool) (l : List α) :
    (l.filter p).filter q = (l.filter q).filter p := by
  rw [List.filter_filter, List.filter_filter]
  exact List.filter_congr fun _ _ => Bool.and_comm ..

section MergeSort

variable {le : α → α → Bool} (trans : ∀ a b c, le a b = true → le b c = true → le a c = true)
variable (total : ∀ a b, (le a b || le b a) = true)
include trans total

/-- An element goes before those that are not below it, in the order that the others have. -/
theorem mergeSort_cons_eq (a : α) (l : List α) : (a :: l).mergeSort le =
    (l.mergeSort le).filter (!le a ·) ++ a :: (l.mergeSort le).filter (le a ·) := by
  obtain ⟨front, back, hsorted, hrest, hfront⟩ := List.mergeSort_cons trans total a l
  have hordered := List.pairwise_mergeSort trans total (a :: l)
  rw [hsorted] at hordered
  have hback := (List.pairwise_cons.mp (List.pairwise_append.mp hordered).2.1).1
  have hbelow : (front ++ back).filter (!le a ·) = front := by
    rw [List.filter_append, List.filter_eq_self.mpr hfront,
      List.filter_eq_nil_iff.mpr (by simpa using hback), List.append_nil]
  have habove : (front ++ back).filter (le a ·) = back := by
    rw [List.filter_append, List.filter_eq_self.mpr hback,
      List.filter_eq_nil_iff.mpr (by simpa using hfront), List.nil_append]
  rw [hsorted, hrest, hbelow, habove]

/-- What passes a test is sorted as it stands in the sorted whole, ties included. -/
theorem mergeSort_filter (p : α → Bool) (l : List α) :
    (l.filter p).mergeSort le = (l.mergeSort le).filter p := by
  induction l with
  | nil => simp
  | cons a rest ih =>
    cases hp : p a with
    | true =>
      have hcomm (q : α → Bool) : ((rest.mergeSort le).filter q).filter p =
          ((rest.filter p).mergeSort le).filter q := by
        rw [ih, filter_filter_comm]
      rw [mergeSort_cons_eq trans total, List.filter_append, List.filter_cons_of_pos hp,
        List.filter_cons_of_pos hp, hcomm, hcomm, mergeSort_cons_eq trans total]
    | false =>
      have hp : ¬ p a = true := by simp [hp]
      obtain ⟨front, back, hsorted, hrest, -⟩ := List.mergeSort_cons trans total a rest
      rw [hsorted, List.filter_cons_of_neg hp, ih, hrest, List.filter_append, List.filter_append,
        List.filter_cons_of_neg hp]

/-- A stable sort keeps elements that it does not tell apart as they stand. -/
theorem filter_mergeSort {p : α → Bool} (hp : ∀ a b, p a = true → p b = true → le a b = true)
    (l : List α) : (l.mergeSort le).filter p = l.filter p := by
  rw [← mergeSort_filter trans total]
  apply List.mergeSort_of_pairwise
  refine List.Pairwise.imp_of_mem (R := fun _ _ => True) ?_
    (List.pairwise_of_forall fun _ _ => trivial)
  intro a b ha hb _
  exact hp a b (List.mem_filter.mp ha).2 (List.mem_filter.mp hb).2

end MergeSort

/-- Sorting keeps the elements of one key as they stand. -/
theorem filter_sortedBy (key : α → Nat) (l : List α) (k : Nat) :
    (sortedBy key l).filter (key · = k) = l.filter (key · = k) := by
  apply filter_mergeSort (key_le_trans key) (key_le_total key)
  simp only [decide_eq_true_eq]
  omega

/-- The elements of the least key come first. -/
theorem eq_filter_append_of_ordered (h : l.Pairwise fun a b => key a ≤ key b)
    (hk : ∀ a ∈ l, k ≤ key a) : l = l.filter (key · = k) ++ l.filter (key · ≠ k) := by
  induction l with
  | nil => rfl
  | cons a rest ih =>
    have hrest := List.pairwise_cons.mp h
    by_cases ha : key a = k
    · simpa [ha] using ih hrest.2 (fun b hb => hk b (List.mem_cons_of_mem a hb))
    · have hka := hk a List.mem_cons_self
      have hnone : ∀ b ∈ rest, key b ≠ k := by
        intro b hb
        have := hrest.1 b hb
        omega
      have hempty : rest.filter (key · = k) = [] := by simpa [List.filter_eq_nil_iff] using hnone
      have hall : rest.filter (key · ≠ k) = rest := by simpa [List.filter_eq_self] using hnone
      simp only [ne_eq, decide_not] at hall
      simp [ha, hempty, hall]

theorem eq_flatMap_filter_of_ordered (h : l.Pairwise fun a b => key a ≤ key b)
    (hks : ks.Pairwise (· < ·)) (hl : ∀ a ∈ l, key a ∈ ks) :
    l = ks.flatMap fun k => l.filter (key · = k) := by
  induction ks generalizing l with
  | nil =>
    have : l = [] := List.eq_nil_iff_forall_not_mem.mpr fun a ha => by simpa using hl a ha
    simp [this]
  | cons k rest ih =>
    obtain ⟨hk, hrest⟩ := List.pairwise_cons.mp hks
    have hleast : ∀ a ∈ l, k ≤ key a := by
      intro a ha
      rcases List.mem_cons.mp (hl a ha) with he | he
      · omega
      · exact Nat.le_of_lt (hk _ he)
    have hothers := ih (l := l.filter (key · ≠ k)) (h.sublist List.filter_sublist) hrest (by
      intro a ha
      obtain ⟨hmem, hne⟩ := List.mem_filter.mp ha
      exact (List.mem_cons.mp (hl a hmem)).resolve_left (by simpa using hne))
    calc l = l.filter (key · = k) ++ l.filter (key · ≠ k) := eq_filter_append_of_ordered h hleast
      _ = l.filter (key · = k) ++
          rest.flatMap fun k' => (l.filter (key · ≠ k)).filter (key · = k') :=
        congrArg (l.filter (key · = k) ++ ·) hothers
      _ = l.filter (key · = k) ++ rest.flatMap fun k' => l.filter (key · = k') := by
        congr 1
        apply congrArg List.flatten
        apply List.map_congr_left
        intro k' hk'
        have hlt := hk k' hk'
        rw [List.filter_filter]
        apply List.filter_congr
        intro a _
        by_cases ha : key a = k' <;> simp [ha]
        omega
      _ = (k :: rest).flatMap fun k => l.filter (key · = k) := by simp

/-- A stable sort takes the keys in ascending order. -/
theorem sortedBy_eq_flatMap (hks : ks.Pairwise (· < ·)) (hl : ∀ a ∈ l, key a ∈ ks) :
    sortedBy key l = ks.flatMap fun k => l.filter (key · = k) := by
  have h := eq_flatMap_filter_of_ordered (sortedBy_ordered key l) hks (by simpa using hl)
  rw [h]
  simp only [filter_sortedBy]

end Overloads
