import Overloads.Proofs.Routine.Assembly

/-! The check of a routine tries finitely many numbers of arguments, and they stand for all. -/
namespace Overloads.Routine

variable {r : Routine} {m : Member} {members : List Member} {s : ClauseSet} {ns : List Nat}
variable {n k : Nat}

theorem pairwise_of_isIncreasing (h : isIncreasing ns = true) : ns.Pairwise (· < ·) := by
  induction ns with
  | nil => exact .nil
  | cons a rest ih =>
    cases rest with
    | nil => exact List.pairwise_singleton _ a
    | cons b rest =>
      simp only [isIncreasing, Bool.and_eq_true, decide_eq_true_eq] at h
      have hrest := ih h.2
      refine List.pairwise_cons.mpr ⟨fun k hk => ?_, hrest⟩
      rcases List.mem_cons.mp hk with rfl | hk
      · exact h.1
      · exact Nat.lt_trans h.1 ((List.pairwise_cons.mp hrest).1 k hk)

theorem isIncreasing_iff : isIncreasing ns = true ↔ ns.Pairwise (· < ·) :=
  ⟨pairwise_of_isIncreasing, isIncreasing_of_pairwise⟩

theorem le_foldl_max_of_mem (h : k ∈ ns) (n : Nat) : k ≤ ns.foldl max n := by
  induction ns generalizing n with
  | nil => cases h
  | cons a rest ih =>
    rcases List.mem_cons.mp h with rfl | h
    · exact Nat.le_trans (Nat.le_max_right n k) (le_foldl_max rest (max n k))
    · exact ih h (max n a)

theorem lt_beyond (r : Routine) (m : Member) :
    m.parameterCount < r.beyond m ∧ ∀ k ∈ r.fixedArities, k < r.beyond m :=
  ⟨Nat.lt_succ_of_le (le_foldl_max _ _),
    fun _ hk => Nat.lt_succ_of_le (le_foldl_max_of_mem hk _)⟩

theorem tail_of_tail? (h : r.tail? = some s) : s.tail = true := by
  unfold tail? at h
  split at h
  · split at h
    · cases h
      assumption
    · cases h
  · cases h

/-- Above all numbers with a set of their own there is only the last set. -/
theorem clauseSetFor?_above (h : ∀ k ∈ r.fixedArities, k < n) :
    r.clauseSetFor? n = r.tail?.filter (·.accepts n) := by
  have hnone : r.clauseSets.find? (fun s => !s.tail && s.arity = n) = none := by
    rw [List.find?_eq_none]
    intro s hs hfound
    simp only [Bool.and_eq_true, Bool.not_eq_true', decide_eq_true_eq] at hfound
    have hmem : s.arity ∈ r.fixedArities :=
      List.mem_map_of_mem (List.mem_filter.mpr ⟨hs, by simp [hfound.1]⟩)
    have := h _ hmem
    omega
  rw [clauseSetFor?, hnone]

/-- So one such number stands for every larger one. -/
theorem isSome_clauseSetFor?_above (h : ∀ k ∈ r.fixedArities, k < n) (hle : n ≤ k)
    (hn : (r.clauseSetFor? n).isSome = true) : (r.clauseSetFor? k).isSome = true := by
  have hk : ∀ j ∈ r.fixedArities, j < k := fun j hj => Nat.lt_of_lt_of_le (h j hj) hle
  rw [clauseSetFor?_above h] at hn
  obtain ⟨s, hs⟩ := Option.isSome_iff_exists.mp hn
  obtain ⟨htail, haccepts⟩ := Option.filter_eq_some_iff.mp hs
  rw [clauseSetFor?_above hk]
  simp only [ClauseSet.accepts, tail_of_tail? htail, if_true, decide_eq_true_eq] at haccepts
  simp [htail, Option.filter, ClauseSet.accepts, tail_of_tail? htail, Nat.le_trans haccepts hle]

/-- The numbers of arguments that are tried for one member. -/
theorem verifyMember_eq_ok : r.verifyMember m = .ok () ↔
    (r.clauseSetFor? m.parameterCount).isSome = true ∧ (m.isVariadic = true →
      (r.clauseSetFor? (r.beyond m)).isSome = true ∧
        ∀ k, m.parameterCount ≤ k → k < r.beyond m → (r.clauseSetFor? k).isSome = true) := by
  have hrange (k : Nat) : k ∈ List.range' m.parameterCount (r.beyond m - m.parameterCount) ↔
      m.parameterCount ≤ k ∧ k < r.beyond m := by
    rw [List.mem_range'_1]
    omega
  cases hown : (r.clauseSetFor? m.parameterCount).isSome with
  | false => simp [verifyMember, hown]
  | true =>
    cases hvariadic : m.isVariadic with
    | false => simp [verifyMember, hown, hvariadic]
    | true =>
      cases hbeyond : (r.clauseSetFor? (r.beyond m)).isSome with
      | false => simp [verifyMember, hown, hvariadic, hbeyond]
      | true =>
        simp only [verifyMember, hown, hvariadic, hbeyond, Bool.not_true, Bool.false_eq_true,
          if_false, true_and, true_imp_iff]
        split
        next count hcount =>
          simp only [reduceCtorEq, false_iff]
          intro hall
          obtain ⟨hlow, hhigh⟩ := (hrange count).mp (List.mem_of_find?_eq_some hcount)
          have hfails := List.find?_some hcount
          simp [hall count hlow hhigh] at hfails
        next hnone =>
          simp only [true_iff]
          intro k hlow hhigh
          have hreached := List.find?_eq_none.mp hnone k ((hrange k).mpr ⟨hlow, hhigh⟩)
          exact Option.isSome_iff_ne_none.mpr (by simpa using hreached)

/-- What is tried for a member is enough: above all sets for exact numbers, one number stands for all. -/
theorem verifyMember_eq_ok_iff :
    r.verifyMember m = .ok () ↔ ∀ n, m.accepts n = true → (r.clauseSetFor? n).isSome = true := by
  obtain ⟨hown, habove⟩ := r.lt_beyond m
  simp only [verifyMember_eq_ok, Member.accepts_iff]
  constructor
  · rintro ⟨hcount, hvariadic⟩ n (rfl | ⟨hv, hle⟩)
    · exact hcount
    · obtain ⟨hbeyond, hbelow⟩ := hvariadic hv
      rcases Nat.lt_or_ge n (r.beyond m) with hlt | hge
      · exact hbelow n hle hlt
      · exact isSome_clauseSetFor?_above habove hge hbeyond
  · intro hall
    refine ⟨hall _ (Or.inl rfl), fun hv => ⟨?_, fun k hle _ => ?_⟩⟩
    · exact hall _ (Or.inr ⟨hv, Nat.le_of_lt hown⟩)
    · exact hall k (Or.inr ⟨hv, hle⟩)

/--
The check passes exactly if the numbers of arguments with a set of their own ascend and there is a set
for every number of arguments that some member takes, be these finitely many or not.
-/
theorem verify_eq_ok_iff (r : Routine) (members : List Member) :
    r.verify members = .ok () ↔ r.fixedArities.Pairwise (· < ·) ∧
      ∀ m ∈ members, ∀ n, m.accepts n = true → (r.clauseSetFor? n).isSome = true := by
  rw [verify, ← isIncreasing_iff]
  cases isIncreasing r.fixedArities with
  | false => simp
  | true =>
    simp only [Bool.not_true, Bool.false_eq_true, if_false, true_and, ← verifyMember_eq_ok_iff]
    exact ⟨eq_ok_of_forM, forM_eq_ok⟩

end Overloads.Routine
