import Overloads.Proofs.Routine.FirstTaker

/-! The numbers of arguments that have a set of clauses of their own, and the set for all larger ones. -/
namespace Overloads

variable {members : List Member} {s : ClauseSet} {n : Nat}

/-- That all variadic members are in a set, which is tried from the largest number of parameters on. -/
structure ClauseSet.EndsFor (members : List Member) (s : ClauseSet) : Prop where
  tail : s.tail = true
  reached : ∃ m ∈ members, m.parameterCount = s.arity
  largest : ∀ m ∈ members, m.parameterCount ≤ s.arity
  ordered : (s.clauses.map (·.member)).Pairwise fun a b => a.parameterCount ≤ b.parameterCount
  stable : ∀ k, (s.clauses.map (·.member)).filter (·.parameterCount = k) = variadicWith members k

/--
That some members have the sets `fixed` for exact numbers of arguments and then perhaps a last one. A
number without a member of its own has a set exactly if it lies between a variadic member and another.
-/
structure SetsFor (members : List Member) (fixed : List ClauseSet) (last : Option ClauseSet) :
    Prop where
  exact : ∀ s ∈ fixed, s.tail = false
  ascending : fixed.Pairwise fun s t => s.arity < t.arity
  fixed_iff : ∀ n, (∃ s ∈ fixed, s.arity = n) ↔
    (∃ m ∈ members, m.parameterCount = n) ∨
      (∃ m ∈ members, m.isVariadic = true ∧ m.parameterCount ≤ n) ∧
        ∃ m ∈ members, n ≤ m.parameterCount
  last_iff : last.isSome = true ↔ ∃ m ∈ members, m.isVariadic = true
  ends : ∀ s ∈ last, s.EndsFor members

theorem le_widest_iff (h : members ≠ []) :
    n ≤ widest members ↔ ∃ m ∈ members, n ≤ m.parameterCount := by
  constructor
  · intro hn
    obtain ⟨m, hm, hcount⟩ := exists_widest h
    exact ⟨m, hm, hcount ▸ hn⟩
  · rintro ⟨m, hm, hn⟩
    exact Nat.le_trans hn (parameterCount_le_widest hm)

theorem ClauseSet.EndsFor.arity_eq (h : s.EndsFor members) : s.arity = widest members := by
  obtain ⟨m, hm, hcount⟩ := h.reached
  obtain ⟨m', hm', hwidest⟩ := exists_widest (List.ne_nil_of_mem hm)
  apply Nat.le_antisymm
  · exact hcount ▸ parameterCount_le_widest hm
  · exact hwidest ▸ h.largest m' hm'

/-- No number of parameters is above the largest, so that all variadic members are open there. -/
theorem openTo_widest (members : List Member) : openTo members (widest members) =
    sortedBy Member.parameterCount (members.filter (·.isVariadic)) := by
  have hall : members.filter (fun m => m.isVariadic && m.parameterCount ≤ widest members) =
      members.filter (·.isVariadic) := by
    apply List.filter_congr
    intro m hm
    simp [parameterCount_le_widest hm]
  rw [openTo, hall]

theorem members_ofMembers (k : Nat) (tail : Bool) (ms : List Member) :
    (ClauseSet.ofMembers k tail ms).clauses.map (·.member) = ms := by
  simp [ClauseSet.ofMembers, Function.comp_def]

theorem mem_fixedSetsFrom : s ∈ fixedSetsFrom members 0 ↔
    ∃ n, (n ≤ widest members ∧ isCovered members n = true) ∧ fixedSet members n = s := by
  simp only [fixedSetsFrom, List.mem_map, List.mem_filter, List.mem_range'_1, Nat.zero_le, true_and,
    Nat.sub_zero, Nat.zero_add, Nat.lt_succ_iff]

theorem fixedSetsFrom_ascending (members : List Member) :
    (fixedSetsFrom members 0).Pairwise fun s t => s.arity < t.arity :=
  List.pairwise_map.mpr (List.Pairwise.sublist List.filter_sublist List.pairwise_lt_range')

theorem exists_fixedSet_iff (h : members ≠ []) (n : Nat) :
    (∃ s ∈ fixedSetsFrom members 0, s.arity = n) ↔
      (∃ m ∈ members, m.parameterCount = n) ∨
        (∃ m ∈ members, m.isVariadic = true ∧ m.parameterCount ≤ n) ∧
          ∃ m ∈ members, n ≤ m.parameterCount := by
  have hexists : (∃ s ∈ fixedSetsFrom members 0, s.arity = n) ↔
      n ≤ widest members ∧ isCovered members n = true := by
    constructor
    · rintro ⟨s, hs, rfl⟩
      obtain ⟨k, hk, rfl⟩ := mem_fixedSetsFrom.mp hs
      exact hk
    · exact fun hn => ⟨fixedSet members n, mem_fixedSetsFrom.mpr ⟨n, hn, rfl⟩, rfl⟩
  rw [hexists, le_widest_iff h, isCovered_iff]
  constructor
  · rintro ⟨hbelow, m, hm, hcount | hopen⟩
    · exact Or.inl ⟨m, hm, hcount⟩
    · exact Or.inr ⟨⟨m, hm, hopen⟩, hbelow⟩
  · rintro (⟨m, hm, hcount⟩ | ⟨⟨m, hm, hopen⟩, hbelow⟩)
    · exact ⟨⟨m, hm, Nat.le_of_eq hcount.symm⟩, m, hm, Or.inl hcount⟩
    · exact ⟨hbelow, m, hm, Or.inr hopen⟩

theorem endsFor_ofMembers (h : members ≠ []) :
    (ClauseSet.ofMembers (widest members) true (openTo members (widest members))).EndsFor
      members where
  tail := rfl
  reached := exists_widest h
  largest := fun _ hm => parameterCount_le_widest hm
  ordered := by
    rw [members_ofMembers]
    exact sortedBy_ordered _ _
  stable := by
    intro k
    rw [members_ofMembers, openTo_widest, filter_sortedBy, List.filter_filter, variadicWith]
    apply List.filter_congr
    intro m _
    exact Bool.and_comm ..

namespace Routine

variable {memberName name id : String}

theorem clauseSets_laidOut : (laidOut memberName members name id).clauseSets =
    fixedSetsFrom members 0 ++ (laidOut memberName members name id).tail?.toList := by
  rw [tail?_laidOut, laidOut, tailSets]
  split <;> rfl

theorem isSome_tail?_laidOut : (laidOut memberName members name id).tail?.isSome = true ↔
    ∃ m ∈ members, m.isVariadic = true := by
  have hsome : (laidOut memberName members name id).tail?.isSome = true ↔
      (openTo members (widest members)).isEmpty = false := by
    rw [tail?_laidOut]
    cases (openTo members (widest members)).isEmpty <;> simp
  rw [hsome, List.isEmpty_eq_false_iff_exists_mem, openTo_widest]
  simp

theorem setsFor_laidOut (h : members ≠ []) :
    SetsFor members (fixedSetsFrom members 0) (laidOut memberName members name id).tail? where
  exact := by
    intro s hs
    obtain ⟨n, -, rfl⟩ := mem_fixedSetsFrom.mp hs
    rfl
  ascending := fixedSetsFrom_ascending members
  fixed_iff := exists_fixedSet_iff h
  last_iff := isSome_tail?_laidOut
  ends := by
    intro s hs
    rw [tail?_laidOut] at hs
    split at hs
    · cases hs
    · cases hs
      exact endsFor_ofMembers h

/--
Members always make a routine. Its sets for exact numbers of arguments ascend. Up to the largest number of
parameters none is left out once a variadic member is open, and from there on the last set answers.
-/
theorem clauseSets_of_members (h : members ≠ []) (proofMode : Bool) (namePrefix memberName : String)
    (name id : Option String) :
    ∃ (r : Routine) (fixed : List ClauseSet) (last : Option ClauseSet),
      assembleNamed proofMode namePrefix memberName members name id = .ok r ∧
        r.clauseSets = fixed ++ last.toList ∧ SetsFor members fixed last :=
  ⟨_, _, _, assemble_eq h proofMode memberName _ _, clauseSets_laidOut, setsFor_laidOut h⟩

/-- Members for none, for two or more and for four arguments. -/
def spread : List Member :=
  [.tracing [] none, .tracing [.object, .object] (some .object),
    .tracing [.object, .object, .object, .object] none]

/-- One argument is left out, three are not, and the last set begins at four. -/
theorem clauseSets_of_spread : spread ≠ [] ∧
    ∃ (r : Routine) (fixed : List ClauseSet) (last : Option ClauseSet),
      assembleNamed true "" "f" spread none none = .ok r ∧ r.clauseSets = fixed ++ last.toList ∧
        (¬ ∃ s ∈ fixed, s.arity = 1) ∧ (∃ s ∈ fixed, s.arity = 3) ∧ ∃ s ∈ last, s.arity = 4 := by
  have hne : spread ≠ [] := by simp [spread]
  obtain ⟨r, fixed, last, hr, hsets, h⟩ := clauseSets_of_members hne true "" "f" none none
  have hlast : last.isSome = true := by
    rw [h.last_iff]
    simp [spread, Member.tracing, Member.isVariadic]
  obtain ⟨s, hs⟩ := Option.isSome_iff_exists.mp hlast
  refine ⟨hne, r, fixed, last, hr, hsets, ?_, ?_, s, hs, (h.ends s hs).arity_eq⟩
  · rw [h.fixed_iff]
    simp [spread, Member.tracing, Member.parameterCount, Member.isVariadic]
  · rw [h.fixed_iff]
    simp [spread, Member.tracing, Member.parameterCount, Member.isVariadic]

end Routine

end Overloads
