import Overloads.Proofs.Routine.Layout

/-! Assembling a routine always succeeds, and proof mode finds nothing to object to. -/
namespace Overloads

variable {members : List Member} {m : Member} {n : Nat} {memberName name id : String}

theorem isCovered_iff : isCovered members n = true ↔
    ∃ m ∈ members, m.parameterCount = n ∨ m.isVariadic = true ∧ m.parameterCount ≤ n := by
  rw [isCovered, Bool.not_eq_true', List.isEmpty_eq_false_iff_exists_mem]
  constructor
  · rintro ⟨m, hm⟩
    exact ⟨m, mem_candidates.mp hm⟩
  · rintro ⟨m, hm⟩
    exact ⟨m, mem_candidates.mpr hm⟩

theorem candidates_of_widest_lt (h : widest members < n) :
    candidates members n = openTo members (widest members) := by
  have hnone : exactly members n = [] := by
    apply List.eq_nil_iff_forall_not_mem.mpr
    intro m hm
    obtain ⟨hmem, -, hcount⟩ := mem_exactly.mp hm
    have := parameterCount_le_widest hmem
    omega
  have hall : members.filter (fun m => m.isVariadic && m.parameterCount ≤ n) =
      members.filter (fun m => m.isVariadic && m.parameterCount ≤ widest members) := by
    apply List.filter_congr
    intro m hm
    have hle := parameterCount_le_widest hm
    simp [hle, Nat.le_trans hle (Nat.le_of_lt h)]
  rw [candidates, hnone, List.nil_append, openTo, hall, openTo]

theorem find?_eq_ite (ns : List Nat) (n : Nat) :
    ns.find? (fun k => decide (k = n)) = if n ∈ ns then some n else none := by
  induction ns with
  | nil => rfl
  | cons k rest ih =>
    by_cases hk : k = n
    · simp [hk]
    · simp [hk, ih, Ne.symm hk]

namespace Routine

/-- The routine for members of one name. -/
def laidOut (memberName : String) (members : List Member) (name id : String) : Routine where
  name := name
  identifier := id
  memberName := memberName
  owner := (members.head?.map (·.owner.text)).getD ""
  signatures := members.map declaredSignature
  clauseSets := fixedSetsFrom members 0 ++ tailSets members

theorem tail?_laidOut : (laidOut memberName members name id).tail? =
    if (openTo members (widest members)).isEmpty then none
    else some (.ofMembers (widest members) true (openTo members (widest members))) := by
  simp only [tail?, laidOut, tailSets]
  split
  · rename_i s hs
    cases hopen : (openTo members (widest members)).isEmpty with
    | true =>
      simp only [hopen, if_true, List.append_nil] at hs
      obtain ⟨k, -, rfl⟩ := List.mem_map.mp (List.mem_of_getLast? hs)
      simp [fixedSet, ClauseSet.ofMembers]
    | false =>
      simp only [hopen, Bool.false_eq_true, if_false, List.getLast?_append, List.getLast?_singleton,
        Option.some_or, Option.some.injEq] at hs
      subst hs
      simp [ClauseSet.ofMembers]
  · rename_i hs
    simp only [List.getLast?_eq_none_iff, List.append_eq_nil_iff] at hs
    split
    · rfl
    · rename_i hopen
      simp [hopen] at hs

theorem find?_fixedSets : (laidOut memberName members name id).clauseSets.find?
      (fun s => !s.tail && s.arity = n) =
    if n ≤ widest members ∧ isCovered members n = true then some (fixedSet members n)
    else none := by
  have htail : (tailSets members).find? (fun s => !s.tail && s.arity = n) = none := by
    rw [tailSets]
    split <;> simp [ClauseSet.ofMembers]
  have hcomp : (fun s : ClauseSet => !s.tail && decide (s.arity = n)) ∘ fixedSet members =
      fun k => decide (k = n) := by
    funext k
    simp [fixedSet, ClauseSet.ofMembers]
  rw [laidOut, List.find?_append, htail, Option.or_none, fixedSetsFrom, List.find?_map, hcomp,
    find?_eq_ite]
  have hmem : n ∈ (List.range' 0 (widest members + 1 - 0)).filter (isCovered members) ↔
      n ≤ widest members ∧ isCovered members n = true := by
    rw [List.mem_filter, List.mem_range'_1]
    exact and_congr (by omega) Iff.rfl
  simp only [hmem]
  split <;> rfl

/-- The set for a number of arguments, wherever the walk put it. -/
theorem clauseSetFor?_laidOut (n : Nat) :
    (laidOut memberName members name id).clauseSetFor? n =
      if isCovered members n = true then
        some (if n ≤ widest members then fixedSet members n
          else .ofMembers (widest members) true (candidates members n))
      else none := by
  rw [clauseSetFor?, find?_fixedSets, tail?_laidOut]
  rcases Nat.lt_or_ge (widest members) n with hlt | hle
  · have hn : ¬ n ≤ widest members := by omega
    have hreach : widest members ≤ n := by omega
    have hcandidates := candidates_of_widest_lt hlt
    cases hopen : (openTo members (widest members)).isEmpty with
    | true => simp [hn, isCovered, hcandidates, hopen]
    | false =>
      simp [hn, isCovered, hcandidates, hopen, Option.filter, ClauseSet.accepts,
        ClauseSet.ofMembers, hreach]
  · cases hcovered : isCovered members n with
    | true => simp [hle]
    | false =>
      cases hopen : (openTo members (widest members)).isEmpty with
      | true => simp
      | false =>
        -- The last set begins at a number that has a set of its own.
        obtain ⟨m, hm⟩ := List.isEmpty_eq_false_iff_exists_mem.mp hopen
        obtain ⟨hmem, hv, hcount⟩ := mem_openTo.mp hm
        have hne : n ≠ widest members := by
          rintro rfl
          have := isCovered_iff.mpr ⟨m, hmem, Or.inr ⟨hv, hcount⟩⟩
          simp [hcovered] at this
        have hshort : ¬ widest members ≤ n := by omega
        simp [Option.filter, ClauseSet.accepts, ClauseSet.ofMembers, hshort]

theorem isSome_clauseSetFor?_laidOut :
    ((laidOut memberName members name id).clauseSetFor? n).isSome = isCovered members n := by
  rw [clauseSetFor?_laidOut]
  cases isCovered members n <;> simp

theorem fixedArities_laidOut : (laidOut memberName members name id).fixedArities =
    (List.range' 0 (widest members + 1)).filter (isCovered members) := by
  have htail : (tailSets members).filter (!·.tail) = [] := by
    rw [tailSets]
    split <;> simp [ClauseSet.ofMembers]
  have hfixed : (fixedSetsFrom members 0).filter (!·.tail) = fixedSetsFrom members 0 := by
    apply List.filter_eq_self.mpr
    intro s hs
    obtain ⟨k, -, rfl⟩ := List.mem_map.mp hs
    simp [fixedSet, ClauseSet.ofMembers]
  rw [fixedArities, laidOut, List.filter_append, htail, hfixed, List.append_nil, fixedSetsFrom,
    List.map_map]
  exact List.map_id _

theorem isIncreasing_of_pairwise {ns : List Nat} (h : ns.Pairwise (· < ·)) :
    isIncreasing ns = true := by
  induction ns with
  | nil => rfl
  | cons a rest ih =>
    obtain ⟨ha, hrest⟩ := List.pairwise_cons.mp h
    cases rest with
    | nil => rfl
    | cons b rest => simp [isIncreasing, ha b List.mem_cons_self, ih hrest]

theorem le_foldl_max (ns : List Nat) (n : Nat) : n ≤ ns.foldl max n := by
  induction ns generalizing n with
  | nil => exact Nat.le_refl n
  | cons k rest ih => exact Nat.le_trans (Nat.le_max_left n k) (ih (max n k))

theorem verifyMember_laidOut (hm : m ∈ members) :
    (laidOut memberName members name id).verifyMember m = .ok () := by
  have hown : isCovered members m.parameterCount = true := isCovered_iff.mpr ⟨m, hm, Or.inl rfl⟩
  simp only [verifyMember, isSome_clauseSetFor?_laidOut, hown, Bool.not_true, Bool.false_eq_true,
    if_false]
  cases hv : m.isVariadic with
  | false => simp
  | true =>
    have hopen : ∀ k, m.parameterCount ≤ k → isCovered members k = true :=
      fun k hk => isCovered_iff.mpr ⟨m, hm, Or.inr ⟨hv, hk⟩⟩
    have hbeyond : m.parameterCount ≤ beyond (laidOut memberName members name id) m :=
      Nat.le_succ_of_le (le_foldl_max _ _)
    have hgap : (List.range' m.parameterCount
        (beyond (laidOut memberName members name id) m - m.parameterCount)).find?
          (!isCovered members ·) = none := by
      apply List.find?_eq_none.mpr
      intro k hk
      simp [hopen k (List.mem_range'_1.mp hk).1]
    simp [hopen _ hbeyond, hgap]

theorem verify_laidOut : (laidOut memberName members name id).verify members = .ok () := by
  have hincreasing : isIncreasing (laidOut memberName members name id).fixedArities = true := by
    rw [fixedArities_laidOut]
    exact isIncreasing_of_pairwise
      (List.Pairwise.sublist List.filter_sublist List.pairwise_lt_range')
  simp only [verify, hincreasing, Bool.not_true, Bool.false_eq_true, if_false]
  exact forM_eq_ok fun m hm => verifyMember_laidOut hm

/-- Members always make a routine, checked or not. -/
theorem assemble_eq (h : members ≠ []) (proofMode : Bool) (memberName name id : String) :
    assemble proofMode memberName members name id = .ok (laidOut memberName members name id) := by
  cases members with
  | nil => exact (h rfl).elim
  | cons first rest =>
    simp only [assemble, layout_groupByArity h]
    cases proofMode with
    | false => rfl
    | true =>
      have hverify : (laidOut memberName (first :: rest) name id).verify (first :: rest) = .ok () :=
        verify_laidOut
      simp only [laidOut, List.head?_cons, Option.map_some, Option.getD_some] at hverify ⊢
      simp only [bind, Except.bind, if_true, hverify]
      rfl

theorem mem_memberNames :
    memberName ∈ memberNames members ↔ ∃ m ∈ members, m.name = memberName := by
  simp [memberNames, List.mem_eraseDups]

/-- That a routine is for all members of its name. -/
def Gathers (members : List Member) (namePrefix : String) (r : Routine) : Prop :=
  r = laidOut r.memberName (members.filter (·.name = r.memberName))
    (nameFor namePrefix r.memberName) r.identifier

theorem assembleNames_eq {names : List String} (h : ∀ n ∈ names, ∃ m ∈ members, m.name = n)
    (proofMode : Bool) (namePrefix : String) (taken : List String) :
    ∃ rs, assembleNames proofMode namePrefix members taken names = .ok rs ∧
      rs.map (·.memberName) = names ∧ ∀ r ∈ rs, r.Gathers members namePrefix := by
  induction names generalizing taken with
  | nil => exact ⟨[], rfl, rfl, by simp⟩
  | cons n rest ih =>
    obtain ⟨m, hm, hname⟩ := h n List.mem_cons_self
    have hgroup : members.filter (·.name = n) ≠ [] := by
      intro hnone
      have := List.filter_eq_nil_iff.mp hnone m hm
      simp [hname] at this
    let id := Text.uniqueIdentifier (Text.identifier (nameFor namePrefix n) Text.defaultFallback)
      taken
    obtain ⟨rs, hrs, hnames, hgathers⟩ :=
      ih (fun k hk => h k (List.mem_cons_of_mem n hk)) (id :: taken)
    refine ⟨laidOut n (members.filter (·.name = n)) (nameFor namePrefix n) id :: rs, ?_, ?_, ?_⟩
    · rw [assembleNames, assemble_eq hgroup]
      simp only [bind, Except.bind, pure, Except.pure]
      rw [hrs]
    · simpa [laidOut] using hnames
    · intro r hr
      rcases List.mem_cons.mp hr with rfl | hr
      · rfl
      · exact hgathers r hr

/-- One routine for each name, and none is refused. -/
theorem assembleAll_eq (members : List Member) (proofMode : Bool) (namePrefix : String) :
    ∃ rs, assembleAll proofMode namePrefix members = .ok rs ∧
      rs.map (·.memberName) = memberNames members ∧ ∀ r ∈ rs, r.Gathers members namePrefix :=
  assembleNames_eq (fun _ hn => mem_memberNames.mp hn) proofMode namePrefix []

/-- Each routine for some members has its like for others that have all of their names. -/
theorem exists_counterparts {others : List Member}
    (hnames : ∀ m ∈ members, ∃ k ∈ others, k.name = m.name) (proofMode : Bool)
    (namePrefix : String) : ∃ rs rs',
      assembleAll proofMode namePrefix members = .ok rs ∧
      assembleAll proofMode namePrefix others = .ok rs' ∧
      ∀ r ∈ rs, r.Gathers members namePrefix ∧
        ∃ r' ∈ rs', r'.memberName = r.memberName ∧ r'.Gathers others namePrefix := by
  obtain ⟨rs, hrs, hnamed, hgathers⟩ := assembleAll_eq members proofMode namePrefix
  obtain ⟨rs', hrs', hnamed', hgathers'⟩ := assembleAll_eq others proofMode namePrefix
  refine ⟨rs, rs', hrs, hrs', fun r hr => ⟨hgathers r hr, ?_⟩⟩
  obtain ⟨m, hm, hname⟩ := mem_memberNames.mp (hnamed ▸ List.mem_map_of_mem hr)
  obtain ⟨k, hk, hsame⟩ := hnames m hm
  have hnamed : r.memberName ∈ rs'.map (·.memberName) :=
    hnamed' ▸ mem_memberNames.mpr ⟨k, hk, hsame.trans hname⟩
  obtain ⟨r', hr', hname'⟩ := List.mem_map.mp hnamed
  exact ⟨r', hr', hname', hgathers' r' hr'⟩

theorem member_of_clause {s : ClauseSet} {clause : Clause}
    (hs : s ∈ (laidOut memberName members name id).clauseSets) (hclause : clause ∈ s.clauses) :
    clause.member ∈ members := by
  rcases List.mem_append.mp hs with hfixed | htail
  · obtain ⟨k, -, rfl⟩ := List.mem_map.mp hfixed
    obtain ⟨m, hm, rfl⟩ := List.mem_map.mp hclause
    exact (mem_candidates.mp hm).1
  · unfold tailSets at htail
    split at htail
    · cases htail
    · obtain rfl := List.mem_singleton.mp htail
      obtain ⟨m, hm, rfl⟩ := List.mem_map.mp hclause
      exact (mem_openTo.mp hm).1

/-- Every member that takes an argument is tried, with a guard, on as many as it has parameters. -/
theorem exists_clause (hm : m ∈ members) (hcount : 0 < m.parameterCount) :
    ∃ s ∈ (laidOut memberName members name id).clauseSets,
      ⟨m, m.parameterCount, false, true⟩ ∈ s.clauses := by
  have hle := parameterCount_le_widest hm
  have hcovered : isCovered members m.parameterCount = true := isCovered_iff.mpr ⟨m, hm, Or.inl rfl⟩
  have hfind : (laidOut memberName members name id).clauseSets.find?
      (fun s => !s.tail && s.arity = m.parameterCount) =
        some (fixedSet members m.parameterCount) := by
    rw [find?_fixedSets, if_pos ⟨hle, hcovered⟩]
  refine ⟨_, List.mem_of_find?_eq_some hfind, ?_⟩
  have hmem : m ∈ candidates members m.parameterCount := mem_candidates.mpr ⟨hm, Or.inl rfl⟩
  have hne : m.parameterCount ≠ 0 := by omega
  simpa [fixedSet, ClauseSet.ofMembers, hne] using hmem

end Routine

end Overloads
