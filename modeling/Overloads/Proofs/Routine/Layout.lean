import Overloads.Routine.Assembly
import Overloads.Proofs.Outcome
import Overloads.Proofs.Routine.Grouping

/-! The clause sets of a routine, said without the walk through the buckets that makes them. -/
namespace Overloads

variable {members fixed variadic : List Member} {m : Member} {n k next : Nat} {pre ks : List Nat}

/-- The members that take `n` arguments and no more, in order. -/
def exactly (members : List Member) (n : Nat) : List Member :=
  members.filter fun m => !m.isVariadic && m.parameterCount = n

/-- The variadic members that `n` arguments are enough for, those with fewer parameters first. -/
def openTo (members : List Member) (n : Nat) : List Member :=
  sortedBy Member.parameterCount (members.filter fun m => m.isVariadic && m.parameterCount ≤ n)

/-- The members that are tried on `n` arguments, in the order in which they are tried. -/
def candidates (members : List Member) (n : Nat) : List Member :=
  exactly members n ++ openTo members n

/-- The largest number of parameters. -/
def widest (members : List Member) : Nat := (members.map (·.parameterCount)).foldr max 0

theorem mem_exactly : m ∈ exactly members n ↔
    m ∈ members ∧ m.isVariadic = false ∧ m.parameterCount = n := by
  simp [exactly]

theorem mem_openTo : m ∈ openTo members n ↔
    m ∈ members ∧ m.isVariadic = true ∧ m.parameterCount ≤ n := by
  simp [openTo]

theorem mem_candidates : m ∈ candidates members n ↔
    m ∈ members ∧ (m.parameterCount = n ∨ m.isVariadic = true ∧ m.parameterCount ≤ n) := by
  rw [candidates, List.mem_append, mem_exactly, mem_openTo]
  constructor
  · rintro (⟨hm, -, hn⟩ | ⟨hm, hv, hn⟩)
    · exact ⟨hm, Or.inl hn⟩
    · exact ⟨hm, Or.inr ⟨hv, hn⟩⟩
  · rintro ⟨hm, hn | ⟨hv, hn⟩⟩
    · cases hv : m.isVariadic with
      | false => exact Or.inl ⟨hm, rfl, hn⟩
      | true => exact Or.inr ⟨hm, rfl, Nat.le_of_eq hn⟩
    · exact Or.inr ⟨hm, hv, hn⟩

/-- Whether a member takes `n` arguments. -/
def Member.accepts (m : Member) (n : Nat) : Bool :=
  m.parameterCount = n || (m.isVariadic && m.parameterCount ≤ n)

theorem Member.accepts_iff : m.accepts n = true ↔
    m.parameterCount = n ∨ m.isVariadic = true ∧ m.parameterCount ≤ n := by
  simp [Member.accepts]

/-- The members that take `n` arguments are tried, those with a variadic parameter last. -/
theorem candidates_perm (members : List Member) (n : Nat) :
    (candidates members n).Perm (members.filter (·.accepts n)) := by
  have hexactly : exactly members n =
      (members.filter (·.accepts n)).filter fun m => !m.isVariadic := by
    rw [exactly, List.filter_filter]
    apply List.filter_congr
    intro m _
    cases hv : m.isVariadic <;> simp [Member.accepts, hv]
  have hopen : members.filter (fun m => m.isVariadic && m.parameterCount ≤ n) =
      (members.filter (·.accepts n)).filter fun m => m.isVariadic := by
    rw [List.filter_filter]
    apply List.filter_congr
    intro m _
    have hcount : (m.parameterCount = n ∨ m.parameterCount ≤ n) ↔ m.parameterCount ≤ n := by omega
    cases hv : m.isVariadic with
    | false => simp
    | true => simp [Member.accepts, hv, ← Bool.decide_or, hcount]
  have hperm : (openTo members n).Perm ((members.filter (·.accepts n)).filter (·.isVariadic)) := by
    rw [← hopen]
    exact List.mergeSort_perm _ _
  rw [candidates, hexactly]
  exact (List.perm_append_comm.trans (hperm.append_right _)).trans (List.filter_append_perm _ _)

theorem parameterCount_le_widest (hm : m ∈ members) : m.parameterCount ≤ widest members := by
  induction members with
  | nil => cases hm
  | cons first rest ih =>
    simp only [widest, List.map_cons, List.foldr_cons] at ih ⊢
    rcases List.mem_cons.mp hm with rfl | hm
    · exact Nat.le_max_left ..
    · exact Nat.le_trans (ih hm) (Nat.le_max_right ..)

theorem exists_widest (h : members ≠ []) : ∃ m ∈ members, m.parameterCount = widest members := by
  induction members with
  | nil => exact (h rfl).elim
  | cons first rest ih =>
    simp only [widest, List.map_cons, List.foldr_cons] at ih ⊢
    cases rest with
    | nil => exact ⟨first, List.mem_cons_self, by simp⟩
    | cons second rest =>
      obtain ⟨m, hm, hcount⟩ := ih (by simp)
      rcases Nat.le_total first.parameterCount m.parameterCount with hle | hle
      · exact ⟨m, List.mem_cons_of_mem _ hm, by omega⟩
      · exact ⟨first, List.mem_cons_self, by omega⟩

/-- The variadic members with `k` parameters. -/
def variadicWith (members : List Member) (k : Nat) : List Member :=
  members.filter fun m => m.isVariadic && m.parameterCount = k

theorem mem_variadicWith : m ∈ variadicWith members k ↔
    m ∈ members ∧ m.isVariadic = true ∧ m.parameterCount = k := by
  simp [variadicWith]

theorem groupByArity_eq (members : List Member) :
    groupByArity members = (ascending (members.map (·.parameterCount))).map fun k =>
      ⟨k, exactly members k, variadicWith members k⟩ := by
  simp [groupByArity, exactly, variadicWith, List.filter_filter]

/--
The walk has passed the buckets with `pre` parameters and those with `ks` lie ahead. Every number of
arguments below `next` is settled.
-/
structure Walk (members : List Member) (pre ks : List Nat) (next : Nat) : Prop where
  split : pre ++ ks = ascending (members.map (·.parameterCount))
  passed : ∀ k ∈ pre, k < next
  ahead : ∀ k ∈ ks, next ≤ k
  bounded : next ≤ widest members + 1

namespace Walk

theorem start (members : List Member) :
    Walk members [] (ascending (members.map (·.parameterCount))) 0 :=
  ⟨rfl, by simp, by simp, Nat.zero_le _⟩

theorem count_mem (h : Walk members pre ks next) (hm : m ∈ members) :
    m.parameterCount ∈ pre ++ ks := by
  rw [h.split, mem_ascending]
  exact List.mem_map_of_mem hm

theorem member_of_count (h : Walk members pre ks next) (hk : k ∈ pre ++ ks) :
    ∃ m ∈ members, m.parameterCount = k := by
  rw [h.split, mem_ascending] at hk
  simpa using hk

theorem increasing (h : Walk members pre ks next) : (pre ++ ks).Pairwise (· < ·) :=
  h.split ▸ ascending_increasing _

/-- Passing one bucket more. -/
theorem step (h : Walk members pre (k :: ks) next) : Walk members (pre ++ [k]) ks (k + 1) where
  split := by simpa using h.split
  passed := by
    intro k' hk'
    have hk := h.ahead k List.mem_cons_self
    rcases List.mem_append.mp hk' with hk' | hk'
    · have := h.passed k' hk'
      omega
    · have := List.mem_singleton.mp hk'
      omega
  ahead := (List.pairwise_cons.mp (List.pairwise_append.mp h.increasing).2.1).1
  bounded := by
    obtain ⟨m, hm, rfl⟩ := h.member_of_count (by simp : k ∈ pre ++ k :: ks)
    exact Nat.succ_le_succ (parameterCount_le_widest hm)

theorem finished (h : Walk members pre [] next) (hm : members ≠ []) :
    next = widest members + 1 := by
  obtain ⟨m, hmem, hcount⟩ := exists_widest hm
  have hpassed := h.passed m.parameterCount (by simpa using h.count_mem hmem)
  have := h.bounded
  omega

/-- The members open to `n` are those of the buckets up to `n`, bucket after bucket. -/
theorem openTo_eq (h : Walk members pre ks next) (hpre : ∀ k ∈ pre, k ≤ n) (hks : ∀ k ∈ ks, n < k) :
    openTo members n = pre.flatMap (variadicWith members) := by
  have hkeys : ∀ m ∈ members.filter (fun m => m.isVariadic && m.parameterCount ≤ n),
      m.parameterCount ∈ pre := by
    intro m hm
    simp only [List.mem_filter, Bool.and_eq_true, decide_eq_true_eq] at hm
    rcases List.mem_append.mp (h.count_mem hm.1) with hk | hk
    · exact hk
    · have := hks _ hk
      omega
  rw [openTo, sortedBy_eq_flatMap (List.pairwise_append.mp h.increasing).1 hkeys]
  apply congrArg List.flatten
  apply List.map_congr_left
  intro k hk
  have hle := hpre k hk
  rw [List.filter_filter]
  apply List.filter_congr
  intro m _
  by_cases hm : m.parameterCount = k <;> simp [hm, hle]

/-- Between two buckets the members of the ones passed are tried, and no others. -/
theorem candidates_eq (h : Walk members pre ks next) (hn : next ≤ n) (hks : ∀ k ∈ ks, n < k) :
    candidates members n = pre.flatMap (variadicWith members) := by
  have hpre : ∀ k ∈ pre, k < n := fun k hk => Nat.lt_of_lt_of_le (h.passed k hk) hn
  have hnone : exactly members n = [] := by
    apply List.eq_nil_iff_forall_not_mem.mpr
    intro m hm
    obtain ⟨hmem, -, rfl⟩ := mem_exactly.mp hm
    rcases List.mem_append.mp (h.count_mem hmem) with hk | hk
    · exact absurd (hpre _ hk) (Nat.lt_irrefl _)
    · exact absurd (hks _ hk) (Nat.lt_irrefl _)
  rw [candidates, hnone, List.nil_append]
  exact h.openTo_eq (fun k hk => Nat.le_of_lt (hpre k hk)) hks

theorem active_fits (h : Walk members pre ks next) (hm : m ∈ pre.flatMap (variadicWith members)) :
    m.isVariadic = true ∧ m.parameterCount < next := by
  obtain ⟨k, hk, hm⟩ := List.mem_flatMap.mp hm
  obtain ⟨-, hv, rfl⟩ := mem_variadicWith.mp hm
  exact ⟨hv, h.passed _ hk⟩

end Walk

namespace ClauseSet

/-- The set of clauses for some members. Only a single one that gets no arguments goes unguarded. -/
def ofMembers (arity : Nat) (tail : Bool) (members : List Member) : ClauseSet where
  arity := arity
  clauses := members.map fun m => ⟨m, arity, tail, tail || !(arity = 0 && members.length = 1)⟩
  owner := (members.head?.map (·.owner.text)).getD ""
  memberName := (members.head?.map (·.name)).getD ""
  tail := tail

theorem fixed?_eq (h : fixed ++ variadic ≠ []) (hf : ∀ m ∈ fixed, fitsFixed n m)
    (hv : ∀ m ∈ variadic, fitsVariadic n m) :
    fixed? n fixed variadic = .ok (ofMembers n false (fixed ++ variadic)) := by
  have hfixed : fixed.find? (!fitsFixed n ·) = none := by simpa using hf
  have hvariadic : variadic.find? (!fitsVariadic n ·) = none := by simpa using hv
  cases hall : fixed ++ variadic with
  | nil => exact (h hall).elim
  | cons first rest =>
    have hrest : rest.isEmpty = decide (rest = []) := by cases rest <;> rfl
    simp [fixed?, hall, hfixed, hvariadic, ofMembers, hrest]

theorem tail?_eq (h : variadic ≠ []) (hv : ∀ m ∈ variadic, fitsVariadic n m) :
    tail? n variadic = .ok (ofMembers n true variadic) := by
  have hvariadic : variadic.find? (!fitsVariadic n ·) = none := by simpa using hv
  cases variadic with
  | nil => exact (h rfl).elim
  | cons first rest =>
    simp only [tail?, hvariadic]
    simp [ofMembers]

end ClauseSet

theorem fitsFixed_exactly : ∀ m ∈ exactly members n, ClauseSet.fitsFixed n m := by
  intro m hm
  obtain ⟨-, hv, hn⟩ := mem_exactly.mp hm
  simp [ClauseSet.fitsFixed, hv, hn]

theorem fitsVariadic_openTo : ∀ m ∈ openTo members n, ClauseSet.fitsVariadic n m := by
  intro m hm
  obtain ⟨-, hv, hn⟩ := mem_openTo.mp hm
  simp [ClauseSet.fitsVariadic, hv, hn]

/-- Whether some member is tried on `n` arguments. -/
def isCovered (members : List Member) (n : Nat) : Bool := !(candidates members n).isEmpty

/-- The set for exactly `n` arguments. -/
def fixedSet (members : List Member) (n : Nat) : ClauseSet :=
  .ofMembers n false (candidates members n)

/-- The sets for exact numbers of arguments, from `next` on. -/
def fixedSetsFrom (members : List Member) (next : Nat) : List ClauseSet :=
  ((List.range' next (widest members + 1 - next)).filter (isCovered members)).map (fixedSet members)

/-- The set for every larger number of arguments, if there are variadic members. -/
def tailSets (members : List Member) : List ClauseSet :=
  if (openTo members (widest members)).isEmpty then []
  else [.ofMembers (widest members) true (openTo members (widest members))]

theorem fixedSetsFrom_eq_append (hn : next ≤ k) (hk : k ≤ widest members)
    (hcovered : isCovered members k = true) :
    fixedSetsFrom members next =
      ((List.range' next (k - next)).filter (isCovered members)).map (fixedSet members) ++
        fixedSet members k :: fixedSetsFrom members (k + 1) := by
  have hsplit : List.range' next (widest members + 1 - next) =
      List.range' next (k - next) ++ k :: List.range' (k + 1) (widest members + 1 - (k + 1)) := by
    have hlength : widest members + 1 - next = (k - next) + (widest members + 1 - (k + 1) + 1) := by
      omega
    have hstart : next + 1 * (k - next) = k := by omega
    rw [hlength, ← List.range'_append, hstart, List.range'_succ]
  simp [fixedSetsFrom, hsplit, hcovered]

namespace Routine

/-- What fills the numbers of arguments before the next bucket. -/
theorem gaps_eq (h : Walk members pre (k :: ks) next) :
    (if (pre.flatMap (variadicWith members)).isEmpty then [] else List.range' next (k - next)).mapM
        (fun (arity : Nat) => ClauseSet.fixed? arity [] (pre.flatMap (variadicWith members))) =
      .ok (((List.range' next (k - next)).filter (isCovered members)).map (fixedSet members)) := by
  have hrange : ∀ n ∈ List.range' next (k - next), next ≤ n ∧
      candidates members n = pre.flatMap (variadicWith members) := by
    intro n hn
    rw [List.mem_range'_1] at hn
    refine ⟨hn.1, h.candidates_eq hn.1 ?_⟩
    intro k' hk'
    rcases List.mem_cons.mp hk' with rfl | hk'
    · omega
    · have := h.step.ahead k' hk'
      omega
  cases hempty : (pre.flatMap (variadicWith members)).isEmpty with
  | true =>
    have hnone : (List.range' next (k - next)).filter (isCovered members) = [] := by
      apply List.filter_eq_nil_iff.mpr
      intro n hn
      simp [isCovered, hrange n hn, hempty]
    rw [hnone]
    rfl
  | false =>
    have hall : (List.range' next (k - next)).filter (isCovered members) =
        List.range' next (k - next) := by
      apply List.filter_eq_self.mpr
      intro n hn
      simp [isCovered, hrange n hn, hempty]
    rw [hall]
    apply mapM_eq_ok
    intro n hn
    obtain ⟨hle, hcandidates⟩ := hrange n hn
    rw [fixedSet, hcandidates]
    apply ClauseSet.fixed?_eq (by simpa using hempty) (by simp)
    intro m hm
    obtain ⟨hv, hlt⟩ := h.active_fits hm
    simp only [ClauseSet.fitsVariadic, hv, Bool.true_and, decide_eq_true_eq]
    omega

/-- The set for the next bucket. -/
theorem own_eq (h : Walk members pre (k :: ks) next) :
    isCovered members k = true ∧
    ClauseSet.fixed? k (exactly members k)
        (pre.flatMap (variadicWith members) ++ variadicWith members k) =
      .ok (fixedSet members k) := by
  have hopen : openTo members k = pre.flatMap (variadicWith members) ++ variadicWith members k := by
    simpa using
      h.step.openTo_eq (fun k' hk' => Nat.le_of_lt_succ (h.step.passed k' hk')) h.step.ahead
  obtain ⟨m, hm, hcount⟩ := h.member_of_count (by simp : k ∈ pre ++ k :: ks)
  have hne := List.ne_nil_of_mem (mem_candidates.mpr ⟨hm, Or.inl hcount⟩)
  rw [← hopen]
  exact ⟨by simpa [isCovered] using hne,
    ClauseSet.fixed?_eq hne fitsFixed_exactly fitsVariadic_openTo⟩

/-- The walk from `next` on, with the variadic members of the buckets behind it active. -/
theorem layout_walk (hm : members ≠ []) (h : Walk members pre ks next) :
    layout next (pre.flatMap (variadicWith members))
        (ks.map fun k => ⟨k, exactly members k, variadicWith members k⟩) =
      .ok (fixedSetsFrom members next ++ tailSets members) := by
  induction ks generalizing pre next with
  | nil =>
    have hend := h.finished hm
    have hopen : openTo members (widest members) = pre.flatMap (variadicWith members) :=
      h.openTo_eq (fun k hk => by have := h.passed k hk; omega) (by simp)
    subst hend
    rw [← hopen]
    simp only [layout, List.map_nil, fixedSetsFrom, tailSets, Nat.sub_self, List.range'_zero,
      List.filter_nil, List.nil_append, Nat.add_sub_cancel]
    split
    · rfl
    · rename_i hne
      rw [ClauseSet.tail?_eq (by simpa using hne) fitsVariadic_openTo]
      rfl
  | cons k rest ih =>
    obtain ⟨hcovered, hown⟩ := own_eq h
    have hlater := ih h.step
    rw [List.flatMap_append, List.flatMap_singleton] at hlater
    have hwide := Nat.le_of_succ_le_succ h.step.bounded
    rw [fixedSetsFrom_eq_append (h.ahead k List.mem_cons_self) hwide hcovered]
    simp only [layout, List.map_cons, gaps_eq h, hown, hlater, bind, Except.bind, pure, Except.pure]
    simp

theorem layout_groupByArity (h : members ≠ []) :
    layout 0 [] (groupByArity members) = .ok (fixedSetsFrom members 0 ++ tailSets members) := by
  rw [groupByArity_eq]
  exact layout_walk h (.start members)

end Routine

end Overloads
