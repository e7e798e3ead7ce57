import Overloads.Proofs.Source.Shadowing

/-! The dotted paths that rendered functions refer to: those of their members, and no others. -/
namespace Overloads

variable {p : String}

namespace Source

/-- The paths that a test for a type refers to. -/
def typePaths (hook : Option String) (t : TypeRef) : List String := t.boxed.text :: hook.toList

end Source

/-- The paths that are needed to try a member and to call it. -/
def Member.paths (hook : Option String) (m : Member) : List String :=
  m.path :: m.testedTypes.flatMap (Source.typePaths hook)

namespace Source

variable {hook : Option String} {e : Expr} {t : TypeRef} {c : Clause} {s : ClauseSet}
variable {members : List Member} {member : Member} {memberName id : String}
variable {documented : Option (Option Int)}

theorem mem_paths_coercedBy (he : e.paths = []) : p ∈ (coercedBy hook e t).paths ↔
    hook.isSome = true ∧ p ∈ typePaths hook t := by
  cases hook with
  | none => simp [coercedBy, he]
  | some path => simp [coercedBy, Expr.paths, typePaths, he, or_comm]

theorem paths_castFor (t : TypeRef) (e : Expr) : (castFor t e).paths = e.paths := by
  unfold castFor
  cases t.cast? <;> rfl

/-- A test for a type refers to the type, and to the hook if there is one. -/
theorem mem_paths_test (he : e.paths = []) : p ∈ t.boxed.text :: (coercedBy hook e t).paths ↔
    p ∈ typePaths hook t := by
  rw [List.mem_cons, mem_paths_coercedBy he]
  cases hook <;> simp [typePaths]

/-- The types that a clause tests its arguments for. -/
def guardedTypes (c : Clause) : List TypeRef :=
  c.guardTypes ++ if c.tail then c.member.varargs.toList else []

theorem mem_paths_guardTests (htail : c.tail = true → c.member.isVariadic = true) :
    p ∈ (guardTests hook c).flatMap (·.paths) ↔ ∃ t ∈ guardedTypes c, p ∈ typePaths hook t := by
  have hleading : (∃ test ∈ c.guardTypes.mapIdx fun i t =>
      Test.isInstance (coercedBy hook (.argument i) t) t.boxed.text, p ∈ test.paths) ↔
        ∃ t ∈ c.guardTypes, p ∈ typePaths hook t := by
    constructor
    · rintro ⟨test, htest, hp⟩
      obtain ⟨i, hi, rfl⟩ := List.mem_mapIdx.mp htest
      exact ⟨_, List.getElem_mem hi, (mem_paths_test rfl).mp hp⟩
    · rintro ⟨t, ht, hp⟩
      obtain ⟨i, hi, rfl⟩ := List.getElem_of_mem ht
      exact ⟨_, List.mem_mapIdx.mpr ⟨i, hi, rfl⟩, (mem_paths_test rfl).mpr hp⟩
  rw [List.mem_flatMap, guardTests, guardedTypes]
  split
  · rename_i hc
    obtain ⟨element, helement⟩ := Option.isSome_iff_exists.mp (htail hc)
    have hfurther : p ∈ (Test.allInstances c.arity (coercedBy hook .item element)
        element.boxed.text).paths ↔ p ∈ typePaths hook element := mem_paths_test rfl
    simp only [helement, Option.getD_some, Option.toList_some, List.mem_append, or_and_right,
      exists_or, hleading, List.mem_singleton, exists_eq_left, hfurther]
  · simp only [List.append_nil, hleading]

/-- A call refers to its target, and for what it coerces to the hook and to the types. -/
theorem mem_paths_invocation : p ∈ (invocation hook c).paths ↔ p = c.member.path ∨
    hook.isSome = true ∧ ∃ t ∈ c.member.testedTypes, p ∈ typePaths hook t := by
  have hleading : (∃ a ∈ c.member.declared.mapIdx fun i t =>
      Passed.one (castFor t (coercedBy hook (.argument i) t)), p ∈ a.paths) ↔
        hook.isSome = true ∧ ∃ t ∈ c.member.declared, p ∈ typePaths hook t := by
    have hpassed (i : Nat) (t : TypeRef) :
        p ∈ (Passed.one (castFor t (coercedBy hook (.argument i) t))).paths ↔
          hook.isSome = true ∧ p ∈ typePaths hook t := by
      rw [Passed.paths, paths_castFor, mem_paths_coercedBy rfl]
    constructor
    · rintro ⟨a, ha, hp⟩
      obtain ⟨i, hi, rfl⟩ := List.mem_mapIdx.mp ha
      obtain ⟨hsome, hp⟩ := (hpassed i _).mp hp
      exact ⟨hsome, _, List.getElem_mem hi, hp⟩
    · rintro ⟨hsome, t, ht, hp⟩
      obtain ⟨i, hi, rfl⟩ := List.getElem_of_mem ht
      exact ⟨_, List.mem_mapIdx.mpr ⟨i, hi, rfl⟩, (hpassed i _).mpr ⟨hsome, hp⟩⟩
  have hpaths : p ∈ (invocation hook c).paths ↔ p = c.member.path ∨
      (∃ a ∈ c.member.declared.mapIdx fun i t =>
        Passed.one (castFor t (coercedBy hook (.argument i) t)), p ∈ a.paths) ∨
      hook.isSome = true ∧ ∃ t ∈ c.member.varargs, p ∈ typePaths hook t := by
    rw [Invocation.paths, List.mem_cons, List.mem_flatMap]
    cases hvarargs : c.member.varargs with
    | none => simp [invocation, hvarargs]
    | some element =>
      cases hook with
      | none => simp [invocation, hvarargs, Passed.paths]
      | some path =>
        have hfurther : p ∈ (Passed.each c.member.parameterCount
            (coercedBy (some path) .item element)).paths ↔ p ∈ typePaths (some path) element := by
          rw [Passed.paths, mem_paths_coercedBy rfl]
          simp
        simp [invocation, hvarargs, or_and_right, exists_or, hfurther]
  rw [hpaths, hleading]
  simp only [Member.testedTypes, List.mem_append, Option.mem_toList, Option.mem_def, or_and_right,
    exists_or, and_or_left]

theorem mem_guardedTypes (htail : t ∈ guardedTypes c) : t ∈ c.member.testedTypes := by
  rcases List.mem_append.mp htail with ht | ht
  · exact Member.mem_testedTypes ht
  · split at ht
    · exact List.mem_append_right _ ht
    · cases ht

/-- A clause refers to the paths of its member. -/
theorem mem_paths_of_clause (htail : c.tail = true → c.member.isVariadic = true)
    (h : p ∈ (guardTests hook c).flatMap (·.paths) ∨ p ∈ (invocation hook c).paths) :
    p ∈ c.member.paths hook := by
  rw [mem_paths_guardTests htail, mem_paths_invocation] at h
  rw [Member.paths, List.mem_cons, List.mem_flatMap]
  rcases h with ⟨t, ht, hp⟩ | rfl | ⟨-, htested⟩
  · exact Or.inr ⟨t, mem_guardedTypes ht, hp⟩
  · exact Or.inl rfl
  · exact Or.inr htested

theorem mem_paths_block (h : p ∈ (block hook s).paths) : ∃ c ∈ s.clauses,
    p ∈ (guardTests hook c).flatMap (·.paths) ∨ p ∈ (invocation hook c).paths := by
  rcases List.mem_append.mp h with h | h
  · obtain ⟨x, hx, hp⟩ := List.mem_flatMap.mp h
    obtain ⟨c, hc, rfl⟩ := List.mem_map.mp hx
    exact ⟨c, (List.takeWhile_sublist _).subset hc, List.mem_append.mp hp⟩
  · simp only [block, ending] at h
    split at h
    · rename_i c hfind
      exact ⟨c, List.mem_of_find?_eq_some hfind, Or.inr h⟩
    · cases h

/-- The code for members has the paths of each guard if there are guards, and of each call. -/
theorem mem_paths_of_ofMembers (hook : Option String) (k : Nat) (tail : Bool) (hm : member ∈ members) :
    ((tail || !(k = 0 && members.length = 1)) = true →
      ∀ p ∈ (guardTests hook ⟨member, k, tail, true⟩).flatMap (·.paths),
        p ∈ (block hook (.ofMembers k tail members)).paths) ∧
      ∀ p ∈ (invocation hook ⟨member, k, tail, true⟩).paths,
        p ∈ (block hook (.ofMembers k tail members)).paths := by
  cases hguarded : tail || !(k = 0 && members.length = 1) with
  | true =>
    have hbranch := mem_branches_ofMembers hook hguarded hm
    have hpaths (p : String) (h : p ∈ (guardTests hook ⟨member, k, tail, true⟩).flatMap (·.paths) ∨
        p ∈ (invocation hook ⟨member, k, tail, true⟩).paths) :
        p ∈ (block hook (.ofMembers k tail members)).paths :=
      List.mem_append_left _ (List.mem_flatMap.mpr ⟨_, hbranch, List.mem_append.mpr h⟩)
    exact ⟨fun _ p hp => hpaths p (Or.inl hp), fun p hp => hpaths p (Or.inr hp)⟩
  | false =>
    refine ⟨nofun, fun p hp => ?_⟩
    apply List.mem_append_right
    rw [ending_ofMembers hook hguarded hm]
    exact hp

theorem mem_paths_of_set (hs : s ∈ (Routine.laidOut memberName members name id).clauseSets)
    (h : p ∈ (block hook s).paths) :
    p ∈ (definition hook documented (Routine.laidOut memberName members name id)).paths := by
  rw [Definition.paths, List.mem_cons, List.mem_cons, List.mem_flatMap]
  exact Or.inr (Or.inr ⟨_, List.mem_map_of_mem hs, h⟩)

/-- The code for members has all paths of theirs: each type is tested for in a clause of its member. -/
theorem mem_paths_of_member (hm : member ∈ members) (h : p ∈ member.paths hook) :
    p ∈ (definition hook documented (Routine.laidOut memberName members name id)).paths := by
  have hcandidate : member ∈ candidates members member.parameterCount :=
    mem_candidates.mpr ⟨hm, Or.inl rfl⟩
  obtain ⟨hguard, hcall⟩ := mem_paths_of_ofMembers hook member.parameterCount false hcandidate
  rw [Member.paths, List.mem_cons, List.mem_flatMap] at h
  rcases h with rfl | ⟨t, ht, hp⟩
  · exact mem_paths_of_set (fixedSet_mem hm) (hcall _ List.mem_cons_self)
  · rcases List.mem_append.mp ht with hdeclared | hvarargs
    · have hcount : member.parameterCount ≠ 0 := by
        have := List.length_pos_of_mem hdeclared
        rw [Member.parameterCount]
        omega
      have hfixed : false = true → member.isVariadic = true := fun h => (Bool.false_ne_true h).elim
      refine mem_paths_of_set (fixedSet_mem hm) (hguard (by simp [hcount]) p ?_)
      refine (mem_paths_guardTests (c := ⟨member, member.parameterCount, false, true⟩) hfixed).mpr
        ⟨t, List.mem_append_left _ ?_, hp⟩
      rw [Clause.guardTypes, parameterTypes_parameterCount]
      exact hdeclared
    · have hvariadic : member.isVariadic = true :=
        Option.isSome_iff_exists.mpr ⟨t, Option.mem_toList.mp hvarargs⟩
      obtain ⟨hopen, hset⟩ := tailSet_mem hm hvariadic
      refine mem_paths_of_set hset ((mem_paths_of_ofMembers hook _ true hopen).1 rfl p ?_)
      exact (mem_paths_guardTests fun _ => hvariadic).mpr ⟨t, List.mem_append_right _ hvarargs, hp⟩

/-- The code for members refers to the paths of theirs, and to two functions of the library. -/
theorem mem_paths_definition :
    p ∈ (definition hook documented (Routine.laidOut memberName members name id)).paths ↔
      p = instanceTest ∨ p = refusal ∨ ∃ m ∈ members, p ∈ m.paths hook := by
  constructor
  · intro h
    rw [Definition.paths, List.mem_cons, List.mem_cons, List.mem_flatMap] at h
    refine h.imp_right (Or.imp_right ?_)
    rintro ⟨b, hb, hp⟩
    obtain ⟨s, hs, rfl⟩ := List.mem_map.mp hb
    obtain ⟨c, hc, hp⟩ := mem_paths_block hp
    exact ⟨c.member, Routine.member_of_clause hs hc,
      mem_paths_of_clause (Routine.isVariadic_of_tail hs hc) hp⟩
  · rintro (rfl | rfl | ⟨m, hm, hp⟩)
    · exact List.mem_cons_self
    · exact List.mem_cons_of_mem _ List.mem_cons_self
    · exact mem_paths_of_member hm hp

section Agreement

variable {M : Type → Type} {names names' : Names M} {paths paths' : List String}

/-- That some paths stand for the same in two readings of names. -/
structure Names.AgreeOn (names names' : Names M) (paths : List String) : Prop where
  type : ∀ p ∈ paths, names.type? p = names'.type? p
  hook : ∀ p ∈ paths, names.hook? p = names'.hook? p
  target : ∀ p ∈ paths, names.target? p = names'.target? p

theorem Names.AgreeOn.mono (h : names.AgreeOn names' paths) (hsub : ∀ p ∈ paths', p ∈ paths) :
    names.AgreeOn names' paths' :=
  ⟨fun p hp => h.type p (hsub p hp), fun p hp => h.hook p (hsub p hp),
    fun p hp => h.target p (hsub p hp)⟩

variable [Monad M] [MonadExcept Failure M] {w : World} {args : List Value}
variable {around : Surroundings M} {own : Shadows M}

theorem eval_of_agreeOn {item : Option Value} (h : names.AgreeOn names' e.paths) :
    e.eval w names own args item = e.eval w names' own args item := by
  induction e with
  | argument | item => rfl
  | coerced path e target ih =>
    have hinner := ih (h.mono fun p hp => List.mem_cons_of_mem _ (List.mem_cons_of_mem _ hp))
    simp only [Expr.eval, hinner, h.hook path (by simp [Expr.paths]),
      h.type target (by simp [Expr.paths])]
  | cast c e ih => simp only [Expr.eval, ih h]

theorem isInstance_of_agreeOn {item : Option Value} (h : names.AgreeOn names' (p :: e.paths)) :
    e.isInstance w names own args item p = e.isInstance w names' own args item p := by
  simp only [Expr.isInstance, h.type p List.mem_cons_self,
    eval_of_agreeOn (h.mono fun _ => List.mem_cons_of_mem p)]

theorem evalTest_of_agreeOn {test : Test} (h : names.AgreeOn names' test.paths) :
    test.eval w names around own args = test.eval w names' around own args := by
  cases test with
  | isInstance e path => exact isInstance_of_agreeOn h
  | allInstances start e path => simp only [Test.eval, isInstance_of_agreeOn h]

theorem evalPassed_of_agreeOn {a : Passed} (h : names.AgreeOn names' a.paths) :
    a.eval w names own args = a.eval w names' own args := by
  cases a with
  | one e => simp only [Passed.eval, eval_of_agreeOn h]
  | rest start => rfl
  | each start e => simp only [Passed.eval, eval_of_agreeOn h]

omit [MonadExcept Failure M] in
theorem allHold_congr {α : Type} {ask ask' : α → M Bool} {l : List α}
    (h : ∀ a ∈ l, ask a = ask' a) : allHold ask l = allHold ask' l := by
  induction l with
  | nil => rfl
  | cons a rest ih =>
    rw [allHold, allHold, h a List.mem_cons_self, ih fun b hb => h b (List.mem_cons_of_mem a hb)]

variable [LawfulMonad M]

theorem evalInvocation_of_agreeOn {i : Invocation} (h : names.AgreeOn names' i.paths) :
    i.eval w names own args = i.eval w names' own args := by
  have hpassed : i.passed.mapM (·.eval w names own args) = i.passed.mapM (·.eval w names' own args) :=
    mapM_congr fun a ha => evalPassed_of_agreeOn
      (h.mono fun p hp => List.mem_cons_of_mem _ (List.mem_flatMap.mpr ⟨a, ha, hp⟩))
  rw [Invocation.eval, Invocation.eval, hpassed, h.target i.path List.mem_cons_self]

theorem runBranches_of_agreeOn {ending : M (Target × List Value)}
    {branches : List (List Test × Invocation)}
    (h : names.AgreeOn names' (branches.flatMap fun (tests, i) => tests.flatMap (·.paths) ++ i.paths)) :
    runBranches w names around own args ending branches =
      runBranches w names' around own args ending branches := by
  induction branches with
  | nil => rfl
  | cons branch rest ih =>
    obtain ⟨tests, i⟩ := branch
    rw [List.flatMap_cons] at h
    have htests : allHold (·.eval w names around own args) tests =
        allHold (·.eval w names' around own args) tests :=
      allHold_congr fun test htest => evalTest_of_agreeOn (h.mono fun p hp =>
        List.mem_append_left _ (List.mem_append_left _ (List.mem_flatMap.mpr ⟨test, htest, hp⟩)))
    have hcall : i.eval w names own args = i.eval w names' own args :=
      evalInvocation_of_agreeOn
        (h.mono fun p hp => List.mem_append_left _ (List.mem_append_right _ hp))
    rw [runBranches, runBranches, htests, hcall, ih (h.mono fun p => List.mem_append_right _)]

theorem runBlock_of_agreeOn {b : Block} (h : names.AgreeOn names' b.paths) :
    b.run w names around own args = b.run w names' around own args := by
  have hending : b.ending.eval w names own args = b.ending.eval w names' own args := by
    have hpaths := h.mono fun p => List.mem_append_right _
    cases hb : b.ending with
    | call i =>
      rw [hb] at hpaths
      exact evalInvocation_of_agreeOn hpaths
    | refusal => rfl
  rw [Block.run, Block.run, hending,
    runBranches_of_agreeOn (h.mono fun p => List.mem_append_left _)]

theorem runBlocks_of_agreeOn {d : Definition} {blocks : List Block}
    (h : names.AgreeOn names' (blocks.flatMap (·.paths))) :
    d.runBlocks w names around own args blocks = d.runBlocks w names' around own args blocks := by
  induction blocks with
  | nil => rfl
  | cons b rest ih =>
    rw [List.flatMap_cons] at h
    rw [Definition.runBlocks, Definition.runBlocks,
      runBlock_of_agreeOn (h.mono fun p => List.mem_append_left _),
      ih (h.mono fun p => List.mem_append_right _)]

/-- A call of a function looks up no dotted path but those that its code refers to. -/
theorem run_of_agreeOn {d : Definition} (h : names.AgreeOn names' d.paths) (room : Nat)
    (args : List Value) : d.run w names around room args = d.run w names' around room args := by
  have hblocks : names.AgreeOn names' (d.blocks.flatMap (·.paths)) := h.mono fun p hp =>
    List.mem_cons_of_mem _ (List.mem_cons_of_mem _ hp)
  induction room generalizing args with
  | zero => rfl
  | succ room ih =>
    have hself : d.run w names around room = d.run w names' around room := funext ih
    rw [Definition.run, Definition.run, hself, runBlocks_of_agreeOn hblocks]

end Agreement

end Source

end Overloads
