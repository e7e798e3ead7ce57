import Overloads.Proofs.Routine.Namespace
import Overloads.Proofs.Source.Agreement

/-! When the functions that are written hide a name that they use. -/
namespace Overloads

variable {hook : Option String} {members : List Member} {m : Member} {n p : String} {t : TypeRef}

namespace Source

/-- The first part of a dotted path, which is looked up by itself. -/
def root (path : String) : String := (splitDots path).headD ""

theorem root_instanceTest : root instanceTest = "tortilla" := by decide

theorem root_refusal : root refusal = "tortilla" := by decide

/-- The names that an expression looks up. -/
def Expr.names : Expr → List String
  | .argument _ | .item => []
  | .coerced hook e target => root hook :: root target :: e.names
  | .cast c e => c.text :: e.names

def Test.names : Test → List String
  | .isInstance e path => root instanceTest :: root path :: e.names
  | .allInstances _ e path => "all" :: root instanceTest :: root path :: e.names

def Passed.names : Passed → List String
  | .one e | .each _ e => e.names
  | .rest _ => []

def Invocation.names (i : Invocation) : List String := root i.path :: i.passed.flatMap (·.names)

def Ending.names : Ending → List String
  | .call i => i.names
  | .refusal _ _ => [root Source.refusal]

def Block.names (b : Block) : List String :=
  (b.branches.flatMap fun (tests, i) => tests.flatMap (·.names) ++ i.names) ++ b.ending.names

/-- The names that the body of a function looks up. -/
def Definition.names (d : Definition) : List String :=
  "len" :: root refusal :: d.blocks.flatMap (·.names)

/-- The builtin functions that the code calls by themselves. -/
def builtinNames : List String := ["len", "all", "int", "float"]

/-- That names are the roots of some paths, of the library's own and of builtin functions. -/
structure RootsOf (paths names : List String) : Prop where
  roots : ∀ p ∈ paths, root p ∈ names
  known : ∀ n ∈ names, n ∈ builtinNames ∨ ∃ p ∈ instanceTest :: refusal :: paths, n = root p

namespace RootsOf

variable {paths paths' names names' : List String}

theorem nil : RootsOf [] [] := ⟨nofun, nofun⟩

theorem append (h : RootsOf paths names) (h' : RootsOf paths' names') :
    RootsOf (paths ++ paths') (names ++ names') where
  roots := by
    intro p hp
    exact List.mem_append.mpr ((List.mem_append.mp hp).imp (h.roots p) (h'.roots p))
  known := by
    intro n hn
    rcases List.mem_append.mp hn with hn | hn
    · refine (h.known n hn).imp_right fun ⟨p, hp, heq⟩ => ⟨p, ?_, heq⟩
      simp only [List.mem_cons, List.mem_append] at hp ⊢
      exact hp.imp_right (Or.imp_right Or.inl)
    · refine (h'.known n hn).imp_right fun ⟨p, hp, heq⟩ => ⟨p, ?_, heq⟩
      simp only [List.mem_cons, List.mem_append] at hp ⊢
      exact hp.imp_right (Or.imp_right Or.inr)

theorem path (p : String) (h : RootsOf paths names) : RootsOf (p :: paths) (root p :: names) := by
  have hfirst : RootsOf [p] [root p] := ⟨by simp, by simp⟩
  exact hfirst.append h

theorem builtin (hn : n ∈ builtinNames) (h : RootsOf paths names) :
    RootsOf paths (n :: names) := by
  have hfirst : RootsOf [] [n] := ⟨nofun, by simpa using Or.inl hn⟩
  exact hfirst.append h

theorem library (hp : p = instanceTest ∨ p = refusal) (h : RootsOf paths names) :
    RootsOf paths (root p :: names) := by
  have hfirst : RootsOf [] [root p] := ⟨nofun, by rcases hp with rfl | rfl <;> simp⟩
  exact hfirst.append h

theorem flatMap {α : Type} {l : List α} {f g : α → List String}
    (h : ∀ a ∈ l, RootsOf (f a) (g a)) : RootsOf (l.flatMap f) (l.flatMap g) := by
  induction l with
  | nil => exact nil
  | cons a rest ih =>
    exact (h a List.mem_cons_self).append (ih fun b hb => h b (List.mem_cons_of_mem _ hb))

end RootsOf

theorem rootsOf_expr (e : Expr) : RootsOf e.paths e.names := by
  induction e with
  | argument | item => exact .nil
  | coerced hook e target ih => exact .path hook (.path target ih)
  | cast c e ih => exact .builtin (by cases c <;> decide) ih

theorem rootsOf_test (test : Test) : RootsOf test.paths test.names := by
  cases test with
  | isInstance e path => exact .library (Or.inl rfl) (.path path (rootsOf_expr e))
  | allInstances start e path =>
    exact .builtin (by decide) (.library (Or.inl rfl) (.path path (rootsOf_expr e)))

theorem rootsOf_invocation (i : Invocation) : RootsOf i.paths i.names := by
  refine .path i.path (.flatMap fun passed _ => ?_)
  cases passed with
  | one e | each _ e => exact rootsOf_expr e
  | rest => exact .nil

theorem rootsOf_block (b : Block) : RootsOf b.paths b.names := by
  refine .append (.flatMap fun x _ => .append (.flatMap fun test _ => rootsOf_test test)
    (rootsOf_invocation x.2)) ?_
  cases hending : b.ending with
  | call i => exact rootsOf_invocation i
  | refusal => exact .library (Or.inr rfl) .nil

/-- The names that a function looks up are the roots of its paths, and names of builtin functions. -/
theorem rootsOf_definition (d : Definition) : RootsOf d.paths d.names := by
  have hblocks : RootsOf (d.blocks.flatMap (·.paths)) (d.blocks.flatMap (·.names)) :=
    .flatMap fun b _ => rootsOf_block b
  have hnames : RootsOf (refusal :: d.blocks.flatMap (·.paths)) d.names :=
    .builtin (by decide) (.path refusal hblocks)
  constructor
  · intro p hp
    rcases List.mem_cons.mp hp with rfl | hp
    · rw [root_instanceTest, ← root_refusal]
      exact hnames.roots refusal List.mem_cons_self
    · exact hnames.roots p hp
  · intro n hn
    refine (hnames.known n hn).imp_right fun ⟨p, hp, heq⟩ => ⟨p, ?_, heq⟩
    simp only [Definition.paths, List.mem_cons] at hp ⊢
    exact Or.inr (Or.inr (hp.imp_right fun h => h.elim Or.inl id))

/-- That no function hides a name that one of the functions looks up. -/
def Unshadowed (ds : List Definition) : Prop := ∀ d ∈ ds, ∀ d' ∈ ds, d.name ∉ d'.names

/-- The names looked up to test an argument for a type. -/
def typeNames (hook : Option String) (t : TypeRef) : List String :=
  root t.boxed.text :: (hook.map root).toList

end Source

/-- The names looked up to try a member and to call it, but for those that every function looks up. -/
def Member.names (hook : Option String) (m : Member) : List String :=
  Source.root m.path :: m.testedTypes.flatMap (Source.typeNames hook) ++
    m.declared.filterMap (fun t => t.cast?.map (·.text)) ++ if m.isVariadic then ["all"] else []

namespace Source

variable {e : Expr} {c : Clause}

theorem mem_names_test (he : e.names = []) :
    n ∈ root t.boxed.text :: (coercedBy hook e t).names ↔ n ∈ typeNames hook t := by
  cases hook with
  | none => simp [coercedBy, typeNames, he]
  | some path =>
    simp only [coercedBy, Expr.names, typeNames, he, Option.map_some, Option.toList_some,
      List.mem_cons, List.not_mem_nil, or_false]
    constructor
    · rintro (rfl | rfl | rfl)
      · exact Or.inl rfl
      · exact Or.inr rfl
      · exact Or.inl rfl
    · exact fun h => h.imp_right Or.inl

theorem mem_names_coercedBy (he : e.names = []) (h : n ∈ (coercedBy hook e t).names) :
    n ∈ typeNames hook t :=
  (mem_names_test he).mp (List.mem_cons_of_mem _ h)

theorem mem_names_castFor :
    n ∈ (castFor t e).names ↔ n ∈ (t.cast?.map (·.text)).toList ∨ n ∈ e.names := by
  unfold castFor
  cases t.cast? <;> simp [Expr.names]

theorem mem_names_of_test (ht : t ∈ m.testedTypes) (h : n ∈ typeNames hook t) :
    n ∈ m.names hook := by
  simp only [Member.names, List.mem_append, List.mem_cons, List.mem_flatMap]
  exact Or.inl (Or.inl (Or.inr ⟨t, ht, h⟩))

theorem mem_names_of_cast {k : Cast} (ht : t ∈ m.declared) (hk : t.cast? = some k) :
    k.text ∈ m.names hook := by
  simp only [Member.names, List.mem_append, List.mem_filterMap]
  exact Or.inl (Or.inr ⟨t, ht, by rw [hk]; rfl⟩)

theorem all_mem_names (hm : m.isVariadic = true) : "all" ∈ m.names hook := by
  simp [Member.names, hm]

/-- A guard looks up names of the types that it tests for. -/
theorem mem_names_guardTests (htail : c.tail = true → c.member.isVariadic = true)
    (h : n ∈ (guardTests hook c).flatMap (·.names)) :
    n = "tortilla" ∨ n ∈ c.member.names hook := by
  obtain ⟨test, hmem, hn⟩ := List.mem_flatMap.mp h
  have hleading (hmem : test ∈ c.guardTypes.mapIdx fun i t =>
      Test.isInstance (coercedBy hook (.argument i) t) t.boxed.text) :
      n = "tortilla" ∨ n ∈ c.member.names hook := by
    obtain ⟨i, hi, rfl⟩ := List.mem_mapIdx.mp hmem
    rw [Test.names, List.mem_cons, root_instanceTest, mem_names_test rfl] at hn
    exact hn.imp_right (mem_names_of_test (Member.mem_testedTypes (List.getElem_mem hi)))
  unfold guardTests at hmem
  split at hmem
  · rename_i hc
    obtain ⟨element, helement⟩ := Option.isSome_iff_exists.mp (htail hc)
    rcases List.mem_append.mp hmem with hmem | hmem
    · exact hleading hmem
    · obtain rfl := List.mem_singleton.mp hmem
      rw [helement, Option.getD_some, Test.names, List.mem_cons, List.mem_cons, root_instanceTest,
        mem_names_test rfl] at hn
      rcases hn with rfl | rfl | hn
      · exact Or.inr (all_mem_names (htail hc))
      · exact Or.inl rfl
      · exact Or.inr (mem_names_of_test (by simp [Member.testedTypes, helement]) hn)
  · exact hleading hmem

/-- An invocation looks up its target, and names of the types that its arguments are made for. -/
theorem mem_names_invocation (h : n ∈ (invocation hook c).names) : n ∈ c.member.names hook := by
  rcases List.mem_cons.mp h with rfl | h
  · simp [Member.names, invocation]
  · obtain ⟨a, ha, hn⟩ := List.mem_flatMap.mp h
    rcases List.mem_append.mp ha with hleading | hfurther
    · obtain ⟨i, hi, rfl⟩ := List.mem_mapIdx.mp hleading
      have hdeclared := List.getElem_mem hi
      rw [Passed.names, mem_names_castFor, Option.mem_toList, Option.map_eq_some_iff] at hn
      rcases hn with ⟨k, hk, rfl⟩ | hn
      · exact mem_names_of_cast hdeclared hk
      · exact mem_names_of_test (List.mem_append_left _ hdeclared) (mem_names_coercedBy rfl hn)
    · cases helement : c.member.varargs with
      | none => simp [helement] at hfurther
      | some element =>
        rw [helement] at hfurther
        cases hook with
        | none =>
          obtain rfl := List.mem_singleton.mp hfurther
          cases hn
        | some path =>
          obtain rfl := List.mem_singleton.mp hfurther
          exact mem_names_of_test (by simp [Member.testedTypes, helement])
            (mem_names_coercedBy rfl hn)

variable {s : ClauseSet} {memberName name id : String} {documented : Option (Option Int)}

theorem mem_names_block (h : n ∈ (block hook s).names) : n = "tortilla" ∨
    ∃ c ∈ s.clauses, n ∈ (guardTests hook c).flatMap (·.names) ∨ n ∈ (invocation hook c).names := by
  rcases List.mem_append.mp h with h | h
  · obtain ⟨x, hx, hn⟩ := List.mem_flatMap.mp h
    obtain ⟨c, hc, rfl⟩ := List.mem_map.mp hx
    exact Or.inr ⟨c, (List.takeWhile_sublist _).subset hc, List.mem_append.mp hn⟩
  · simp only [block, ending] at h
    split at h
    · rename_i c hfind
      exact Or.inr ⟨c, List.mem_of_find?_eq_some hfind, Or.inr h⟩
    · left
      simpa [Ending.names, root_refusal] using h

theorem mem_branches_ofMembers (hook : Option String) {k : Nat} {tail : Bool}
    (hguarded : (tail || !(k = 0 && members.length = 1)) = true) (hm : m ∈ members) :
    (guardTests hook ⟨m, k, tail, true⟩, invocation hook ⟨m, k, tail, true⟩) ∈
      (block hook (.ofMembers k tail members)).branches := by
  generalize hs : ClauseSet.ofMembers k tail members = s
  have hclauses : s.clauses = members.map fun m => ⟨m, k, tail, true⟩ := by
    rw [← hs, ← hguarded]
    rfl
  have hall : ∀ c ∈ s.clauses, c.guarded = true := by
    intro c hc
    rw [hclauses] at hc
    obtain ⟨m, -, rfl⟩ := List.mem_map.mp hc
    rfl
  have htaken : (s.clauses ++ []).takeWhile (fun c : Clause => c.guarded) = _ :=
    List.takeWhile_append_of_pos hall
  rw [List.append_nil, List.takeWhile_nil, List.append_nil] at htaken
  rw [block, htaken, hclauses]
  exact List.mem_map.mpr ⟨_, List.mem_map_of_mem hm, rfl⟩

/-- Only a single member that gets no arguments goes without a guard, and then its call is the end. -/
theorem ending_ofMembers (hook : Option String) {k : Nat} {tail : Bool}
    (hguarded : (tail || !(k = 0 && members.length = 1)) = false) (hm : m ∈ members) :
    (block hook (.ofMembers k tail members)).ending =
      .call (invocation hook ⟨m, k, tail, true⟩) := by
  obtain ⟨rfl, hsingle⟩ := Bool.or_eq_false_iff.mp hguarded
  obtain ⟨rfl, hlength⟩ : k = 0 ∧ members.length = 1 := by simpa using hsingle
  obtain ⟨only, rfl⟩ := List.length_eq_one_iff.mp hlength
  obtain rfl := List.mem_singleton.mp hm
  rfl

/-- The code for members has the guard of each if there are guards, and the call of each. -/
theorem mem_names_of_ofMembers (hook : Option String) (k : Nat) (tail : Bool)
    {members : List Member} (hm : m ∈ members) :
    ((tail || !(k = 0 && members.length = 1)) = true →
      ∀ n ∈ (guardTests hook ⟨m, k, tail, true⟩).flatMap (·.names),
        n ∈ (block hook (.ofMembers k tail members)).names) ∧
      ∀ n ∈ (invocation hook ⟨m, k, tail, true⟩).names,
        n ∈ (block hook (.ofMembers k tail members)).names := by
  cases hguarded : tail || !(k = 0 && members.length = 1) with
  | true =>
    have hbranch := mem_branches_ofMembers hook hguarded hm
    have hnames (n : String) (h : n ∈ (guardTests hook ⟨m, k, tail, true⟩).flatMap (·.names) ∨
        n ∈ (invocation hook ⟨m, k, tail, true⟩).names) :
        n ∈ (block hook (.ofMembers k tail members)).names :=
      List.mem_append_left _ (List.mem_flatMap.mpr ⟨_, hbranch, List.mem_append.mpr h⟩)
    exact ⟨fun _ n hn => hnames n (Or.inl hn), fun n hn => hnames n (Or.inr hn)⟩
  | false =>
    refine ⟨nofun, fun n hn => ?_⟩
    apply List.mem_append_right
    rw [ending_ofMembers hook hguarded hm]
    exact hn

theorem fixedSet_mem (hm : m ∈ members) : fixedSet members m.parameterCount ∈
    (Routine.laidOut memberName members name id).clauseSets := by
  have hle := parameterCount_le_widest hm
  apply List.mem_append_left
  refine List.mem_map.mpr ⟨_, List.mem_filter.mpr ⟨?_, isCovered_iff.mpr ⟨m, hm, Or.inl rfl⟩⟩, rfl⟩
  rw [List.mem_range'_1]
  omega

theorem tailSet_mem (hm : m ∈ members) (hv : m.isVariadic = true) :
    m ∈ openTo members (widest members) ∧
      ClauseSet.ofMembers (widest members) true (openTo members (widest members)) ∈
        (Routine.laidOut memberName members name id).clauseSets := by
  have hopen : m ∈ openTo members (widest members) :=
    mem_openTo.mpr ⟨hm, hv, parameterCount_le_widest hm⟩
  refine ⟨hopen, List.mem_append_right _ ?_⟩
  rw [tailSets, if_neg]
  · exact List.mem_singleton_self _
  · rw [List.isEmpty_iff]
    exact List.ne_nil_of_mem hopen

theorem mem_names_of_set (hs : s ∈ (Routine.laidOut memberName members name id).clauseSets)
    (h : n ∈ (block hook s).names) :
    n ∈ (definition hook documented (Routine.laidOut memberName members name id)).names := by
  rw [Definition.names, List.mem_cons, List.mem_cons, List.mem_flatMap]
  exact Or.inr (Or.inr ⟨_, List.mem_map_of_mem hs, h⟩)

theorem parameterTypes_parameterCount (m : Member) :
    m.parameterTypes m.parameterCount = m.declared := by
  cases hv : m.varargs with
  | none => exact Member.parameterTypes_length_of_fixed hv
  | some t => simp [Member.parameterTypes, Member.parameterCount, hv]

/-- What a member's types are tested with is in the guards of its clauses. -/
theorem mem_names_of_declared (ht : t ∈ m.declared) (h : n ∈ typeNames hook t) :
    n ∈ (guardTests hook ⟨m, m.parameterCount, false, true⟩).flatMap (·.names) := by
  obtain ⟨i, hi, rfl⟩ := List.getElem_of_mem ht
  refine List.mem_flatMap.mpr ⟨.isInstance (coercedBy hook (.argument i) m.declared[i])
    m.declared[i].boxed.text, ?_, List.mem_cons_of_mem _ ((mem_names_test rfl).mpr h)⟩
  have hguard : guardTests hook ⟨m, m.parameterCount, false, true⟩ =
      m.declared.mapIdx fun i t => .isInstance (coercedBy hook (.argument i) t) t.boxed.text := by
    rw [guardTests, Clause.guardTypes, parameterTypes_parameterCount]
    rfl
  rw [hguard]
  exact List.mem_mapIdx.mpr ⟨i, hi, rfl⟩

theorem mem_names_of_varargs {k : Nat} (ht : m.varargs = some t)
    (h : n = "all" ∨ n ∈ typeNames hook t) :
    n ∈ (guardTests hook ⟨m, k, true, true⟩).flatMap (·.names) := by
  refine List.mem_flatMap.mpr
    ⟨.allInstances k (coercedBy hook .item t) t.boxed.text, ?_, ?_⟩
  · simp [guardTests, ht]
  · rw [Test.names, List.mem_cons, List.mem_cons, mem_names_test rfl]
    exact h.imp_right Or.inr

theorem mem_names_of_castFor {k : Cast} (ht : t ∈ m.declared) (hk : t.cast? = some k) :
    k.text ∈ (invocation hook ⟨m, m.parameterCount, false, true⟩).names := by
  obtain ⟨i, hi, rfl⟩ := List.getElem_of_mem ht
  apply List.mem_cons_of_mem
  refine List.mem_flatMap.mpr ⟨.one (castFor m.declared[i] (coercedBy hook (.argument i)
    m.declared[i])), List.mem_append_left _ (List.mem_mapIdx.mpr ⟨i, hi, rfl⟩), ?_⟩
  rw [Passed.names, mem_names_castFor, hk]
  exact Or.inl (by simp)

/-- The code for members looks up all names of theirs. -/
theorem mem_names_of_member (hm : m ∈ members) (h : n ∈ m.names hook) :
    n ∈ (definition hook documented (Routine.laidOut memberName members name id)).names := by
  have hcandidate : m ∈ candidates members m.parameterCount := mem_candidates.mpr ⟨hm, Or.inl rfl⟩
  obtain ⟨hguard, hcall⟩ := mem_names_of_ofMembers hook m.parameterCount false hcandidate
  have hfurther : ∀ t ∈ m.varargs, n = "all" ∨ n ∈ typeNames hook t →
      n ∈ (definition hook documented (Routine.laidOut memberName members name id)).names := by
    intro t ht hn
    obtain ⟨hopen, hset⟩ := tailSet_mem hm (Option.isSome_iff_exists.mpr ⟨t, ht⟩)
    have htail := (mem_names_of_ofMembers hook (widest members) true hopen).1 rfl
    exact mem_names_of_set hset (htail n (mem_names_of_varargs ht hn))
  simp only [Member.names, List.mem_append, List.mem_cons, List.mem_flatMap,
    List.mem_filterMap] at h
  rcases h with ((rfl | ⟨t, ht, hn⟩) | ⟨t, ht, hn⟩) | hall
  · exact mem_names_of_set (fixedSet_mem hm) (hcall _ List.mem_cons_self)
  · rcases List.mem_append.mp ht with ht | ht
    · have hcount : m.parameterCount ≠ 0 := by
        have := List.length_pos_of_mem ht
        rw [Member.parameterCount]
        omega
      exact mem_names_of_set (fixedSet_mem hm)
        (hguard (by simp [hcount]) n (mem_names_of_declared ht hn))
    · exact hfurther t (by simpa using ht) (Or.inr hn)
  · obtain ⟨k, hk, rfl⟩ := Option.map_eq_some_iff.mp hn
    exact mem_names_of_set (fixedSet_mem hm) (hcall _ (mem_names_of_castFor ht hk))
  · split at hall
    · rename_i hv
      obtain ⟨t, ht⟩ := Option.isSome_iff_exists.mp hv
      exact hfurther t ht (Or.inl (by simpa using hall))
    · cases hall

/-- The code for members looks up the names of theirs, and two names besides. -/
theorem mem_names_definition :
    n ∈ (definition hook documented (Routine.laidOut memberName members name id)).names ↔
      n = "len" ∨ n = "tortilla" ∨ ∃ m ∈ members, n ∈ m.names hook := by
  constructor
  · intro h
    rw [Definition.names, List.mem_cons, List.mem_cons, root_refusal, List.mem_flatMap] at h
    rcases h with h | h | ⟨b, hb, hn⟩
    · exact Or.inl h
    · exact Or.inr (Or.inl h)
    · right
      obtain ⟨s, hs, rfl⟩ := List.mem_map.mp hb
      rcases mem_names_block hn with hn | ⟨c, hc, hn⟩
      · exact Or.inl hn
      · have hm := Routine.member_of_clause hs hc
        rcases hn with hn | hn
        · exact (mem_names_guardTests (Routine.isVariadic_of_tail hs hc) hn).imp_right
            fun hn => ⟨c.member, hm, hn⟩
        · exact Or.inr ⟨c.member, hm, mem_names_invocation hn⟩
  · rintro (rfl | rfl | ⟨m, hm, hn⟩)
    · exact List.mem_cons_self
    · rw [Definition.names, root_refusal]
      exact List.mem_cons_of_mem _ List.mem_cons_self
    · exact mem_names_of_member hm hn

/-- The path of a hook as it is written. One without a path is written as nothing. -/
def written : Option (Except (Option String) String) → Option String
  | none => none
  | some (.ok path) => some path
  | some (.error _) => some ""

/-- The names that the functions for some members look up. -/
def LookedUp (hook : Option String) (members : List Member) (n : String) : Prop :=
  n = "len" ∨ n = "tortilla" ∨ ∃ m ∈ members, n ∈ m.names hook

end Source

open Source

variable {w : World} {ambient : Ambient} {reflect : Reflector} {handle : Value} {o : Options}
variable {rs : List Routine} {hookPath : Option (Except (Option String) String)}
variable {documented : Option (Option Int)} {text : String}

theorem text_of_render (h : render w hookPath documented rs = .ok text) :
    text = moduleText (w.modules.map (·.name))
      (rs.map (definition (written hookPath) documented)) := by
  unfold render at h
  cases hookPath with
  | none => exact (Except.ok.inj h).symm
  | some named =>
    cases named with
    | ok path => exact (Except.ok.inj h).symm
    | error shown =>
      dsimp only at h
      split at h
      · cases h
      · exact (Except.ok.inj h).symm

/-- Each function looks up names of the members that have its name, and all members are reached. -/
theorem lookedUp_iff (hnamed : Routine.WellNamed members o.namePrefix rs) (hne : rs ≠ []) :
    (∃ d ∈ rs.map (definition hook documented), n ∈ d.names) ↔ LookedUp hook members n := by
  have hdefinition (r : Routine) (hr : r ∈ rs) : n ∈ (definition hook documented r).names ↔
      n = "len" ∨ n = "tortilla" ∨
        ∃ m ∈ members.filter (·.name = r.memberName), n ∈ m.names hook := by
    rw [hnamed.gathers r hr]
    exact mem_names_definition
  constructor
  · rintro ⟨d, hd, hn⟩
    obtain ⟨r, hr, rfl⟩ := List.mem_map.mp hd
    refine ((hdefinition r hr).mp hn).imp_right (Or.imp_right ?_)
    rintro ⟨m, hm, hn⟩
    exact ⟨m, (List.mem_filter.mp hm).1, hn⟩
  · intro h
    obtain ⟨r, hr, hn⟩ : ∃ r ∈ rs, n ∈ (definition hook documented r).names := by
      rcases h with h | h | ⟨m, hm, hn⟩
      · obtain ⟨r, hr⟩ := List.exists_mem_of_ne_nil rs hne
        exact ⟨r, hr, (hdefinition r hr).mpr (Or.inl h)⟩
      · obtain ⟨r, hr⟩ := List.exists_mem_of_ne_nil rs hne
        exact ⟨r, hr, (hdefinition r hr).mpr (Or.inr (Or.inl h))⟩
      · have hname : m.name ∈ rs.map (·.memberName) := by
          rw [hnamed.names, Routine.mem_memberNames]
          exact ⟨m, hm, rfl⟩
        obtain ⟨r, hr, hrm⟩ := List.mem_map.mp hname
        have hgroup : m ∈ members.filter (·.name = r.memberName) :=
          List.mem_filter.mpr ⟨hm, by simp [hrm]⟩
        exact ⟨r, hr, (hdefinition r hr).mpr (Or.inr (Or.inr ⟨m, hgroup, hn⟩))⟩
    exact ⟨_, List.mem_map_of_mem hr, hn⟩

theorem unshadowed_definitions (hnamed : Routine.WellNamed members o.namePrefix rs) :
    Unshadowed (rs.map (definition hook documented)) ↔
      ∀ r ∈ rs, ¬ LookedUp hook members r.identifier := by
  constructor
  · intro h r hr hlooked
    obtain ⟨d, hd, hn⟩ := (lookedUp_iff hnamed (List.ne_nil_of_mem hr)).mpr hlooked
    exact h _ (List.mem_map_of_mem hr) d hd hn
  · intro h d hd d' hd' hn
    obtain ⟨r, hr, rfl⟩ := List.mem_map.mp hd
    exact h r hr ((lookedUp_iff hnamed (List.ne_nil_of_mem hr)).mp ⟨d', hd', hn⟩)

/--
The functions that are written for a class hide a name that one of them looks up exactly if one of the
identifiers is among the names that its members need. Where what is left of the prefix begins none of
these names, that does not happen.
-/
theorem unshadowed_iff_not_looked_up
    (h : assembleClass w ambient reflect handle o = .ok rs)
    (htext : render w hookPath documented rs = .ok text) :
    ∃ members ds, membersOf w ambient reflect handle o.selection = .ok members ∧
      ds = rs.map (definition (written hookPath) documented) ∧
      text = moduleText (w.modules.map (·.name)) ds ∧
      ds.map (·.name) = rs.map (·.identifier) ∧ (∀ d ∈ ds, RootsOf d.paths d.names) ∧
      (Unshadowed ds ↔ ∀ r ∈ rs, ¬ LookedUp (written hookPath) members r.identifier) ∧
      ((∃ c cs, Text.kept o.namePrefix = c :: cs ∧ c.isDigit = false) →
        (∀ n, LookedUp (written hookPath) members n → ¬ Text.kept o.namePrefix <+: n.toList) →
        Unshadowed ds) := by
  obtain ⟨members, hmembers, hrs⟩ := Except.bind_eq_ok.mp h
  have hnamed := Routine.wellNamed_of_assembleAll hrs
  have hiff : Unshadowed (rs.map (definition (written hookPath) documented)) ↔ _ :=
    unshadowed_definitions hnamed
  refine ⟨members, _, hmembers, rfl, text_of_render htext, ?_, fun d _ => rootsOf_definition d,
    hiff, ?_⟩
  · rw [List.map_map]
    rfl
  · intro hprefix hfree
    apply hiff.mpr
    intro r hr hlooked
    obtain ⟨memberName, n, heq⟩ := Routine.exists_attempt hrs hr
    apply hfree _ hlooked
    rw [heq]
    exact (Text.kept_isPrefix_identifier hprefix _ _).trans (Text.isPrefix_attempt _ n)

/-- A function alone whose name nothing else has. -/
theorem unshadowed_box : ∃ rs text,
    assembleClass (boxes "open_lid") .initial (boxes "open_lid").members (.type boxClass)
      (boxOptions "" "open_lid") = .ok rs ∧
    render (boxes "open_lid") none none rs = .ok text ∧
    Unshadowed (rs.map (definition none none)) := by
  obtain ⟨r, hassemble, hr, -⟩ :=
    assembleClass_boxes "" "open_lid" (by simp [World.isPublic]) (by decide)
  have hidentifier : r.identifier = "open_lid" := by
    rw [hr, Routine.nameFor, Text.kebab_of_noCapital (by decide)]
    decide
  obtain ⟨text, htext⟩ : ∃ text, render (boxes "open_lid") none none [r] = .ok text := ⟨_, rfl⟩
  obtain ⟨members, ds, hmembers, rfl, -, -, -, hiff, -⟩ :=
    unshadowed_iff_not_looked_up hassemble htext
  rw [membersOf_boxOptions "" "open_lid" (by simp [World.isPublic]) (by decide)] at hmembers
  obtain rfl := Except.ok.inj hmembers
  refine ⟨[r], text, hassemble, htext, hiff.mpr ?_⟩
  intro k hk hlooked
  obtain rfl := List.mem_singleton.mp hk
  rw [hidentifier] at hlooked
  rcases hlooked with hlen | hlibrary | ⟨m, hm, hn⟩
  · exact absurd hlen (by decide)
  · exact absurd hlibrary (by decide)
  · obtain rfl := List.mem_singleton.mp hm
    revert hn
    decide

/-- A function named `len` is written as one that looks itself up. -/
theorem len_shadowed : ∃ r text,
    assembleClass (boxes "len") .initial (boxes "len").members (.type boxClass)
      (boxOptions "" "len") = .ok [r] ∧
    render (boxes "len") none none [r] = .ok text ∧
    (definition none none r).name = "len" ∧ "len" ∈ (definition none none r).names ∧
    ¬ Unshadowed [definition none none r] := by
  obtain ⟨r, hassemble, hr, -⟩ := assembleClass_boxes "" "len" (by simp [World.isPublic]) (by decide)
  have hidentifier : r.identifier = "len" := by
    rw [hr, Routine.nameFor, Text.kebab_of_noCapital (by decide)]
    decide
  have hlooked : "len" ∈ (definition none none r).names := List.mem_cons_self
  refine ⟨r, _, hassemble, rfl, hidentifier, hlooked, fun h => ?_⟩
  have hfree := h _ List.mem_cons_self _ List.mem_cons_self
  have hname : (definition none none r).name = "len" := hidentifier
  rw [hname] at hfree
  exact hfree hlooked

end Overloads
