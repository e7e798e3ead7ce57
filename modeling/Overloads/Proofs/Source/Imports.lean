import Overloads.Proofs.Class.Name
import Overloads.Proofs.Source.References

/-! The text of rendered functions imports the modules in front of the paths in it, and no others. -/
namespace Overloads

variable {loaded : List (List String)} {p : String} {m k : List String}

namespace Source

/-- That a loaded module is named by the beginning of a dotted path, which goes on behind it. -/
structure Fronts (loaded : List (List String)) (p : String) (m : List String) : Prop where
  known : m ∈ loaded
  named : m ≠ []
  front : m <+: splitDots p
  proper : m.length < (splitDots p).length

/-- That no other module that a path begins with is longer. -/
structure LongestFront (loaded : List (List String)) (p : String) (m : List String) : Prop
    extends Fronts loaded p m where
  longest : ∀ k, Fronts loaded p k → k.length ≤ m.length

theorem Fronts.splitDots_dotted (h : Fronts loaded p m) : splitDots (dotted m) = m := by
  apply Overloads.splitDots_dotted h.named
  intro s hs
  obtain ⟨l, hl, rfl⟩ := List.mem_map.mp (h.front.subset hs)
  simpa using dot_notMem_of_mem_splitOn hl

/-- A search downwards finds the largest number. -/
theorem findSome?_reverse_range {α : Type} {f : Nat → Option α} {n : Nat} {a : α} :
    (List.range n).reverse.findSome? f = some a ↔
      ∃ i, i < n ∧ f i = some a ∧ ∀ j, i < j → j < n → f j = none := by
  induction n with
  | zero => simp
  | succ n ih =>
    rw [List.range_succ, List.reverse_append, List.reverse_singleton, List.singleton_append,
      List.findSome?_cons]
    cases hn : f n with
    | some b =>
      constructor
      · rintro h
        obtain rfl := Option.some.inj h
        exact ⟨n, Nat.lt_succ_self n, hn, fun j hj hj' => by omega⟩
      · rintro ⟨i, hi, hfound, hnone⟩
        rcases Nat.lt_succ_iff_lt_or_eq.mp hi with hlt | rfl
        · have := hnone n hlt (Nat.lt_succ_self n)
          simp [hn] at this
        · exact hn.symm.trans hfound
    | none =>
      dsimp only
      rw [ih]
      constructor
      · rintro ⟨i, hi, hfound, hnone⟩
        refine ⟨i, Nat.lt_succ_of_lt hi, hfound, fun j hj hj' => ?_⟩
        rcases Nat.lt_succ_iff_lt_or_eq.mp hj' with hlt | rfl
        · exact hnone j hj hlt
        · exact hn
      · rintro ⟨i, hi, hfound, hnone⟩
        rcases Nat.lt_succ_iff_lt_or_eq.mp hi with hlt | rfl
        · exact ⟨i, hlt, hfound, fun j hj hj' => hnone j hj (Nat.lt_succ_of_lt hj')⟩
        · simp [hn] at hfound

/-- The first `n` parts of a path, where they name a loaded module. -/
def frontAt (loaded : List (List String)) (p : String) (n : Nat) : Option (List String) :=
  if n ≠ 0 && loaded.contains ((splitDots p).take n) then some ((splitDots p).take n) else none

theorem moduleFor?_eq_findSome? : moduleFor? loaded p =
    (List.range (splitDots p).length).reverse.findSome? (frontAt loaded p) := rfl

theorem frontAt_eq_some_iff {n : Nat} (hn : n < (splitDots p).length) :
    frontAt loaded p n = some m ↔ m.length = n ∧ Fronts loaded p m := by
  have hlength : ((splitDots p).take n).length = n := by
    rw [List.length_take]
    omega
  simp only [frontAt, Option.ite_none_right_eq_some, Bool.and_eq_true, decide_eq_true_eq,
    List.contains_iff_mem, Option.some.injEq]
  constructor
  · rintro ⟨⟨hpos, hknown⟩, rfl⟩
    refine ⟨hlength, hknown, ?_, List.take_prefix _ _, hlength.symm ▸ hn⟩
    intro hnone
    rw [hnone] at hlength
    exact hpos hlength.symm
  · rintro ⟨rfl, h⟩
    have htake : (splitDots p).take m.length = m := (List.prefix_iff_eq_take.mp h.front).symm
    exact ⟨⟨by simpa using h.named, htake.symm ▸ h.known⟩, htake⟩

/-- The search for a module finds the longest one in front. -/
theorem moduleFor?_eq_some_iff : moduleFor? loaded p = some m ↔ LongestFront loaded p m := by
  rw [moduleFor?_eq_findSome?, findSome?_reverse_range]
  constructor
  · rintro ⟨n, hn, hfound, hnone⟩
    obtain ⟨rfl, hm⟩ := (frontAt_eq_some_iff hn).mp hfound
    refine ⟨hm, fun k hk => Nat.le_of_not_lt fun hlt => ?_⟩
    have hk' := (frontAt_eq_some_iff hk.proper).mpr ⟨rfl, hk⟩
    rw [hnone k.length hlt hk.proper] at hk'
    cases hk'
  · intro h
    refine ⟨m.length, h.proper, (frontAt_eq_some_iff h.proper).mpr ⟨rfl, h.toFronts⟩, ?_⟩
    intro n hlt hn
    cases hfound : frontAt loaded p n with
    | none => rfl
    | some k =>
      obtain ⟨rfl, hk⟩ := (frontAt_eq_some_iff hn).mp hfound
      exact absurd (h.longest k hk) (Nat.not_le.mpr hlt)

/-- Of the modules that a path begins with, one is the longest. -/
theorem exists_longestFront (h : Fronts loaded p k) : ∃ m, LongestFront loaded p m := by
  cases hfound : moduleFor? loaded p with
  | some m => exact ⟨m, moduleFor?_eq_some_iff.mp hfound⟩
  | none =>
    rw [moduleFor?_eq_findSome?, List.findSome?_eq_none_iff] at hfound
    have hk := (frontAt_eq_some_iff h.proper).mpr ⟨rfl, h⟩
    rw [hfound k.length (by simpa using h.proper)] at hk
    cases hk

variable {ds : List Definition} {name : String}

/-- What is imported is the longest module in front of a path, and none of the builtin names. -/
theorem mem_imports : name ∈ imports loaded ds ↔ ∃ d ∈ ds, ∃ p ∈ d.paths, ∃ m,
    LongestFront loaded p m ∧ m ≠ ClassName.builtinModule ∧ dotted m = name := by
  simp only [imports, List.mem_mergeSort, List.mem_map, List.mem_eraseDups, List.mem_filter,
    List.mem_filterMap, List.mem_flatMap, decide_eq_true_eq, moduleFor?_eq_some_iff]
  constructor
  · rintro ⟨m, ⟨⟨p, ⟨d, hd, hp⟩, hm⟩, hbuiltin⟩, rfl⟩
    exact ⟨d, hd, p, hp, m, hm, hbuiltin, rfl⟩
  · rintro ⟨d, hd, p, hp, m, hm, hbuiltin, rfl⟩
    exact ⟨m, ⟨⟨p, ⟨d, hd, hp⟩, hm⟩, hbuiltin⟩, rfl⟩

/-- The modules are imported in the order of their names, each once. -/
theorem imports_increasing (loaded : List (List String)) (ds : List Definition) :
    (imports loaded ds).Pairwise (· < ·) := by
  let modules := (((ds.flatMap (·.paths)).filterMap (moduleFor? loaded)).filter
    (· ≠ ClassName.builtinModule)).eraseDups
  let le (a b : String) : Bool := !decide (b < a)
  have hle (a b : String) : le a b = true ↔ a ≤ b := by
    rw [Bool.not_eq_true', decide_eq_false_iff_not, String.not_lt]
  have htrans (a b c : String) (hab : le a b = true) (hbc : le b c = true) : le a c = true :=
    (hle a c).mpr (String.le_trans ((hle a b).mp hab) ((hle b c).mp hbc))
  have htotal (a b : String) : (le a b || le b a) = true := by
    rw [Bool.or_eq_true, hle, hle]
    exact String.le_total a b
  have hordered : (imports loaded ds).Pairwise (· ≤ ·) :=
    (List.pairwise_mergeSort htrans htotal (modules.map dotted)).imp (hle _ _).mp
  have hfronts : ∀ m ∈ modules, splitDots (dotted m) = m := by
    intro m hm
    obtain ⟨p, -, hfound⟩ := List.mem_filterMap.mp (List.mem_filter.mp (List.mem_eraseDups.mp hm)).1
    exact (moduleFor?_eq_some_iff.mp hfound).splitDots_dotted
  have hdistinct : (imports loaded ds).Nodup := by
    refine (List.mergeSort_perm _ _).nodup_iff.mpr (List.pairwise_map.mpr ?_)
    refine (Routine.nodup_eraseDups _).imp_of_mem fun hm hk hne heq => hne ?_
    rw [← hfronts _ hm, heq, hfronts _ hk]
  exact (hordered.and hdistinct).imp fun h =>
    String.not_le.mp fun hle => h.2 (String.le_antisymm h.1 hle)

/-- A routine that was assembled of members, with the path of the hook that its clauses have. -/
structure Spec where
  hook : Option String
  members : List Member
  routine : Routine
  assembled : ∃ proofMode memberName name id,
    Routine.assemble proofMode memberName members name id = .ok routine

/-- The function that is written for it. -/
def Spec.definition (documented : Option (Option Int)) (s : Spec) : Definition :=
  Source.definition s.hook documented s.routine

/-- What occurs in it: types, targets and hooks of its members, and the functions of the library. -/
def Spec.paths (s : Spec) : List String :=
  instanceTest :: refusal :: s.members.flatMap (·.paths s.hook)

theorem Spec.mem_paths_iff (s : Spec) (documented : Option (Option Int)) (p : String) :
    p ∈ (s.definition documented).paths ↔ p ∈ s.paths := by
  obtain ⟨proofMode, memberName, name, id, h⟩ := s.assembled
  have hne : s.members ≠ [] := by
    intro hnone
    rw [hnone] at h
    cases h
  rw [Routine.assemble_eq hne] at h
  rw [Spec.definition, ← Except.ok.inj h, mem_paths_definition, Spec.paths, List.mem_cons,
    List.mem_cons, List.mem_flatMap]

/--
The functions that are written for routines refer to the types, targets and hooks of the members, and
to two functions of the library: a call looks up nothing else. For each of these paths that a loaded
module is in front of, the longest one is imported unless it is that of the builtin names. Each module
imported is in front of one of them, and the modules stand in ascending order.
-/
theorem imports_exact (loaded : List (List String)) (documented : Option (Option Int))
    (specs : List Spec) :
    let ds := specs.map (·.definition documented)
    (∀ s ∈ specs, ∀ p, p ∈ (s.definition documented).paths ↔ p ∈ s.paths) ∧
    (∀ s ∈ specs, ∀ (M : Type → Type) [Monad M] [LawfulMonad M] [MonadExcept Failure M]
      (w : World) (names names' : Names M) (around : Surroundings M) (room : Nat)
      (args : List Value), names.AgreeOn names' s.paths →
      (s.definition documented).run w names around room args =
        (s.definition documented).run w names' around room args) ∧
    (∀ s ∈ specs, ∀ p ∈ s.paths, (∃ k, Fronts loaded p k) →
      ∃ m, LongestFront loaded p m ∧
        (m = ClassName.builtinModule ∨ dotted m ∈ imports loaded ds)) ∧
    (∀ name ∈ imports loaded ds, ∃ s ∈ specs, ∃ p ∈ s.paths, ∃ m,
      LongestFront loaded p m ∧ m ≠ ClassName.builtinModule ∧ dotted m = name) ∧
    (imports loaded ds).Pairwise (· < ·) ∧
    moduleText loaded ds = joinLines (header :: (imports loaded ds).map ("import " ++ ·) ++
      ds.flatMap fun d => "" :: "" :: d.lines) := by
  intro ds
  refine ⟨fun s _ p => s.mem_paths_iff documented p, ?_, ?_, ?_, imports_increasing loaded ds, rfl⟩
  · intro s _ M _ _ _ w names names' around room args h
    exact run_of_agreeOn (h.mono fun p hp => (s.mem_paths_iff documented p).mp hp) room args
  · rintro s hs p hp ⟨k, hk⟩
    obtain ⟨m, hm⟩ := exists_longestFront hk
    refine ⟨m, hm, Decidable.or_iff_not_imp_left.mpr fun hbuiltin => ?_⟩
    have hpaths := (s.mem_paths_iff documented p).mpr hp
    exact mem_imports.mpr ⟨_, List.mem_map_of_mem hs, p, hpaths, m, hm, hbuiltin, rfl⟩
  · intro name hname
    obtain ⟨d, hd, p, hp, m, hm, hbuiltin, heq⟩ := mem_imports.mp hname
    obtain ⟨s, hs, rfl⟩ := List.mem_map.mp hd
    exact ⟨s, hs, p, (s.mem_paths_iff documented p).mp hp, m, hm, hbuiltin, heq⟩

/-- A member for a whole number, written with a hook of another module. -/
def hooked : Spec where
  hook := some "crates.widen"
  members := [.tracing [.primitive .int] none]
  routine := .laidOut "f" [.tracing [.primitive .int] none] "f" "f"
  assembled := ⟨true, "f", "f", "f", Routine.assemble_eq (by simp) true "f" "f" "f"⟩

theorem splitDots_hook : splitDots "crates.widen" = ["crates", "widen"] := by decide

theorem fronts_hook : Fronts [["crates"]] "crates.widen" ["crates"] where
  known := List.mem_singleton_self _
  named := by simp
  front := by simp [splitDots_hook]
  proper := by simp [splitDots_hook]

/-- The module of the hook is imported. -/
theorem hook_module_imported : (∃ k, Fronts [["crates"]] "crates.widen" k) ∧
    "crates" ∈ imports [["crates"]] [hooked.definition none] := by
  refine ⟨⟨_, fronts_hook⟩, ?_⟩
  have hpath : "crates.widen" ∈ hooked.paths := by
    simp [Spec.paths, hooked, Member.paths, Member.testedTypes, Member.tracing, typePaths]
  obtain ⟨-, -, hcomplete, -⟩ := imports_exact [["crates"]] none [hooked]
  obtain ⟨m, hm, hcase⟩ :=
    hcomplete hooked (List.mem_singleton_self _) "crates.widen" hpath ⟨_, fronts_hook⟩
  obtain rfl := List.mem_singleton.mp hm.known
  exact hcase.resolve_left (by decide)

end Source

end Overloads
