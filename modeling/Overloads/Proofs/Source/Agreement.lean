import Overloads.Proofs.Source.Reading
import Overloads.Proofs.Source.Simulation
import Overloads.Proofs.Text.Identifier
import Overloads.Proofs.Text.Naming

/-! The text that is written for a routine, read and run, does what the routine does. -/
namespace Overloads

variable {members : List Member} {memberName name id : String} {s : ClauseSet} {c : Clause}

/-- Only variadic members are tried on any number of arguments. -/
theorem Routine.isVariadic_of_tail (hs : s ∈ (laidOut memberName members name id).clauseSets)
    (hc : c ∈ s.clauses) (htail : c.tail = true) : c.member.isVariadic = true := by
  rcases List.mem_append.mp hs with hfixed | hopen
  · obtain ⟨k, -, rfl⟩ := List.mem_map.mp hfixed
    obtain ⟨m, -, rfl⟩ := List.mem_map.mp hc
    cases htail
  · unfold tailSets at hopen
    split at hopen
    · cases hopen
    · obtain rfl := List.mem_singleton.mp hopen
      obtain ⟨m, hm, rfl⟩ := List.mem_map.mp hc
      exact (mem_openTo.mp hm).2.1

namespace Source

variable {M : Type → Type} {names : Names M} {hook : Option (Hook M)} {path : Option String}
variable {e : Expr} {t : TypeRef}

theorem isPath_coercedBy (hd : names.Denotes hook path members)
    (ht : names.type? t.boxed.text = some t.boxed) (he : ∀ p ∈ e.paths, isPath p = true) :
    ∀ p ∈ (coercedBy path e t).paths, isPath p = true := by
  have hhooks := hd.hooks
  cases path with
  | none => exact he
  | some hookPath =>
    cases hook with
    | none => simp at hhooks
    | some h =>
      intro p hp
      rcases List.mem_cons.mp hp with rfl | hp
      · exact names.isPath_of_hook (hd.hook h p rfl rfl)
      · rcases List.mem_cons.mp hp with rfl | hp
        · exact names.isPath_of_type ht
        · exact he p hp

theorem isPath_guardTests (hd : names.Denotes hook path members) (hm : c.member ∈ members)
    (htail : c.tail = true → c.member.isVariadic = true) :
    ∀ test ∈ guardTests path c, ∀ p ∈ test.paths, isPath p = true := by
  have htest : ∀ t ∈ c.member.testedTypes, ∀ e : Expr, e.paths = [] →
      ∀ p ∈ t.boxed.text :: (coercedBy path e t).paths, isPath p = true := by
    intro t ht e he p hp
    have hknown := hd.types _ hm t ht
    rcases List.mem_cons.mp hp with rfl | hp
    · exact names.isPath_of_type hknown
    · exact isPath_coercedBy hd hknown (by simp [he]) p hp
  have hleading : ∀ test ∈ c.guardTypes.mapIdx fun i t =>
      Test.isInstance (coercedBy path (.argument i) t) t.boxed.text,
      ∀ p ∈ test.paths, isPath p = true := by
    intro test htest'
    obtain ⟨i, hi, rfl⟩ := List.mem_mapIdx.mp htest'
    exact htest _ (Member.mem_testedTypes (List.getElem_mem hi)) _ rfl
  intro test htest'
  unfold guardTests at htest'
  split at htest'
  · rename_i hc
    obtain ⟨element, helement⟩ := Option.isSome_iff_exists.mp (htail hc)
    rcases List.mem_append.mp htest' with hmem | hmem
    · exact hleading test hmem
    · obtain rfl := List.mem_singleton.mp hmem
      rw [helement, Option.getD_some]
      exact htest element (by simp [Member.testedTypes, helement]) _ rfl
  · exact hleading test htest'

theorem isPath_invocation (hd : names.Denotes hook path members) (hm : c.member ∈ members) :
    ∀ p ∈ (invocation path c).paths, isPath p = true := by
  have hcoerced : ∀ t ∈ c.member.testedTypes, ∀ e : Expr, e.paths = [] →
      ∀ p ∈ (coercedBy path e t).paths, isPath p = true :=
    fun t ht e he => isPath_coercedBy hd (hd.types _ hm t ht) (by simp [he])
  have hcast : ∀ (t : TypeRef) (e : Expr), (castFor t e).paths = e.paths := by
    intro t e
    unfold castFor
    split <;> rfl
  intro p hp
  rcases List.mem_cons.mp hp with rfl | hp
  · exact names.isPath_of_target (hd.targets _ hm)
  · obtain ⟨a, ha, hp⟩ := List.mem_flatMap.mp hp
    rcases List.mem_append.mp ha with hleading | hfurther
    · obtain ⟨i, hi, rfl⟩ := List.mem_mapIdx.mp hleading
      rw [Passed.paths, hcast] at hp
      exact hcoerced _ (List.mem_append_left _ (List.getElem_mem hi)) _ rfl p hp
    · cases hvarargs : c.member.varargs with
      | none => simp [hvarargs] at hfurther
      | some element =>
        rw [hvarargs] at hfurther
        cases path with
        | none =>
          obtain rfl := List.mem_singleton.mp hfurther
          cases hp
        | some hookPath =>
          obtain rfl := List.mem_singleton.mp hfurther
          exact hcoerced element (by simp [Member.testedTypes, hvarargs]) _ rfl p hp

theorem isPath_block (hd : names.Denotes hook path members)
    (hs : ∀ c ∈ s.clauses, c.member ∈ members ∧ (c.tail = true → c.member.isVariadic = true)) :
    ∀ p ∈ (block path s).paths, isPath p = true := by
  apply forall_mem_paths_block.mpr
  constructor
  · intro x hx
    obtain ⟨c, hc, rfl⟩ := List.mem_map.mp hx
    obtain ⟨hm, htail⟩ := hs c ((List.takeWhile_sublist _).subset hc)
    exact ⟨isPath_guardTests hd hm htail, isPath_invocation hd hm⟩
  · intro p hp
    simp only [block, ending] at hp
    split at hp
    · rename_i c hfind
      exact isPath_invocation hd (hs c (List.mem_of_find?_eq_some hfind)).1 p hp
    · cases hp

/-- Where all paths stand for something, all that is written are paths. -/
theorem isPath_definition (hd : names.Denotes hook path members)
    (documented : Option (Option Int)) :
    ∀ p ∈ (definition path documented (Routine.laidOut memberName members name id)).paths,
      isPath p = true := by
  intro p hp
  simp only [Definition.paths, List.mem_cons, List.mem_flatMap] at hp
  rcases hp with rfl | rfl | ⟨b, hb, hp⟩
  · decide
  · decide
  · obtain ⟨s, hs, rfl⟩ := List.mem_map.mp hb
    exact isPath_block hd
      (fun c hc => ⟨Routine.member_of_clause hs hc, Routine.isVariadic_of_tail hs hc⟩) p hp

theorem read_definition (hd : names.Denotes hook path members) (hid : id ≠ "")
    (hchars : ∀ c ∈ id.toList, isNameChar c = true) :
    read (definition path none (Routine.laidOut memberName members name id)).text =
      some (definition path none (Routine.laidOut memberName members name id)) :=
  read_text hid hchars rfl (isPath_definition hd none)

/-- An identifier that is made up is as readable as one that is given. -/
theorem isNameChar_getD {given : Option String} (name : String)
    (h : ∀ s ∈ given, ∀ c ∈ s.toList, isNameChar c = true) {id : String}
    (hid : (given.filter (!·.isEmpty)).getD (Text.identifier name Text.defaultFallback) = id) :
    id ≠ "" ∧ ∀ c ∈ id.toList, isNameChar c = true := by
  subst hid
  cases hgiven : given.filter (!·.isEmpty) with
  | none =>
    rw [Option.getD_none]
    refine ⟨Text.identifier_ne_empty name, ?_⟩
    intro c hc
    have hidentifier := Text.isIdentifierChar_identifier name c hc
    simp [isNameChar, hidentifier]
  | some s =>
    obtain ⟨hs, hne⟩ := Option.filter_eq_some_iff.mp hgiven
    rw [Option.getD_some]
    exact ⟨by simpa using hne, h s hs⟩

variable [Monad M] [MonadExcept Failure M] [LawfulMonad M] [LawfulThrow M]

/--
Members always make a routine, and the text that is written for it is that of a function. Where paths
stand for what they were written for and the function has not the name of a builtin one that it calls,
a call of it reaches what the routine does, or fails in the same way.
-/
theorem run_of_read_text (hne : members ≠ []) (w : World) (hd : names.Denotes hook path members)
    (proofMode : Bool) (namePrefix memberName : String) (name given : Option String)
    (hgiven : ∀ s ∈ given, ∀ c ∈ s.toList, isNameChar c = true) :
    ∃ r, Routine.assembleNamed proofMode namePrefix memberName members name given = .ok r ∧
      ∃ d, read (definition path none r).text = some d ∧
        ((∀ b : Builtin, b.name ≠ r.identifier) →
          ∀ (around : Surroundings M) (room : Nat) (args : List Value),
            d.run w names around (room + 1) args =
              (do return reached (← r.dispatch w hook args))) := by
  rw [Routine.assembleNamed, Routine.assemble_eq hne]
  obtain ⟨hid, hchars⟩ := isNameChar_getD _ hgiven rfl
  exact ⟨_, rfl, _, read_definition hd hid hchars,
    fun hfree around room args => run_definition hfree hd none room⟩

/-- Names that are listed with what they stand for. Of these, paths are taken. -/
def Names.listed (types : List (String × ClassName))
    (hooks : List (String × (Value → ClassName → M Value))) (targets : List (String × Target)) :
    Names M where
  type? p := if isPath p then types.lookup p else none
  hook? p := if isPath p then hooks.lookup p else none
  target? p := if isPath p then targets.lookup p else none
  isPath_of_type h := (Option.ite_none_right_eq_some.mp h).1
  isPath_of_hook h := (Option.ite_none_right_eq_some.mp h).1
  isPath_of_target h := (Option.ite_none_right_eq_some.mp h).1

/-- Without anything given, a plain name makes the identifier as it is. -/
theorem identifier_of_plain (name : String) (hlower : name.toList.dropLast.any Text.isCapital = false)
    (hsame : Text.identifier
        ("" ++ String.ofList (Text.lowerText (Text.splitAtCapitals name.toList)))
        Text.defaultFallback = name) :
    Text.identifier (Routine.nameFor "" name) Text.defaultFallback = name := by
  rw [Routine.nameFor, Text.kebab_of_noCapital hlower, hsame]

/-- A world outside in which targets answer with what they get. -/
def plainSurroundings : Surroundings (Except Failure) where
  call _ args := .ok (.list args)
  generator _ := .nothing
  truth v := .ok (v != .nothing)

/-- With a hook that keeps every value, any number of `long`s can be passed. -/
theorem run_of_read_text_of_integers :
    ∃ r, Routine.assembleNamed true "" "f" [.tracing [] (some (.primitive .long))] none none =
        .ok r ∧
      (∀ b : Builtin, b.name ≠ r.identifier) ∧
      ∃ d, read (definition (some "hooks.keep") none r).text = some d ∧
        d.run .empty (.listed (M := Except Failure) [("int", .builtin "int")]
          [("hooks.keep", Hook.identity)] [("object.f", .scripted "f" .trace)]) plainSurroundings 1
            [.int 1, .int 2] = .ok (.scripted "f" .trace, [.int 1, .int 2]) := by
  have hne : [Member.tracing [] (some (.primitive .long))] ≠ [] := by simp
  have hd : Names.Denotes (.listed (M := Except Failure) [("int", .builtin "int")]
      [("hooks.keep", Hook.identity)] [("object.f", .scripted "f" .trace)])
      (some ⟨.ok "hooks.keep", Hook.identity⟩) (some "hooks.keep")
      [.tracing [] (some (.primitive .long))] := {
    hooks := rfl
    hook := by
      intro h p hh hp
      cases hh
      cases hp
      rfl
    types := by
      intro m hm t ht
      obtain rfl := List.mem_singleton.mp hm
      obtain rfl := List.mem_singleton.mp ht
      rfl
    targets := by
      intro m hm
      obtain rfl := List.mem_singleton.mp hm
      rfl }
  obtain ⟨r, hr, d, hread, hrun⟩ := run_of_read_text hne .empty hd true "" "f" none none (by simp)
  have hidentifier : r.identifier = "f" := by
    rw [Routine.assembleNamed, Routine.assemble_eq hne] at hr
    cases hr
    exact identifier_of_plain "f" (by decide) (by decide)
  have hfree : ∀ b : Builtin, b.name ≠ r.identifier := by
    rw [hidentifier]
    intro b
    cases b with
    | len | all => decide
    | cast c => cases c <;> decide
  refine ⟨r, hr, hfree, d, hread, ?_⟩
  rw [Routine.assembleNamed, Routine.assemble_eq hne] at hr
  cases hr
  have hcandidates : candidates [.tracing [] (some (.primitive .long))] 2 =
      [.tracing [] (some (.primitive .long))] := by
    simp [candidates, exactly, openTo, sortedBy, Member.tracing, Member.isVariadic,
      Member.parameterCount]
  rw [hrun hfree, dispatch_laidOut, respond]
  simp only [List.length_cons, List.length_nil, hcandidates]
  rfl

/-- A member without parameters that has the name of a builtin function. -/
def lenMember : Member := { Member.tracing [] none with name := "len" }

/-- The routine for it answers, but no call of the function that is written for it does. -/
theorem len_never_answers :
    ∃ r, Routine.assembleNamed true "" "len" [lenMember] none none = .ok r ∧
      r.dispatch (m := Except Failure) .empty none [] = .ok ⟨lenMember, []⟩ ∧
      ∃ d, read (definition none none r).text = some d ∧
        ∀ (names : Names (Except Failure)) (around : Surroundings (Except Failure)) (room : Nat)
          (args : List Value), d.run .empty names around room args = .error .tooDeep := by
  have hne : [lenMember] ≠ [] := by simp
  have hd : Names.Denotes (.listed (M := Except Failure) [] [] [("object.f", .scripted "f" .trace)])
      none none [lenMember] := {
    hooks := rfl
    hook := by
      intro h p hh
      cases hh
    types := by
      intro m hm t ht
      obtain rfl := List.mem_singleton.mp hm
      cases ht
    targets := by
      intro m hm
      obtain rfl := List.mem_singleton.mp hm
      rfl }
  have hidentifier := identifier_of_plain "len" (by decide) (by decide)
  have hreadable := @isNameChar_getD none (Routine.nameFor "" "len") (by simp) _ rfl
  have hcandidates : candidates [lenMember] 0 = [lenMember] := by
    simp [candidates, exactly, openTo, sortedBy, lenMember, Member.tracing, Member.isVariadic,
      Member.parameterCount]
  rw [Routine.assembleNamed, Routine.assemble_eq hne]
  refine ⟨_, rfl, ?_, _, read_definition hd hreadable.1 hreadable.2, ?_⟩
  · rw [dispatch_laidOut, respond]
    simp only [List.length_nil, hcandidates]
    rfl
  · intro names around room args
    exact run_of_len hidentifier room args

end Source

end Overloads
