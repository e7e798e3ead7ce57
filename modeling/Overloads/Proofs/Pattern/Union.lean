import Overloads.Proofs.Pattern.Joining

/-! Several expressions joined into one find what any of them finds. -/
namespace Overloads.Pattern

open Reader

variable {text : String} {c : Compiled} {stop : Cursor} {p : Part} {ps : List Part}
variable {k : Nat} {m : Matcher}

/-! Searching. -/

theorem any_or {α : Type} (l : List α) (f g : α → Bool) :
    (l.any f || l.any g) = l.any fun a => f a || g a := by
  induction l with
  | nil => rfl
  | cons a rest ih =>
    simp only [List.any_cons, ← ih]
    ac_rfl

theorem isSome_searchFrom_succ (fuel : Nat) (q : Place) : (searchFrom m (fuel + 1) q).isSome =
    ((m q some).isSome || match q.rest with
      | [] => false
      | c :: rest => (searchFrom m fuel { q with before := c :: q.before, rest := rest }).isSome) := by
  rw [searchFrom]
  cases m q some with
  | some answer => rfl
  | none => cases q.rest <;> rfl

/-- What matches wherever one of some ways to match does is found wherever one of them is. -/
theorem isSome_searchFrom {ms : List Matcher}
    (h : ∀ q, q.groups = [] → (m q some).isSome = ms.any fun m' => (m' q some).isSome) (fuel : Nat)
    (q : Place) (hq : q.groups = []) :
    (searchFrom m fuel q).isSome = ms.any fun m' => (searchFrom m' fuel q).isSome := by
  induction fuel generalizing q with
  | zero => exact h q hq
  | succ fuel ih =>
    simp only [isSome_searchFrom_succ, h q hq]
    cases hrest : q.rest with
    | nil => simp
    | cons c rest =>
      dsimp only
      rw [ih { q with before := c :: q.before, rest := rest } hq, any_or]

theorem isSome_runFirst {alternatives : List (List Node)} {f : Flags} {q : Place} {K : After} :
    (runFirst alternatives f q K).isSome =
      alternatives.any fun ns => (runAll ns f q K).isSome := by
  induction alternatives with
  | nil => rfl
  | cons ns rest ih =>
    rw [runFirst, List.any_cons, ← ih]
    cases runAll ns f q K <;> rfl

/-- Parentheses that are no group match what is in them, under whatever numbers its groups have. -/
theorem isSome_run_node {q : Place} (hq : q.groups = []) (ns : List Node) :
    (runAll [.group none [] [] (shiftAll k ns)] [] q some).isSome = (runAll ns [] q some).isSome := by
  have hsame : q.renumber k = q := by
    obtain ⟨before, rest, groups⟩ := q
    subst hq
    rfl
  have hshift := alike_runAll (k := k) ns [] q some some alike_some
  rw [hsame] at hshift
  change (runAll (shiftAll k ns) [] q some).isSome = _
  rw [hshift, Option.isSome_map]

theorem any_joinedNodes {q : Place} (hq : q.groups = []) :
    (joinedNodes k ps).any (fun n => (runAll [n] [] q some).isSome) =
      ps.any fun p => (runAll p.body [] q some).isSome := by
  induction ps generalizing k with
  | nil => rfl
  | cons p rest ih => rw [joinedNodes, List.any_cons, List.any_cons, isSome_run_node hq, ih]

/-- Expressions in parentheses are told apart by none of the characters they begin with. -/
theorem choice_joinedNodes (h : 2 ≤ ps.length) :
    Node.choice ((joinedNodes k ps).map fun n => [n]) =
      [.branch ((joinedNodes k ps).map fun n => [n])] := by
  match ps, h with
  | p :: q :: rest, _ => simp [joinedNodes, Node.choice, Node.commonStart, Node.same, Node.setItems?]

theorem obstacle?_joinedNodes (h : ∀ p ∈ ps, obstacle? false p.body = none) :
    obstacle?.any false ((joinedNodes k ps).map fun n => [n]) = none := by
  induction ps generalizing k with
  | nil => rfl
  | cons p rest ih =>
    have hbody : obstacle?.all false (shiftAll k p.body) = none := by
      rw [obstacle?_all_shift]
      exact h p List.mem_cons_self
    have hrest := ih (k := k + (p.stop.groupCount - 1)) fun q hq => h q (List.mem_cons_of_mem p hq)
    simp [joinedNodes, obstacle?.any, obstacle?.all, obstacle?.one, hbody, hrest]

theorem isTooWide_joinedNodes (h : ∀ p ∈ ps, isTooWide p.body = false) :
    isTooWide.any ((joinedNodes k ps).map fun n => [n]) = false := by
  induction ps generalizing k with
  | nil => rfl
  | cons p rest ih =>
    have hbody : isTooWide.all (shiftAll k p.body) = false := by
      rw [isTooWide_all_shift]
      exact h p List.mem_cons_self
    have hrest := ih (k := k + (p.stop.groupCount - 1)) fun q hq => h q (List.mem_cons_of_mem p hq)
    simp [joinedNodes, isTooWide.any, isTooWide.all, isTooWide.one, hbody, hrest]

/-! Reading. -/

/-- A text is read as alternatives up to its end. -/
theorem yields_whole {s : Cursor} : Yields (fun c d => s.rest ≠ ['\\'] ∧
    (alternatives ⟨false, true, true, nestingRoom⟩ [] (3 * s.rest.length + 4)).run s = .ok (c.nodes, d) ∧
      d.rest = [] ∧ c.flags = d.flags) Reader.whole s := by
  refine yields_bind fun _ s' hcheck => ?_
  rw [run_checkToken] at hcheck
  split at hcheck
  · cases hcheck
  next hrest =>
    cases hcheck
    refine yields_bind fun _ s' hget => ?_
    cases hget
    refine yields_bind fun nodes d hread => yields_bind fun _ d' hget => ?_
    cases hget
    refine yields_ite (fun _ => yields_of_error rfl) fun _ => ?_
    refine yields_ite (fun _ => yields_of_error rfl) fun hend => ?_
    split
    · exact yields_of_error rfl
    · exact yields_pure ⟨hrest, hread, by simpa using hend, rfl⟩

/-- Alternatives up to the end of the text are what the text is read as. -/
theorem reaches_whole {s d : Cursor} {nodes : List Node} (hrest : s.rest ≠ ['\\'])
    (hread : Reaches (alternatives ⟨false, true, true, nestingRoom⟩ [] (3 * s.rest.length + 4)) s nodes d)
    (hend : d.rest = []) (hd : d.Between) : Reaches Reader.whole s ⟨nodes, []⟩ d := by
  have hcheck : checkToken.run s = .ok ((), s) := by rw [run_checkToken, if_neg hrest]
  refine Reaches.bind (.inr hcheck) (Reaches.get_bind (hread.bind (Reaches.get_bind (.inr ?_))))
  simp only [hd.flags, hd.awaited, hend]
  rfl

theorem compile_eq_ok : compile text = .ok c ↔ ∃ d, Reader.whole.run (.start text.toList) = .ok (c, d) ∧
    obstacle? (c.flags.contains .template) c.nodes = none ∧ isTooWide c.nodes = false := by
  unfold compile
  rw [Except.bind_eq_ok]
  constructor
  · rintro ⟨⟨c', d⟩, hread, h⟩
    dsimp only at h
    split at h
    · cases h
    next hobstacle =>
      split at h
      · cases h
      next hwide =>
        cases h
        exact ⟨d, hread, hobstacle, by simpa using hwide⟩
  · rintro ⟨d, hread, hobstacle, hwide⟩
    refine ⟨(c, d), hread, ?_⟩
    dsimp only
    rw [hobstacle, hwide]
    rfl

theorem compile_of_error {fault : Fault} (h : Reader.whole.run (.start text.toList) = .error fault) :
    compile text = .error fault := by
  unfold compile
  change Reader.whole.run (.start text.toList) >>= _ = _
  rw [h]
  rfl

/-- The place where the reading of a text ends. -/
def ending? (text : String) : Option Cursor :=
  match Reader.whole.run (.start text.toList) with
  | .ok (_, d) => some d
  | .error _ => none

/-- The names that a text gives to its groups. -/
def groupNames (text : String) : List String :=
  ((ending? text).map fun d => d.names.map Prod.fst).getD []

def hasGroups (text : String) : Bool := (ending? text).any (1 < ·.groupCount)

/-- Whether a text has no flags for the whole expression and no condition that asks for a group by number. -/
def staysInside (text : String) : Bool :=
  (ending? text).all fun d => d.flags.isEmpty && d.awaited.isEmpty

/--
Texts that mean beside each other what they mean alone: each stays inside its place, no name is given twice, and
no escape is a number behind the groups of another text.
-/
structure Separate (texts : List String) : Prop where
  inside : ∀ s ∈ texts, staysInside s
  names : texts.Pairwise fun s t => ∀ name ∈ groupNames s, name ∉ groupNames t
  numbers : texts.Pairwise fun s t => hasGroups s = false ∨ hasNumberedEscape t.toList = false

instance (texts : List String) : Decidable (Separate texts) :=
  decidable_of_iff
    ((∀ s ∈ texts, staysInside s) ∧
      (texts.Pairwise fun s t => ∀ name ∈ groupNames s, name ∉ groupNames t) ∧
      texts.Pairwise fun s t => hasGroups s = false ∨ hasNumberedEscape t.toList = false)
    ⟨fun h => ⟨h.1, h.2.1, h.2.2⟩, fun h => ⟨h.inside, h.names, h.numbers⟩⟩

/-- What a text is read as. -/
def part (text : String) : Part where
  text := text.toList
  body := ((compile text).toOption.map Compiled.nodes).getD []
  stop := (ending? text).getD (.start [])

theorem groupNames_eq (text : String) : groupNames text = (part text).stop.names.map Prod.fst := by
  unfold groupNames part
  cases ending? text <;> rfl

theorem part_of_compile (h : compile text = .ok c) (hinside : staysInside text) :
    (part text).Whole ∧ (part text).body = c.nodes ∧ c.flags = [] := by
  have hbody : (part text).body = c.nodes := by rw [part, h]; rfl
  obtain ⟨d, hread, -, -⟩ := compile_eq_ok.mp h
  have hending : ending? text = some d := by rw [ending?, hread]
  have hstop : (part text).stop = d := by rw [part, hending]; rfl
  obtain ⟨htext, hnodes, hrest, hflags⟩ := yields_whole _ _ hread
  obtain ⟨hnone, hawaited⟩ : d.flags = [] ∧ d.awaited = [] := by
    simpa [staysInside, hending] using hinside
  refine ⟨⟨htext, ?_, hstop ▸ hrest, hstop ▸ hnone, hstop ▸ hawaited⟩, hbody, hflags.trans hnone⟩
  rw [hstop, hbody]
  exact hnodes

section Texts

variable {texts : List String}

theorem joinable_parts (hcompile : ∀ s ∈ texts, ∃ c, compile s = .ok c) (h : Separate texts) :
    Joinable (texts.map part) (.start text.toList) where
  whole := by
    intro p hp
    obtain ⟨s, hs, rfl⟩ := List.mem_map.mp hp
    obtain ⟨c, hc⟩ := hcompile s hs
    exact (part_of_compile hc (h.inside s hs)).1
  apart := by
    rw [List.pairwise_map]
    refine (h.names.and h.numbers).imp fun {s t} hst => ⟨hst.2.imp_left fun hnone => ?_, ?_⟩
    · rw [part, hasGroups] at *
      cases hending : ending? s with
      | none => exact Nat.le_refl 1
      | some d => simpa [hending] using hnone
    · intro g hg g' hg' hsame
      refine hst.1 g.1 ?_ (hsame ▸ ?_)
      · rw [groupNames_eq]
        exact List.mem_map_of_mem hg
      · rw [groupNames_eq]
        exact List.mem_map_of_mem hg'
  joins := by
    intro p hp
    exact ⟨.inl (Nat.le_refl 1), fun _ _ => rfl⟩
  between := between_start _

theorem part_sound (hcompile : ∀ s ∈ texts, ∃ c, compile s = .ok c) (h : Separate texts)
    (hp : p ∈ texts.map part) : obstacle? false p.body = none ∧ isTooWide p.body = false := by
  obtain ⟨s, hs, rfl⟩ := List.mem_map.mp hp
  obtain ⟨c, hc⟩ := hcompile s hs
  obtain ⟨-, hbody, hflags⟩ := part_of_compile hc (h.inside s hs)
  obtain ⟨-, -, hobstacle, hwide⟩ := compile_eq_ok.mp hc
  rw [hflags] at hobstacle
  rw [hbody]
  exact ⟨hobstacle, hwide⟩

/-- The joined texts can be searched for when each of them can. -/
theorem compile_joined (hlength : 2 ≤ texts.length) (hcompile : ∀ s ∈ texts, ∃ c, compile s = .ok c)
    (h : Separate texts) (htext : text.toList = joined (texts.map String.toList))
    (hdeep : compile text ≠ .error .tooDeep) :
    compile text =
      .ok ⟨[.branch ((joinedNodes 0 (texts.map part)).map fun n => [n])], []⟩ := by
  have hjoinable : Joinable (texts.map part) (.start text.toList) := joinable_parts hcompile h
  have hparts : (texts.map part).map Part.text = texts.map String.toList := List.map_map
  obtain ⟨p, ps, hps⟩ : ∃ p ps, texts.map part = p :: ps := by
    cases texts with
    | nil => simp at hlength
    | cons s rest => exact ⟨_, _, rfl⟩
  rw [hps] at hjoinable hparts
  obtain ⟨d, hend, hbetween, hreaches⟩ := reaches_alternatives [] true hjoinable
    (htext.trans (congrArg joined hparts.symm)) (Nat.le_refl _)
  have hrest : (Cursor.start text.toList).rest ≠ ['\\'] := by
    rw [Cursor.start, htext]
    exact joined_ne _
  have hchoice : Node.choice ((joinedNodes 0 (p :: ps)).map fun n => [n]) = _ :=
    choice_joinedNodes (by rw [← hps, List.length_map]; exact hlength)
  have hread := reaches_whole hrest hreaches hend hbetween
  rw [List.nil_append] at hread
  change Reaches _ _ (⟨Node.choice ((joinedNodes 0 (p :: ps)).map fun n => [n]), []⟩ : Compiled) d
    at hread
  rw [hchoice, ← hps] at hread
  rcases hread with htooDeep | hok
  · exact (hdeep (compile_of_error htooDeep)).elim
  · refine compile_eq_ok.mpr ⟨d, hok, ?_, ?_⟩
    · have hnone : obstacle?.any false ((joinedNodes 0 (texts.map part)).map fun n => [n]) = none :=
        obstacle?_joinedNodes fun p hp => (part_sound hcompile h hp).1
      simp [obstacle?, obstacle?.all, obstacle?.one, hnone]
    · have hnarrow : isTooWide.any ((joinedNodes 0 (texts.map part)).map fun n => [n]) = false :=
        isTooWide_joinedNodes fun p hp => (part_sound hcompile h hp).2
      simp [isTooWide, isTooWide.all, isTooWide.one, hnarrow]

theorem found_joined (hcompile : ∀ s ∈ texts, ∃ c, compile s = .ok c) (h : Separate texts)
    (searched : String) :
    Compiled.found ⟨[.branch ((joinedNodes 0 (texts.map part)).map fun n => [n])], []⟩ searched =
      texts.any fun s => (compile s).toOption.any (·.found searched) := by
  have hmatch (q : Place) (hq : q.groups = []) :
      (runAll [.branch ((joinedNodes 0 (texts.map part)).map fun n => [n])] [] q some).isSome =
        ((texts.map part).map fun p => runAll p.body []).any fun m => (m q some).isSome := by
    change (runFirst _ [] q some).isSome = _
    rw [isSome_runFirst, List.any_map, List.any_map]
    exact any_joinedNodes hq
  have hsearch := isSome_searchFrom hmatch searched.length (.start searched.toList) rfl
  refine hsearch.trans ?_
  rw [List.map_map, List.any_map, Bool.eq_iff_iff, List.any_eq_true, List.any_eq_true]
  refine exists_congr fun s => and_congr_right fun hs => ?_
  obtain ⟨c, hc⟩ := hcompile s hs
  obtain ⟨-, hbody, hflags⟩ := part_of_compile hc (h.inside s hs)
  rw [hc]
  simp only [Function.comp_apply, Compiled.found, Except.toOption, Option.any_some, hbody, hflags]

/-- Several texts are joined with a bar between them, each in parentheses of its own. -/
theorem toList_joined (texts : List String) :
    ("|".intercalate (texts.map fun s => "(?:" ++ s ++ ")")).toList = joined (texts.map String.toList) := by
  rw [String.toList_intercalate]
  induction texts with
  | nil => rfl
  | cons s rest ih =>
    cases rest with
    | nil => simp [joined, wrapped]
    | cons t rest =>
      rw [List.map_cons, List.map_cons] at ih ⊢
      rw [List.map_cons, List.map_cons, List.intercalate_cons_cons, ih]
      simp [joined, wrapped]

theorem combined_eq (hlength : 2 ≤ texts.length) (hcompile : ∀ s ∈ texts, ∃ c, compile s = .ok c) :
    combined texts = .ok (some ("|".intercalate (texts.map fun s => "(?:" ++ s ++ ")"))) := by
  have hread : texts.forM (fun s => discard (ofText s)) = .ok () := by
    refine forM_eq_ok fun s hs => ?_
    obtain ⟨c, hc⟩ := hcompile s hs
    rw [ofText, hc]
    rfl
  unfold combined
  rw [hread]
  match texts, hlength with
  | s :: t :: rest, _ => rfl

/--
Several texts that keep to themselves are joined into one that can be searched for, unless its parentheses are
nested too deeply, and that is found where one of them is.
-/
theorem combined_union (hlength : 2 ≤ texts.length) (hcompile : ∀ s ∈ texts, (compile s).isOk)
    (hseparate : Separate texts)
    (hdeep : ∀ text, combined texts = .ok (some text) → compile text ≠ .error .tooDeep) :
    ∃ text c, combined texts = .ok (some text) ∧ compile text = .ok c ∧
      ∀ descriptor, c.found descriptor =
        texts.any fun s => (compile s).toOption.any (·.found descriptor) := by
  have hread (s : String) (hs : s ∈ texts) : ∃ c, compile s = .ok c :=
    Except.exists_of_isOk (hcompile s hs)
  have hcombined := combined_eq hlength hread
  exact ⟨_, _, hcombined,
    compile_joined hlength hread hseparate (toList_joined texts) (hdeep _ hcombined),
    found_joined hread hseparate⟩

/-- A reference to a group by its name stays what it is. -/
theorem added_or_doubled_found : ∃ text c,
    combined ["^add(ed)?\\(", "(?P<letter>[a-z])(?P=letter)"] = .ok (some text) ∧ compile text = .ok c ∧
      ∀ descriptor, c.found descriptor = ["^add(ed)?\\(", "(?P<letter>[a-z])(?P=letter)"].any fun s =>
        (compile s).toOption.any (·.found descriptor) := by
  refine combined_union (by decide) (by decide +kernel) (by decide +kernel) fun text htext hdeep => ?_
  have hread : ((combined ["^add(ed)?\\(", "(?P<letter>[a-z])(?P=letter)"]).toOption.join.all fun s =>
      (compile s).isOk) = true := by decide +kernel
  rw [htext] at hread
  change (compile text).isOk = true at hread
  rw [hdeep] at hread
  cases hread

/-- By its number a group is another one behind the groups of another text. -/
theorem reference_lost :
    (combined ["(x)\\1", "(f)\\1"]).toOption = some (some "(?:(x)\\1)|(?:(f)\\1)") ∧
    (compile "(?:(x)\\1)|(?:(f)\\1)").toOption.map (·.found "removesuffix(str,object):object") = some false ∧
    (compile "(x)\\1").toOption.map (·.found "removesuffix(str,object):object") = some false ∧
    (compile "(f)\\1").toOption.map (·.found "removesuffix(str,object):object") = some true := by
  decide +kernel

end Texts

end Overloads.Pattern
