import Overloads.Member.Filter
import Overloads.Proofs.Class.WellFormed
import Overloads.Proofs.Member.Origin
import Overloads.Proofs.Routine.ProofMode
import Overloads.Proofs.Text.Naming
import Overloads.Routine.Namespace

/-! The routines of a class have identifiers of their own, and installing them touches no other name. -/
namespace Overloads

variable {α : Type} {entries new : List (String × α)} {name key : String} {a : α}

theorem lookup_cons_ite (e : String × α) (rest : List (String × α)) (key : String) :
    (e :: rest).lookup key = if key = e.1 then some e.2 else rest.lookup key := by
  by_cases hkey : key = e.1
  · rw [List.lookup_cons, beq_iff_eq.mpr hkey, if_pos hkey]
  · rw [List.lookup_cons, beq_eq_false_iff_ne.mpr hkey, if_neg hkey]

theorem lookup_eq_none_of_notMem (h : name ∉ entries.map (·.1)) : entries.lookup name = none := by
  apply List.lookup_eq_none_iff.mpr
  intro e he
  have hne : name ≠ e.1 := fun heq => h (heq ▸ List.mem_map_of_mem he)
  simpa using hne

theorem lookup_replaced (entries : List (String × α)) (name : String) (a : α) (key : String) :
    (entries.map fun e => if e.1 = name then (name, a) else e).lookup key =
      if key = name then (entries.lookup name).map fun _ => a else entries.lookup key := by
  induction entries with
  | nil => simp
  | cons e rest ih =>
    rw [List.map_cons, lookup_cons_ite, lookup_cons_ite, lookup_cons_ite, ih]
    by_cases he : e.1 = name
    · by_cases hkey : key = name <;> simp [he, hkey]
    · by_cases hkey : key = e.1
      · simp [he, hkey]
      · simp [he, hkey, Ne.symm he]

/-- Setting a name is seen under this name and under no other. -/
theorem lookup_setEntry (entries : List (String × α)) (name : String) (a : α) (key : String) :
    (setEntry entries name a).lookup key = if key = name then some a else entries.lookup key := by
  unfold setEntry
  split
  · rename_i hany
    rw [lookup_replaced]
    cases hname : entries.lookup name with
    | some b => rfl
    | none =>
      have hnone := List.lookup_eq_none_iff.mp hname
      obtain ⟨e, he, heq⟩ := List.any_eq_true.mp hany
      have hne := hnone e he
      have heq : e.1 = name := by simpa using heq
      simp [heq] at hne
  · rename_i hnone
    have hold : entries.lookup name = none := lookup_eq_none_of_notMem (by simpa using hnone)
    rw [List.lookup_append, lookup_cons_ite]
    by_cases hkey : key = name
    · rw [hkey, hold, if_pos rfl, if_pos rfl, Option.none_or]
    · rw [if_neg hkey, if_neg hkey, List.lookup_nil, Option.or_none]

/-- The last of the values that a name is given is the one that stays. -/
theorem lookup_setEntries (entries new : List (String × α)) (key : String) :
    (setEntries entries new).lookup key = (new.reverse.lookup key).or (entries.lookup key) := by
  induction new generalizing entries with
  | nil => rfl
  | cons e rest ih =>
    have hrest : setEntries entries (e :: rest) = setEntries (setEntry entries e.1 e.2) rest := rfl
    rw [hrest, ih, lookup_setEntry, List.reverse_cons, List.lookup_append, Option.or_assoc,
      lookup_cons_ite]
    by_cases hkey : key = e.1 <;> simp [hkey]

theorem setEntries_of_nodup (h : ((entries ++ new).map (·.1)).Nodup) :
    setEntries entries new = entries ++ new := by
  induction new generalizing entries with
  | nil => simp [setEntries]
  | cons e rest ih =>
    have hnew : ¬ entries.any (·.1 = e.1) = true := by
      rw [List.map_append, List.nodup_append] at h
      intro hany
      obtain ⟨x, hx, heq⟩ := List.any_eq_true.mp hany
      exact h.2.2 x.1 (List.mem_map_of_mem hx) e.1 (by simp) (by simpa using heq)
    have hrest : setEntries entries (e :: rest) = setEntries (setEntry entries e.1 e.2) rest := rfl
    rw [hrest, setEntry, if_neg hnew, ih (by simpa using h), List.append_assoc,
      List.singleton_append]

namespace Place

variable {p p' : Place α}

/-- That some names were set in a place, and the others are as they were. -/
structure SetTo (p : Place α) (new : List (String × α)) (p' : Place α) : Prop where
  isModule : p'.isModule = p.isModule
  named : ∀ e ∈ new, p'.entries.lookup e.1 = some e.2
  others : ∀ name ∉ new.map (·.1), p'.entries.lookup name = p.entries.lookup name

theorem setTo_setEntries (p : Place α) (h : (new.map (·.1)).Nodup) :
    p.SetTo new { p with entries := setEntries p.entries new } where
  isModule := rfl
  named := by
    intro e he
    have hnew : new.reverse.lookup e.1 = some e.2 := by
      apply lookup_of_mem
      · rw [List.map_reverse, List.Nodup, List.pairwise_reverse]
        exact h.imp Ne.symm
      · exact List.mem_reverse.mpr he
    simp [lookup_setEntries, hnew]
  others := by
    intro name hname
    have hnew : new.reverse.lookup name = none := by
      apply lookup_eq_none_of_notMem
      simpa using hname
    simp [lookup_setEntries, hnew]

theorem setAll_append {before : List (String × α)} (after : List (String × α))
    (h : ∀ e ∈ before, p.refusal? e.1 = none) :
    p.setAll (before ++ after) =
      setAll { p with entries := setEntries p.entries before } after := by
  induction before generalizing p with
  | nil => rfl
  | cons e rest ih =>
    rw [List.cons_append, setAll, h e List.mem_cons_self]
    exact ih (p := { p with entries := setEntry p.entries e.1 e.2 })
      fun x hx => h x (List.mem_cons_of_mem _ hx)

theorem setAll_of_free (h : ∀ e ∈ new, p.refusal? e.1 = none) :
    p.setAll new = ({ p with entries := setEntries p.entries new }, .ok ()) := by
  have hall := setAll_append [] h
  rwa [List.append_nil] at hall

theorem setAll_of_refused {before after : List (String × α)} {e : String × α} {x : Failure}
    (h : ∀ e ∈ before, p.refusal? e.1 = none) (he : p.refusal? e.1 = some x) :
    p.setAll (before ++ e :: after) =
      ({ p with entries := setEntries p.entries before }, .error x) := by
  have hstill (entries : List (String × α)) :
      refusal? { p with entries := entries } e.1 = some x := he
  rw [setAll_append _ h, setAll, hstill]

theorem refusal?_eq_none_iff : p.refusal? name = none ↔
    (p.isModule = true → name ≠ "__dict__" ∧ name ≠ "__class__") := by
  unfold refusal?
  cases p.isModule with
  | false => simp
  | true =>
    by_cases hdict : name = "__dict__" <;> by_cases hclass : name = "__class__" <;>
      simp [hdict, hclass]

end Place

namespace Routine

variable {members : List Member} {memberName namePrefix id : String} {taken names : List String}
variable {r : Routine} {rs : List Routine} {proofMode : Bool}

theorem identifier_of_assemble (h : assemble proofMode memberName members name id = .ok r) :
    r.identifier = id := by
  cases members with
  | nil => cases h
  | cons first rest =>
    rw [assemble_eq (by simp)] at h
    cases h
    rfl

theorem identifiers_of_assembleNames
    (h : assembleNames proofMode namePrefix members taken names = .ok rs) :
    rs.map (·.identifier) = Text.identifiersFrom taken
      (names.map fun n => Text.identifier (nameFor namePrefix n) Text.defaultFallback) := by
  induction names generalizing taken rs with
  | nil =>
    cases h
    rfl
  | cons n rest ih =>
    rw [assembleNames, Except.bind_eq_ok] at h
    obtain ⟨r, hr, h⟩ := h
    obtain ⟨further, hfurther, h⟩ := Except.bind_eq_ok.mp h
    cases h
    rw [List.map_cons, List.map_cons, Text.identifiersFrom, identifier_of_assemble hr, ih hfurther]

theorem nodup_eraseDups {α : Type} [BEq α] [LawfulBEq α] (l : List α) : l.eraseDups.Nodup := by
  match l with
  | [] => exact List.nodup_nil
  | a :: rest =>
    rw [List.eraseDups_cons, List.nodup_cons]
    refine ⟨?_, nodup_eraseDups (rest.filter fun b => !b == a)⟩
    simp [List.mem_eraseDups]
termination_by l.length
decreasing_by simpa using Nat.lt_succ_of_le (List.length_filter_le _ rest)

/-- That there is one routine for each name of some members, under a valid identifier of its own. -/
structure WellNamed (members : List Member) (namePrefix : String) (rs : List Routine) : Prop where
  names : rs.map (·.memberName) = memberNames members
  distinctNames : (memberNames members).Nodup
  gathers : ∀ r ∈ rs, r.Gathers members namePrefix
  distinct : (rs.map (·.identifier)).Nodup
  valid : ∀ r ∈ rs, Text.IsIdentifier r.identifier
  notKeyword : ∀ r ∈ rs, r.identifier ∉ Text.keywords

/-- Every identifier is an attempt at the one for the name of its routine. -/
theorem exists_attempt (h : assembleAll proofMode namePrefix members = .ok rs) (hr : r ∈ rs) :
    ∃ memberName n, r.identifier =
      Text.attempt (Text.identifier (nameFor namePrefix memberName) Text.defaultFallback) n := by
  have hmem : r.identifier ∈ rs.map (·.identifier) := List.mem_map_of_mem hr
  rw [identifiers_of_assembleNames h] at hmem
  obtain ⟨base, hbase, n, heq⟩ := Text.exists_of_mem_identifiersFrom hmem
  obtain ⟨memberName, -, rfl⟩ := List.mem_map.mp hbase
  exact ⟨memberName, n, heq⟩

theorem wellNamed_of_assembleAll (h : assembleAll proofMode namePrefix members = .ok rs) :
    WellNamed members namePrefix rs := by
  have hidentifiers := identifiers_of_assembleNames h
  obtain ⟨rs', hrs', hnames, hgathers⟩ := assembleAll_eq members proofMode namePrefix
  obtain rfl : rs = rs' := Except.ok.inj (h.symm.trans hrs')
  refine ⟨hnames, nodup_eraseDups _, hgathers, ?_, ?_, ?_⟩
  · rw [hidentifiers]
    exact Text.nodup_identifiersFrom
  · intro r hr
    obtain ⟨memberName, n, heq⟩ := exists_attempt h hr
    rw [heq]
    exact (Text.isIdentifier_identifier _).attempt n
  · intro r hr
    obtain ⟨memberName, n, heq⟩ := exists_attempt h hr
    rw [heq]
    exact Text.attempt_notMem_keywords (Text.identifier_notMem_keywords _ _) n

/-- With identifiers of their own, no routine takes the place of another. -/
theorem namespaceOf_eq (make : Routine → α) (h : (rs.map (·.identifier)).Nodup) :
    namespaceOf make rs = rs.map fun r => (r.identifier, make r) := by
  rw [namespaceOf, setEntries_of_nodup, List.nil_append]
  simpa [Function.comp_def] using h

end Routine

variable {w : World} {ambient : Ambient} {reflect : Reflector} {handle : Value} {o : Options}
variable {rs : List Routine}

theorem wellNamed_of_assembleClass (h : assembleClass w ambient reflect handle o = .ok rs) :
    ∃ members, membersOf w ambient reflect handle o.selection = .ok members ∧
      Routine.WellNamed members o.namePrefix rs := by
  obtain ⟨members, hmembers, hrs⟩ := Except.bind_eq_ok.mp h
  exact ⟨members, hmembers, Routine.wellNamed_of_assembleAll hrs⟩

/-- What comes of installing routines: all are set, or those before the first that is refused. -/
structure Place.Installs (p : Place α) (make : Routine → α) (rs : List Routine) (p' : Place α)
    (outcome : Except Failure (List String)) : Prop where
  all : (p.isModule = true → ∀ r ∈ rs, r.identifier ≠ "__dict__" ∧ r.identifier ≠ "__class__") →
    outcome = .ok (rs.map (·.identifier)) ∧ p.SetTo (rs.map fun r => (r.identifier, make r)) p'
  first : ∀ before r after e, rs = before ++ r :: after →
    (∀ q ∈ before, p.refusal? q.identifier = none) → p.refusal? r.identifier = some e →
    outcome = .error e ∧ p.SetTo (before.map fun r => (r.identifier, make r)) p'

theorem Place.installs_setAll (p : Place α) (make : Routine → α)
    (h : (rs.map (·.identifier)).Nodup) :
    ∃ p' outcome, p.setAll (rs.map fun r => (r.identifier, make r)) = (p', outcome) ∧
      p.Installs make rs p' (outcome.map fun _ => rs.map (·.identifier)) := by
  have hfree : ∀ some : List Routine, (∀ r ∈ some, p.refusal? r.identifier = none) →
      ∀ e ∈ some.map fun r => (r.identifier, make r), p.refusal? e.1 = none := by
    intro some hsome e he
    obtain ⟨r, hr, rfl⟩ := List.mem_map.mp he
    exact hsome r hr
  refine ⟨_, _, rfl, ?_, ?_⟩
  · intro hset
    have hall : ∀ r ∈ rs, p.refusal? r.identifier = none :=
      fun r hr => refusal?_eq_none_iff.mpr fun hmodule => hset hmodule r hr
    rw [setAll_of_free (hfree rs hall)]
    exact ⟨rfl, p.setTo_setEntries (by simpa [Function.comp_def] using h)⟩
  · intro before r after e hrs hbefore hrefused
    have hnodup : (before.map (·.identifier)).Nodup := by
      rw [hrs, List.map_append, List.nodup_append] at h
      exact h.1
    have hsplit : (rs.map fun r => (r.identifier, make r)) =
        (before.map fun r => (r.identifier, make r)) ++
          (r.identifier, make r) :: after.map fun r => (r.identifier, make r) := by
      rw [hrs, List.map_append, List.map_cons]
    rw [hsplit, setAll_of_refused (hfree before hbefore) hrefused]
    exact ⟨rfl, p.setTo_setEntries (by simpa [Function.comp_def] using hnodup)⟩

/--
The routines of a class have valid identifiers of their own, one for each name of its members, and
counting on to a free one ends. They are installed all, in order, and touch no other name, except that
a module refuses the names of its dictionary and its class. A class that is refused changes nothing.
-/
theorem installed_under_own_identifiers (w : World) (ambient : Ambient) (reflect : Reflector)
    (make : Routine → α) (p : Place α) (handle : Value) (o : Options) :
    (∀ base taken, ∃ n ≤ taken.length,
      Text.uniqueIdentifier base taken = Text.attempt base n ∧
        Text.attempt base n ∉ taken ∧ ∀ m < n, Text.attempt base m ∈ taken) ∧
    (∀ e, assembleClass w ambient reflect handle o = .error e →
      wrapClass w ambient reflect make handle o = .error e ∧
        installClass w ambient reflect make p handle o = (p, .error e)) ∧
    ∀ rs, assembleClass w ambient reflect handle o = .ok rs →
      (∃ members, membersOf w ambient reflect handle o.selection = .ok members ∧
        Routine.WellNamed members o.namePrefix rs) ∧
      wrapClass w ambient reflect make handle o =
        .ok (rs.map fun r => (r.identifier, make r)) ∧
      ∃ p' outcome, installClass w ambient reflect make p handle o = (p', outcome) ∧
        p.Installs make rs p' outcome := by
  refine ⟨Text.exists_uniqueIdentifier, ?_, ?_⟩
  · intro e he
    have hwrap : wrapClass w ambient reflect make handle o = .error e := by
      rw [wrapClass, he, Except.map]
    exact ⟨hwrap, by rw [installClass, hwrap]⟩
  · intro rs hrs
    obtain ⟨members, hmembers, hnamed⟩ := wellNamed_of_assembleClass hrs
    have hwrap : wrapClass w ambient reflect make handle o =
        .ok (rs.map fun r => (r.identifier, make r)) := by
      rw [wrapClass, hrs, Except.map, Routine.namespaceOf_eq make hnamed.distinct]
    obtain ⟨p', outcome, hset, hinstalls⟩ := p.installs_setAll make hnamed.distinct
    refine ⟨⟨members, hmembers, hnamed⟩, hwrap, p', _, ?_, hinstalls⟩
    have hidentifiers : (rs.map fun r => (r.identifier, make r)).map (·.1) =
        rs.map (·.identifier) := by
      rw [List.map_map]
      rfl
    rw [installClass, hwrap]
    simp only [hset, hidentifiers]

/-- Two members whose names become the same identifier. -/
def getters : List Member :=
  [{ Member.tracing [] none with name := "getX" }, { Member.tracing [] none with name := "get_x" }]

/-- The second getter gets a number, and the mapping keeps its other name. -/
theorem getters_installed : ∃ p',
    installClass .empty .initial (fun _ => getters) (·.memberName)
      ⟨false, [("get_x", "old"), ("other", "kept")]⟩ (.type .object) ⟨"", ⟨none, none⟩, false⟩ =
        (p', .ok ["get_x", "get_x2"]) ∧
      p'.entries.lookup "get_x" = some "getX" ∧ p'.entries.lookup "get_x2" = some "get_x" ∧
      p'.entries.lookup "other" = some "kept" := by
  obtain ⟨-, -, hinstalled⟩ := installed_under_own_identifiers .empty .initial (fun _ => getters)
    (·.memberName) ⟨false, [("get_x", "old"), ("other", "kept")]⟩ (.type .object)
    ⟨"", ⟨none, none⟩, false⟩
  obtain ⟨rs, hrs, hnames, -⟩ := Routine.assembleAll_eq getters Ambient.initial.proofMode ""
  obtain ⟨-, -, p', outcome, hinstall, hinstalls⟩ := hinstalled rs hrs
  have hmembers : Routine.memberNames getters = ["getX", "get_x"] := by decide
  have hcamel : Text.identifier (Routine.nameFor "" "getX") Text.defaultFallback = "get_x" := by
    rw [Routine.nameFor, Text.kebab_of_noCapital (by decide)]
    decide
  have hsnake : Text.identifier (Routine.nameFor "" "get_x") Text.defaultFallback = "get_x" := by
    rw [Routine.nameFor, Text.kebab_of_noCapital (by decide)]
    decide
  have hidentifiers : rs.map (·.identifier) = ["get_x", "get_x2"] := by
    rw [Routine.identifiers_of_assembleNames hrs, hmembers, List.map_cons, List.map_cons,
      List.map_nil, hcamel, hsnake]
    decide
  rw [hmembers] at hnames
  obtain ⟨houtcome, hset⟩ := hinstalls.all nofun
  have hentries : (rs.map fun r => (r.identifier, r.memberName)) =
      [("get_x", "getX"), ("get_x2", "get_x")] := by
    rw [← List.zip_map', hidentifiers, hnames]
    rfl
  rw [hentries] at hset
  refine ⟨p', by rw [hinstall, houtcome, hidentifiers], ?_, ?_, ?_⟩
  · exact hset.named ("get_x", "getX") (by simp)
  · exact hset.named ("get_x2", "get_x") (by simp)
  · exact hset.others "other" (by simp)

def boxClass : ClassName := ⟨["boxes"], ["Box"]⟩

/-- A static function that nothing is given to. -/
def boxFunction (name : String) : Function where
  module := ["boxes"]
  path := ["Box", name]
  role := .plain
  overloads := []
  implementation := ⟨[], none⟩
  body := .trace
  postponed := false

/-- A class with one static function. -/
def boxes (name : String) : World where
  classes := [
    { name := boxClass
      linearization := [boxClass, .object]
      isProtocol := false
      runtimeCheckable := false
      attributes := [(name, .function .static (boxFunction name))]
      annotations := []
      constructorCounts := none }]
  modules := []

def boxMember (name : String) : Member where
  name := name
  kind := .method
  declared := []
  returns := .object
  owner := boxClass
  target := .function (boxFunction name) none
  path := "boxes.Box." ++ name
  varargs := none
  isStatic := true

/-- The function alone. -/
def boxOptions (namePrefix name : String) : Options :=
  ⟨namePrefix, ⟨some (MemberFilter.ofNames [name]), none⟩, false⟩

theorem membersOf_boxOptions (namePrefix name : String) (hpublic : World.isPublic name = true)
    (hname : name ≠ "Box") : membersOf (boxes name) .initial (boxes name).members (.type boxClass)
      (boxOptions namePrefix name).selection = .ok [boxMember name] := by
  have hmember : ((boxes name).reflectAttribute boxClass boxClass name
      (.function .static (boxFunction name))).members = [boxMember name] := rfl
  have hvisible : (boxes name).visible boxClass =
      [(boxClass, name, .function .static (boxFunction name))] := rfl
  have hmethods : (boxes name).methods boxClass = [boxMember name] := by
    simp [World.methods, World.reflectedMethods, hvisible, hpublic, hmember]
  have hconstructors :
      ((boxes name).constructors boxClass).filter (MemberFilter.ofNames [name]) = [] := by
    apply List.filter_eq_nil_iff.mpr
    intro m hm
    simpa [MemberFilter.ofNames, name_of_constructor hm, boxClass, ClassName.simpleName]
      using hname.symm
  have hfilter : ((boxes name).members boxClass).filter (MemberFilter.ofNames [name]) =
      [boxMember name] := by
    rw [World.members, List.filter_append, hconstructors, hmethods]
    simp [MemberFilter.ofNames, boxMember]
  have hclass : (boxes name).resolveClass (.type boxClass) = .ok boxClass := rfl
  rw [membersOf_eq hclass rfl]
  exact congrArg Except.ok hfilter

/-- The function alone makes one routine, with the identifier for its name. -/
theorem assembleClass_boxes (namePrefix name : String) (hpublic : World.isPublic name = true)
    (hname : name ≠ "Box") : ∃ r : Routine,
      assembleClass (boxes name) .initial (boxes name).members (.type boxClass)
        (boxOptions namePrefix name) = .ok [r] ∧
      r.identifier = Text.identifier (Routine.nameFor namePrefix name) Text.defaultFallback ∧
      r.Gathers [boxMember name] namePrefix := by
  obtain ⟨rs, hrs, -, hgathers⟩ :=
    Routine.assembleAll_eq [boxMember name] Ambient.initial.proofMode namePrefix
  have hidentifiers : rs.map (·.identifier) =
      [Text.identifier (Routine.nameFor namePrefix name) Text.defaultFallback] := by
    have hnames : Routine.memberNames [boxMember name] = [name] := rfl
    rw [Routine.identifiers_of_assembleNames hrs, hnames]
    simp [Text.identifiersFrom, Text.uniqueIdentifier]
  obtain ⟨r, rfl, hr⟩ := List.map_eq_singleton_iff.mp hidentifiers
  refine ⟨r, ?_, hr, hgathers r List.mem_cons_self⟩
  rw [assembleClass, membersOf_boxOptions namePrefix name hpublic hname]
  exact hrs

/-- A module refuses the name of its own dictionary, which is an identifier like any other. -/
theorem dictionary_not_installed : ∃ r : Routine,
    assembleClass (boxes "dict__") .initial (boxes "dict__").members (.type boxClass)
      (boxOptions "__" "dict__") = .ok [r] ∧
    r.identifier = "__dict__" ∧
    installClass (boxes "dict__") .initial (boxes "dict__").members (·.memberName) ⟨true, []⟩
      (.type boxClass) (boxOptions "__" "dict__") =
        (⟨true, []⟩, .error (.attributeMissing "readonly attribute")) := by
  obtain ⟨r, hassemble, hr, -⟩ :=
    assembleClass_boxes "__" "dict__" (by simp [World.isPublic]) (by decide)
  have hidentifier : r.identifier = "__dict__" := by
    rw [hr, Routine.nameFor, Text.kebab_of_noCapital (by decide)]
    decide
  refine ⟨r, hassemble, hidentifier, ?_⟩
  have hwrap : wrapClass (boxes "dict__") .initial (boxes "dict__").members (·.memberName)
      (.type boxClass) (boxOptions "__" "dict__") = .ok [("__dict__", r.memberName)] := by
    rw [wrapClass, hassemble, Except.map, namespaceOf, ← hidentifier]
    rfl
  rw [installClass, hwrap]
  rfl

end Overloads
