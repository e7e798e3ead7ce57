import Overloads.Proofs.Member.Testability
import Overloads.Proofs.Routine.FirstTaker

/-! When the guards of a routine have an answer for all arguments. -/
namespace Overloads

variable {w : World} {clause : Clause} {members : List Member} {m : Member} {t : TypeRef} {n : Nat}
variable {s : ClauseSet} {r : Routine} {args : List Value} {memberName name id namePrefix : String}

/-- That the guard of a clause answers, whatever the arguments are, as far as these settle their tests. -/
def Clause.Answers (w : World) (c : Clause) : Prop :=
  ∀ args, (∀ v ∈ args, w.Settles v) → ∃ b, c.accepts (m := Except Failure) w none args = .ok b

/-- That all guards of a routine answer. -/
def Routine.GuardsAnswer (w : World) (r : Routine) : Prop :=
  ∀ s ∈ r.clauseSets, ∀ clause ∈ s.clauses, clause.Answers w

theorem admits_none (v : Value) : admits (m := Except Failure) w none v t = w.isInstance v t := by
  simp [admits, coerced]

/-- That a hook makes something of every value for every class. -/
def Hook.Total (h : Hook (Except Failure)) : Prop := ∀ v c, ∃ u, h.apply v c = .ok u

theorem coerced_answers {hook : Option (Hook (Except Failure))} (hhook : ∀ h ∈ hook, h.Total)
    (v : Value) (t : TypeRef) : ∃ u, coerced hook v t = .ok u := by
  cases hook with
  | none => exact ⟨v, rfl⟩
  | some h => exact hhook h rfl v t.boxed

/-- A test answers where the value can be coerced and the type can be tested for. -/
theorem admits_answers {hook : Option (Hook (Except Failure))} {v : Value} (ht : w.Testable t)
    (hcoerced : ∃ u, coerced hook v t = .ok u) : ∃ b, admits w hook v t = .ok b := by
  obtain ⟨u, hu⟩ := hcoerced
  obtain ⟨b, hb⟩ := ht u
  exact ⟨b, by simp [admits, hu, hb, bind, Except.bind]⟩

theorem admitsAll_answers {hook : Option (Hook (Except Failure))} {l : List (Value × TypeRef)}
    (h : ∀ x ∈ l, ∃ b, admits w hook x.1 x.2 = .ok b) : ∃ b, admitsAll w hook l = .ok b := by
  induction l with
  | nil => exact ⟨true, rfl⟩
  | cons x rest ih =>
    obtain ⟨v, t⟩ := x
    obtain ⟨b, hb⟩ := h (v, t) List.mem_cons_self
    obtain ⟨b', hrest⟩ := ih fun y hy => h y (List.mem_cons_of_mem _ hy)
    rw [admitsAll, hb]
    cases b with
    | false => exact ⟨false, rfl⟩
    | true => exact ⟨b', hrest⟩

/-- A guard answers where every argument can be tested for every type that it names. -/
theorem accepts_answers {hook : Option (Hook (Except Failure))}
    (h : ∀ v ∈ args, ∀ t ∈ .object :: clause.member.testedTypes, ∃ b, admits w hook v t = .ok b) :
    ∃ b, clause.accepts w hook args = .ok b := by
  have helement : clause.elementType ∈ .object :: clause.member.testedTypes := by
    cases hv : clause.member.varargs with
    | none => simp [Clause.elementType, hv]
    | some t =>
      have ht : t ∈ clause.member.testedTypes := List.mem_append_right _ (by simp [hv])
      simpa [Clause.elementType, hv] using .inr ht
  obtain ⟨b, hleading⟩ : ∃ b, admitsAll w hook
      ((args.take clause.arity).zip clause.guardTypes) = .ok b := by
    apply admitsAll_answers
    rintro ⟨v, t⟩ hx
    obtain ⟨hv, ht⟩ := List.of_mem_zip hx
    exact h v (List.mem_of_mem_take hv) t (List.mem_cons_of_mem _ (Member.mem_testedTypes ht))
  obtain ⟨b', hfurther⟩ : ∃ b, admitsAll w hook
      ((args.drop clause.arity).map (·, clause.elementType)) = .ok b := by
    apply admitsAll_answers
    intro x hx
    obtain ⟨v, hv, rfl⟩ := List.mem_map.mp hx
    exact h v (List.mem_of_mem_drop hv) clause.elementType helement
  unfold Clause.accepts
  cases clause.guarded with
  | false => exact ⟨true, rfl⟩
  | true =>
    rw [hleading]
    cases b with
    | false => exact ⟨false, rfl⟩
    | true =>
      cases clause.tail with
      | false => exact ⟨true, rfl⟩
      | true => exact ⟨b', hfurther⟩

theorem answers_of_decides (hobject : w.Decides .object)
    (h : ∀ t ∈ clause.member.testedTypes, w.Decides t) : clause.Answers w := by
  intro args hargs
  apply accepts_answers
  intro v hv t ht
  rw [admits_none]
  rcases List.mem_cons.mp ht with rfl | ht
  · exact hobject v (hargs v hv)
  · exact h t ht v (hargs v hv)

/-- Where all guards answer, the clauses are tried in turn up to the first that takes the arguments. -/
theorem dispatch_first_tries (s : ClauseSet) (hook : Option (Hook (Except Failure)))
    {clauses : List Clause} (h : ∀ clause ∈ clauses, ∃ b, clause.accepts w hook args = .ok b) :
    (∃ before clause after, clauses = before ++ clause :: after ∧
      (∀ earlier ∈ before, earlier.accepts w hook args = .ok false) ∧
      clause.accepts w hook args = .ok true ∧
      ClauseSet.dispatch.first w hook s args clauses = clause.call w hook args) ∨
    (∀ clause ∈ clauses, clause.accepts w hook args = .ok false) ∧
      ClauseSet.dispatch.first w hook s args clauses = .error (s.refusal w args) := by
  induction clauses with
  | nil => exact .inr ⟨by simp, rfl⟩
  | cons clause rest ih =>
    obtain ⟨b, hb⟩ := h clause List.mem_cons_self
    cases b with
    | true =>
      refine .inl ⟨[], clause, rest, rfl, by simp, hb, ?_⟩
      simp [ClauseSet.dispatch.first, hb, bind, Except.bind]
    | false =>
      have hnext : ClauseSet.dispatch.first w hook s args (clause :: rest) =
          ClauseSet.dispatch.first w hook s args rest := by
        simp [ClauseSet.dispatch.first, hb, bind, Except.bind]
      rw [hnext]
      rcases ih fun k hk => h k (List.mem_cons_of_mem clause hk) with
        ⟨before, taker, after, rfl, hbefore, htakes, hcall⟩ | ⟨hnone, hrefused⟩
      · refine .inl ⟨clause :: before, taker, after, rfl, ?_, htakes, hcall⟩
        exact List.forall_mem_cons.mpr ⟨hb, hbefore⟩
      · exact .inr ⟨List.forall_mem_cons.mpr ⟨hb, hnone⟩, hrefused⟩

/-- A guard that begins with a class that cannot be tested for fails on some argument. -/
theorem not_answers_of_receiver (hw : w.KeepsBoxes) (hj : w.Judges) {k : ClassName}
    {params : List TypeRef} (hdeclared : clause.member.declared = .reference k :: params)
    (hk : w.canTest k = false) (hguarded : clause.guarded = true) (harity : 0 < clause.arity) :
    ∃ args, (∀ v ∈ args, w.Settles v) ∧
      clause.accepts (m := Except Failure) w none args = .error .notTestable := by
  obtain ⟨v, hsettles, hv⟩ := exists_notTestable hw hj (.inr hk)
  refine ⟨[v], by simpa using hsettles, ?_⟩
  obtain ⟨arity, harity⟩ := Nat.exists_eq_succ_of_ne_zero (Nat.ne_of_gt harity)
  have hguard : ∃ rest, clause.guardTypes = .reference k :: rest :=
    ⟨_, by rw [Clause.guardTypes, Member.parameterTypes, hdeclared, harity]; rfl⟩
  obtain ⟨rest, hguard⟩ := hguard
  simp [Clause.accepts, hguarded, harity, hguard, admitsAll, admits_none, hv, bind, Except.bind]

/-- Where its guards answer, a set calls a member, refuses, or fails in a call let pass by a guard. -/
theorem dispatch_first_cases (s : ClauseSet) {args : List Value} (hargs : ∀ v ∈ args, w.Settles v)
    {clauses : List Clause} (h : ∀ clause ∈ clauses, clause.Answers w) :
    (∃ call, ClauseSet.dispatch.first (m := Except Failure) w none s args clauses = .ok call) ∨
    ClauseSet.dispatch.first (m := Except Failure) w none s args clauses =
      .error (s.refusal w args) ∨
    ∃ clause ∈ clauses, ∃ e, clause.accepts (m := Except Failure) w none args = .ok true ∧
      clause.call (m := Except Failure) w none args = .error e ∧
      ClauseSet.dispatch.first (m := Except Failure) w none s args clauses = .error e := by
  rcases dispatch_first_tries s none fun clause hclause => h clause hclause args hargs with
    ⟨before, clause, after, rfl, -, htakes, hfirst⟩ | ⟨-, hrefused⟩
  · cases hcall : clause.call (m := Except Failure) w none args with
    | ok call => exact Or.inl ⟨call, hfirst.trans hcall⟩
    | error e =>
      exact Or.inr (Or.inr ⟨clause, by simp, e, htakes, hcall, hfirst.trans hcall⟩)
  · exact Or.inr (Or.inl hrefused)

/--
How a call of a routine ends: in a call of a member, in a refusal, or in the failure of a conversion
behind a guard that has let the arguments pass.
-/
inductive Routine.Ends (w : World) (r : Routine) (args : List Value) : Prop where
  | called (call : Call) (h : r.dispatch (m := Except Failure) w none args = .ok call)
  | refused (owner memberName reason : String)
      (h : r.dispatch (m := Except Failure) w none args =
        .error (.noOverload owner memberName (args.map w.typeName) reason))
  | unconverted (s : ClauseSet) (clause : Clause) (e : Failure) (hset : s ∈ r.clauseSets)
      (hclause : clause ∈ s.clauses)
      (haccepts : clause.accepts (m := Except Failure) w none args = .ok true)
      (hcall : clause.call (m := Except Failure) w none args = .error e)
      (h : r.dispatch (m := Except Failure) w none args = .error e)

theorem mem_of_clauseSetFor? (h : r.clauseSetFor? n = some s) : s ∈ r.clauseSets := by
  unfold Routine.clauseSetFor? at h
  split at h
  · rename_i found hfound
    cases h
    exact List.mem_of_find?_eq_some hfound
  · obtain ⟨htail, -⟩ := Option.filter_eq_some_iff.mp h
    unfold Routine.tail? at htail
    split at htail
    · rename_i last hlast
      split at htail
      · cases htail
        exact List.mem_of_getLast? hlast
      · cases htail
    · cases htail

theorem ends_of_guardsAnswer (h : r.GuardsAnswer w) (hargs : ∀ v ∈ args, w.Settles v) :
    r.Ends w args := by
  cases hset : r.clauseSetFor? args.length with
  | none =>
    refine .refused r.owner r.memberName (Failure.wrongNumber args.length) ?_
    simp [Routine.dispatch, hset, Routine.refusal, throw, throwThe, MonadExceptOf.throw]
  | some s =>
    have hs := mem_of_clauseSetFor? hset
    have hdispatch : r.dispatch (m := Except Failure) w none args =
        ClauseSet.dispatch.first w none s args s.clauses := by
      rw [Routine.dispatch, hset]
      rfl
    rcases dispatch_first_cases s hargs (h s hs) with ⟨call, hcall⟩ | hrefused | hfailed
    · exact .called call (hdispatch.trans hcall)
    · exact .refused s.owner s.memberName Failure.unrecognised (hdispatch.trans hrefused)
    · obtain ⟨clause, hclause, e, haccepts, hcall, herror⟩ := hfailed
      exact .unconverted s clause e hs hclause haccepts hcall (hdispatch.trans herror)

variable {c : ClassName}

/-- That a routine is one of those assembled for a class, whatever is asked for. -/
def World.Assembles (w : World) (c : ClassName) (r : Routine) : Prop :=
  ∃ a handle o rs, w.resolveClass handle = .ok c ∧ assembleClass w a w.members handle o = .ok rs ∧
    r ∈ rs

/-- That the methods of instances of a class are declared by classes that can be tested for. -/
def World.ReceiversTestable (w : World) (c : ClassName) : Prop :=
  ∀ m ∈ w.members c, m.isStatic = false → w.canTest m.owner = true

/-- That no argument of a member of a class is tested for being a typed dictionary. -/
def World.AsksForNoTypedDict (w : World) (c : ClassName) : Prop :=
  ∀ m ∈ w.members c, ∀ t ∈ m.testedTypes, w.isTypedDict t.boxed = false

theorem decides_of_receivers (hw : w.KeepsBoxes) (hdicts : w.AsksForNoTypedDict c)
    (h : w.ReceiversTestable c) (hm : m ∈ w.members c) : ∀ t ∈ m.testedTypes, w.Decides t :=
  fun t ht => decides_of_canTest hw (hdicts m hm t ht) ((reflects_of_mem hw hm).testable (h m hm) t ht)

theorem mem_of_apply {selection : Selection} {a : Ambient} {selected : List Member}
    (h : selection.apply a members = .ok selected) (hm : m ∈ selected) : m ∈ members := by
  unfold Selection.apply at h
  cases hp : a.orderPolicy selection.order .trust with
  | error e => simp [hp, Except.map] at h
  | ok policy =>
    simp only [hp, Except.map, Except.ok.injEq] at h
    subst h
    have hkept : m ∈ members.filter (a.filterFor selection.filter) := by
      cases policy with
      | sort => exact List.mem_mergeSort.mp hm
      | trust => exact hm
    exact (List.mem_filter.mp hkept).1

/-- A routine of a class is for all members of its name among some of those of the class. -/
theorem gathers_of_assembles (h : w.Assembles c r) :
    ∃ selected namePrefix, (∀ m ∈ selected, m ∈ w.members c) ∧ r.Gathers selected namePrefix := by
  obtain ⟨a, handle, o, rs, hresolve, hassemble, hr⟩ := h
  rw [assembleClass, Except.bind_eq_ok] at hassemble
  obtain ⟨selected, hselected, hassemble⟩ := hassemble
  rw [membersOf, hresolve] at hselected
  obtain ⟨rs', hrs', -, hgathers⟩ := Routine.assembleAll_eq selected a.proofMode o.namePrefix
  rw [hrs'] at hassemble
  cases hassemble
  exact ⟨selected, o.namePrefix, fun m hm => mem_of_apply hselected hm, hgathers r hr⟩

/-- The clauses of a routine for a class are of members of the class. -/
theorem mem_members_of_assembles (h : w.Assembles c r) (hs : s ∈ r.clauseSets)
    (hclause : clause ∈ s.clauses) : clause.member ∈ w.members c := by
  obtain ⟨selected, namePrefix, hselected, hgathers⟩ := gathers_of_assembles h
  rw [hgathers] at hs
  have hmember := Routine.member_of_clause hs hclause
  exact hselected _ (List.mem_filter.mp hmember).1

/-- Without a filter and in declared order, every member of a class belongs to a routine. -/
theorem exists_assembled (hm : m ∈ w.members c) :
    ∃ r, w.Assembles c r ∧ r.memberName = m.name ∧ r.Gathers (w.members c) "" := by
  obtain ⟨rs, hrs, hnames, hgathers⟩ :=
    Routine.assembleAll_eq (w.members c) Ambient.initial.proofMode ""
  have hname : m.name ∈ rs.map (·.memberName) := by
    rw [hnames]
    exact Routine.mem_memberNames.mpr ⟨m, hm, rfl⟩
  obtain ⟨r, hr, hrname⟩ := List.mem_map.mp hname
  refine ⟨r, ⟨.initial, .type c, ⟨"", ⟨none, none⟩, false⟩, rs, rfl, ?_, hr⟩, hrname, hgathers r hr⟩
  have hselected : membersOf w .initial w.members (.type c) ⟨none, none⟩ = .ok (w.members c) := by
    have hresolve : w.resolveClass (.type c) = .ok c := rfl
    have hpolicy : Ambient.initial.orderPolicy none .trust = .ok .trust := rfl
    have hfilter : (w.members c).filter (Ambient.initial.filterFor none) = w.members c :=
      List.filter_eq_self.mpr fun _ _ => rfl
    simp [membersOf, hresolve, Selection.apply, hpolicy, hfilter, Except.map,
      OrderPolicy.arrange, bind, Except.bind]
  rw [assembleClass, hselected]
  exact hrs

theorem exists_assembled_clause (hm : m ∈ w.members c) (hcount : 0 < m.parameterCount) :
    ∃ r, w.Assembles c r ∧ ∃ s ∈ r.clauseSets, ⟨m, m.parameterCount, false, true⟩ ∈ s.clauses := by
  obtain ⟨r, hr, hname, hgathers⟩ := exists_assembled hm
  refine ⟨r, hr, ?_⟩
  rw [hgathers]
  exact Routine.exists_clause (List.mem_filter.mpr ⟨hm, by simp [hname]⟩) hcount

/--
Where abstract classes decide what belongs to them, all types of the members of a class decide exactly if the
classes that declare its methods of instances can be tested for and no typed dictionaries are asked for.
Without typed dictionaries, the guards of all routines of the class answer exactly if those classes can be
tested for. Then every call ends well. Arguments are taken to settle their tests, so that what they run when
they are asked for attributes does not fail.
-/
theorem guards_answer_iff (hw : w.KeepsBoxes) (hj : w.Judges) (c : ClassName) :
    (w.AsksForNoTypedDict c →
      ((∀ r, w.Assembles c r → r.GuardsAnswer w) ↔ w.ReceiversTestable c)) ∧
    ((∀ m ∈ w.members c, ∀ t ∈ m.testedTypes, w.Decides t) ↔
      w.ReceiversTestable c ∧ w.AsksForNoTypedDict c) ∧
    (w.ReceiversTestable c → w.AsksForNoTypedDict c → ∀ r, w.Assembles c r →
      ∀ args, (∀ v ∈ args, w.Settles v) → r.Ends w args) := by
  have hanswer : w.AsksForNoTypedDict c → w.ReceiversTestable c →
      ∀ r, w.Assembles c r → r.GuardsAnswer w := by
    intro hdicts h r hr s hs clause hclause
    apply answers_of_decides (decides_of_canTest hw (isTypedDict_boxed hw .void) (canTest_boxed hw .void))
    exact decides_of_receivers hw hdicts h (mem_members_of_assembles hr hs hclause)
  refine ⟨fun hdicts => ⟨?_, hanswer hdicts⟩, ⟨fun h => ⟨?_, ?_⟩, ?_⟩, ?_⟩
  · intro h m hm hmethod
    cases hk : w.canTest m.owner with
    | true => rfl
    | false =>
      obtain ⟨params, hdeclared⟩ := (reflects_of_mem hw hm).declared_of_method hmethod
      have hcount : 0 < m.parameterCount := by simp [Member.parameterCount, hdeclared]
      obtain ⟨r, hr, s, hs, hclause⟩ := exists_assembled_clause hm hcount
      obtain ⟨args, hsettle, hfails⟩ : ∃ args, (∀ v ∈ args, w.Settles v) ∧
          Clause.accepts (m := Except Failure) w none ⟨m, m.parameterCount, false, true⟩ args =
            .error .notTestable :=
        not_answers_of_receiver hw hj hdeclared hk rfl hcount
      obtain ⟨b, hb⟩ := h r hr s hs _ hclause args hsettle
      rw [hfails] at hb
      cases hb
  · intro m hm hmethod
    obtain ⟨params, hdeclared⟩ := (reflects_of_mem hw hm).declared_of_method hmethod
    have hdecides : w.Decides (.reference m.owner) := by
      apply h m hm
      simp [Member.testedTypes, hdeclared]
    exact ((decides_reference_iff hw hj).mp hdecides).2
  · intro m hm t ht
    cases t with
    | primitive p => exact isTypedDict_boxed hw p
    | reference k => exact ((decides_reference_iff hw hj).mp (h m hm _ ht)).1
  · rintro ⟨hreceivers, hdicts⟩ m hm
    exact decides_of_receivers hw hdicts hreceivers hm
  · intro h hdicts r hr args hargs
    exact ends_of_guardsAnswer (hanswer hdicts h r hr) hargs

def runnerClass : ClassName := ⟨["jobs"], ["Runner"]⟩

def jobClass : ClassName := ⟨["jobs"], ["Job"]⟩

def runFunction : Function where
  module := ["jobs"]
  path := ["Runner", "run"]
  role := .plain
  overloads := []
  implementation := Signature.withReceiver "self" ⟨[], none⟩
  body := .trace
  postponed := false

/-- A protocol with a method, and a class below it that adds nothing. -/
def jobs (runtime : Bool) : World where
  classes := [
    { name := jobClass
      linearization := [jobClass, runnerClass, Native.protocolClass, Native.genericClass, .object]
      isProtocol := false
      runtimeCheckable := runtime
      attributes := []
      annotations := []
      constructorCounts := none },
    { name := runnerClass
      linearization := [runnerClass, Native.protocolClass, Native.genericClass, .object]
      isProtocol := true
      runtimeCheckable := runtime
      attributes := [("run", .function .receiver runFunction)]
      annotations := []
      constructorCounts := none }]
  modules := []

theorem keepsBoxes_jobs (runtime : Bool) : (jobs runtime).KeepsBoxes := by
  intro p
  cases p <;> rfl

theorem staysOut_jobs (runtime : Bool) : (jobs runtime).StaysOut := by
  intro i hi name hname
  have hrun : name ≠ "run" := by
    rintro rfl
    simp [World.testingNames, World.subclassHookName] at hname
  simp only [jobs, List.mem_cons, List.not_mem_nil, or_false] at hi
  rcases hi with rfl | rfl
  · rfl
  · simp [ClassInfo.attribute?, hrun]

def runMember : Member where
  name := "run"
  kind := .method
  declared := [.reference runnerClass]
  returns := .object
  owner := runnerClass
  target := .function runFunction none
  path := "jobs.Job.run"
  varargs := none
  isStatic := false

theorem visible_job (runtime : Bool) : (jobs runtime).visible jobClass =
    [(runnerClass, "run", .function .receiver runFunction)] := rfl

/-- Whatever the constructor is, the only method is the inherited one. -/
theorem members_job (runtime : Bool) : (jobs runtime).members jobClass =
    (jobs runtime).constructors jobClass ++ [runMember] := by
  have hrun : ((jobs runtime).reflectAttribute jobClass runnerClass "run"
      (.function .receiver runFunction)).members = [runMember] := rfl
  have hpublic : World.isPublic "run" = true := by
    simp [World.isPublic]
  simp [World.members, World.methods, World.reflectedMethods, visible_job, hpublic, hrun]

theorem guards_answer_of_runtime_protocol :
    (∀ r, (jobs true).Assembles jobClass r → r.GuardsAnswer (jobs true)) ∧
      ∀ r, (jobs true).Assembles jobClass r → ∀ args, r.Ends (jobs true) args := by
  have hdicts : (jobs true).AsksForNoTypedDict jobClass :=
    fun _ _ t _ => isTypedDict_of_classes (by simp [jobs]) t.boxed
  have hreceivers : (jobs true).ReceiversTestable jobClass := by
    intro m hm hmethod
    rw [members_job] at hm
    rcases List.mem_append.mp hm with hconstructor | hrun
    · obtain ⟨_, _, -, rfl⟩ := mem_constructors hconstructor
      cases hmethod
    · obtain rfl := List.mem_singleton.mp hrun
      exact canTest_of_checkable (by simp [jobs, ClassInfo.isCheckable]) (by decide)
  obtain ⟨hguards, -, hends⟩ :=
    guards_answer_iff (keepsBoxes_jobs true) (staysOut_jobs true).judges jobClass
  exact ⟨(hguards hdicts).mpr hreceivers,
    fun r hr args => hends hreceivers hdicts r hr args fun v _ => (staysOut_jobs true).settles v⟩

theorem respond_notTestable {members : List Member} {m : Member} {k : ClassName} {v : Value}
    {memberName : String} (hdeclared : m.declared = [.reference k]) (hv : m.varargs = none)
    (hfails : w.isInstance v (.reference k) = .error .notTestable) :
    respond (M := Except Failure) w none memberName (m :: members) [v] = .error .notTestable := by
  have hexactly : exactly (m :: members) 1 = m :: exactly members 1 := by
    simp [exactly, Member.isVariadic, Member.parameterCount, hdeclared, hv]
  simp [respond, candidates, hexactly, firstTaking, Member.parameterTypes, hdeclared, hv, admitsAll,
    admits_none, hfails, bind, Except.bind]

/-- Below a protocol that cannot be tested for, an inherited method fails on an instance. -/
theorem inherited_method_fails : ∃ r, (jobs false).Assembles jobClass r ∧ r.memberName = "run" ∧
    r.dispatch (m := Except Failure) (jobs false) none [.object jobClass 0 none] =
      .error .notTestable := by
  have hm : runMember ∈ (jobs false).members jobClass := by simp [members_job]
  obtain ⟨r, hr, hname, hgathers⟩ := exists_assembled hm
  refine ⟨r, hr, hname, ?_⟩
  have hnone : ((jobs false).constructors jobClass).filter (·.name = "run") = [] := by
    apply List.filter_eq_nil_iff.mpr
    intro m hm
    simp [name_of_constructor hm, jobClass, ClassName.simpleName]
  have hfails : (jobs false).isInstance (.object jobClass 0 none) (.reference runnerClass) =
      .error .notTestable := by
    have htruth := isTruth_of_named (keepsBoxes_jobs false)
      ((staysOut_jobs false).namedClass? (.object jobClass 0 none))
    have htest : (jobs false).canTest runnerClass = false := rfl
    have hother : (jobs false).classOf (.object jobClass 0 none) ≠ runnerClass := by
      simp [World.classOf, jobClass, runnerClass]
    have hbelow : (jobs false).isSubclass jobClass (.builtin "bool") = false := rfl
    rw [World.isInstance, htruth, hbelow]
    exact isInstanceOf_of_not_canTest (.inr htest) hother
  have hgroup : ((jobs false).members jobClass).filter (·.name = r.memberName) =
      [runMember] := by
    have hrun : runMember.name = "run" := rfl
    rw [members_job, hname, hrun, List.filter_append, hnone, List.nil_append]
    exact List.filter_cons_of_pos rfl
  rw [hgathers, dispatch_laidOut, hgroup]
  exact respond_notTestable rfl rfl hfails

end Overloads
