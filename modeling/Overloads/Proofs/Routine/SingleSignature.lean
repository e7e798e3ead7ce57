import Overloads.Instance.Invocation
import Overloads.Proofs.Member.Attributes
import Overloads.Proofs.Routine.Permutation
import Overloads.Proofs.Routine.ProofMode

/-! Calling a static function of one signature through its routine is calling the function. -/
namespace Overloads

variable {w : World} {c holder : ClassName} {name : String} {f : Function} {args : List Value}
variable {shown : ShownSignature} {members : List Member} {n i : Nat} {v : Value}

/-- The type of a parameter whose annotation evaluates. -/
def Param.type (w : World) (postponed : Bool) (p : Param) : TypeRef :=
  (p.shownBy fun a => (a.resolve postponed).toOption).hint.type w.checkable

/-- Tests from left to right end with the first that has another answer than yes. -/
theorem admitsAll_eq_iff {l : List (Value × TypeRef)} {answer : Except Failure Bool}
    (hanswer : answer ≠ .ok true) : admitsAll w none l = answer ↔
      ∃ i x, l[i]? = some x ∧ w.isInstance x.1 x.2 = answer ∧
        ∀ y ∈ l.take i, w.isInstance y.1 y.2 = .ok true := by
  induction l with
  | nil =>
    have hall : admitsAll (m := Except Failure) w none [] = .ok true := rfl
    simp [hall, hanswer.symm]
  | cons x rest ih =>
    have hstep : admitsAll w none (x :: rest) =
        (w.isInstance x.1 x.2).bind fun b => if b then admitsAll w none rest else .ok false := by
      rw [← admits_none]
      rfl
    by_cases hfits : w.isInstance x.1 x.2 = .ok true
    · -- What is reached lies behind the first argument.
      rw [hstep, hfits]
      refine ih.trans ⟨?_, ?_⟩
      · rintro ⟨i, y, hy, htest, hfront⟩
        exact ⟨i + 1, y, hy, htest, List.forall_mem_cons.mpr ⟨hfits, hfront⟩⟩
      · rintro ⟨_ | i, y, hy, htest, hfront⟩
        · cases hy
          exact (hanswer (htest.symm.trans hfits)).elim
        · exact ⟨i, y, hy, htest, (List.forall_mem_cons.mp hfront).2⟩
    · have hends : admitsAll w none (x :: rest) = w.isInstance x.1 x.2 := by
        rw [hstep]
        rcases htest : w.isInstance x.1 x.2 with e | _ | _
        · rfl
        · rfl
        · exact (hfits htest).elim
      rw [hends]
      constructor
      · exact fun htest => ⟨0, x, rfl, htest, by simp⟩
      · rintro ⟨_ | i, y, hy, htest, hfront⟩
        · cases hy
          exact htest
        · exact (hfits (List.forall_mem_cons.mp hfront).1).elim

namespace Function

/-- The type of the parameter that gets the argument in place `i`. -/
def typeAt (w : World) (f : Function) (i : Nat) : TypeRef :=
  match f.implementation.positional[i]? with
  | some p => p.type w f.postponed
  | none => (f.implementation.variadic?.map (·.type w f.postponed)).getD .object

/-- That every argument is an instance of the type of its parameter. -/
def Admits (w : World) (f : Function) (args : List Value) : Prop :=
  ∀ i v, args[i]? = some v → w.isInstance v (f.typeAt w i) = .ok true

/-- That testing the arguments from left to right, as long as they fit, comes to one with this answer. -/
def Reaches (w : World) (f : Function) (args : List Value) (answer : Except Failure Bool) : Prop :=
  ∃ i v, args[i]? = some v ∧ w.isInstance v (f.typeAt w i) = answer ∧ f.Admits w (args.take i)

/-- The arguments, each beside the type of its parameter. -/
def tests (w : World) (f : Function) (args : List Value) : List (Value × TypeRef) :=
  args.mapIdx fun i v => (v, f.typeAt w i)

/-- The cast of the argument in place `i`; what a variadic parameter collects is not cast. -/
def castAt? (w : World) (f : Function) (i : Nat) : Option Cast :=
  if i < f.implementation.positional.length then (f.typeAt w i).cast? else none

/-- The arguments with those for a `long` or a `double` cast, unless a cast fails. -/
def passed (w : World) (f : Function) (args : List Value) : Except Failure (List Value) :=
  args.zipIdx.mapM fun (v, i) =>
    match f.castAt? w i with
    | none => .ok v
    | some c => w.cast c v

/-- The member that a shape of a static function gives. -/
def staticMember (f : Function) (c holder : ClassName) (name : String) (s : Shape) : Member where
  name := name
  kind := .method
  declared := s.params
  returns := s.returns
  owner := holder
  target := .function f none
  path := c.text ++ "." ++ name
  varargs := s.varargs
  isStatic := true

theorem members_of_static (hsingle : f.overloads = [])
    (hshown : (f.source f.shown).shown = some shown) :
    (w.reflectAttribute c holder name (.function .static f)).members =
      (shown.shapes w.checkable).map (f.staticMember c holder name) := by
  simp [World.reflectAttribute, Attribute.reading?, Function.sources, hsingle, hshown, staticMember]

theorem getElem?_tests : (f.tests w args)[i]? = args[i]?.map (·, f.typeAt w i) :=
  List.getElem?_mapIdx

theorem take_tests : (f.tests w args).take i = f.tests w (args.take i) := by
  apply List.ext_getElem?
  intro j
  rw [List.getElem?_take, getElem?_tests, getElem?_tests, List.getElem?_take]
  split <;> rfl

theorem admits_iff_forall :
    f.Admits w args ↔ ∀ x ∈ f.tests w args, w.isInstance x.1 x.2 = .ok true := by
  simp only [List.mem_iff_getElem?, getElem?_tests, Option.map_eq_some_iff, Admits]
  constructor
  · rintro h _ ⟨i, v, hv, rfl⟩
    exact h i v hv
  · exact fun h i v hv => h _ ⟨i, v, hv, rfl⟩

theorem admits_singleton : f.Admits w [v] ↔ w.isInstance v (f.typeAt w 0) = .ok true := by
  simp [admits_iff_forall, tests]

theorem admits_iff :
    f.Admits w args ↔ admitsAll (m := Except Failure) w none (f.tests w args) = .ok true := by
  rw [admits_iff_forall]
  constructor
  · intro h
    exact admitsAll_of_admits w none fun x hx => (admits_none x.1).trans (h x hx)
  · intro h x hx
    rw [← admits_none]
    exact admits_of_admitsAll w none h x hx

/-- An answer other than yes is that of the first argument which does not fit. -/
theorem reaches_iff {answer : Except Failure Bool} (hanswer : answer ≠ .ok true) :
    f.Reaches w args answer ↔ admitsAll w none (f.tests w args) = answer := by
  rw [admitsAll_eq_iff hanswer, Reaches]
  apply exists_congr
  intro i
  simp only [getElem?_tests, take_tests, Option.map_eq_some_iff, ← admits_iff_forall]
  constructor
  · rintro ⟨v, hv, hanswer, hfront⟩
    exact ⟨_, ⟨v, hv, rfl⟩, hanswer, hfront⟩
  · rintro ⟨_, ⟨v, hv, rfl⟩, hanswer, hfront⟩
    exact ⟨v, hv, hanswer, hfront⟩

theorem reaches_false_iff : f.Reaches w args (.ok false) ↔
    admitsAll (m := Except Failure) w none (f.tests w args) = .ok false :=
  reaches_iff (by simp)

theorem reaches_error_iff {e : Failure} : f.Reaches w args (.error e) ↔
    admitsAll (m := Except Failure) w none (f.tests w args) = .error e :=
  reaches_iff (by simp)

/-- The arguments fit, or the tests come to one that does not, or fail on the way. -/
theorem admits_or_reaches (w : World) (f : Function) (args : List Value) :
    f.Admits w args ∨ f.Reaches w args (.ok false) ∨ ∃ e, f.Reaches w args (.error e) := by
  rcases htests : admitsAll (m := Except Failure) w none (f.tests w args) with e | _ | _
  · exact .inr (.inr ⟨e, reaches_error_iff.mpr htests⟩)
  · exact .inr (.inl (reaches_false_iff.mpr htests))
  · exact .inl (admits_iff.mpr htests)

theorem canTest_typeAt (hboxes : w.KeepsBoxes) (i : Nat) : w.canTest (f.typeAt w i).boxed = true := by
  unfold typeAt
  split
  · exact canTest_type hboxes _
  · cases f.implementation.variadic? with
    | none => exact canTest_boxed hboxes .void
    | some p => exact canTest_type hboxes _

section Shown

variable (hparams : shown.params =
  f.implementation.params.map (·.shownBy fun a => (a.resolve f.postponed).toOption))
include hparams

theorem declared_eq : shown.declared w.checkable =
    f.implementation.positional.map (·.type w f.postponed) := by
  rw [ShownSignature.declared, ShownSignature.positional_eq hparams, List.map_map]
  rfl

theorem length_positional : shown.positional.length = f.implementation.positional.length := by
  rw [ShownSignature.positional_eq hparams, List.length_map]

theorem variadicType_eq : shown.variadic?.map (·.hint.type w.checkable) =
    f.implementation.variadic?.map (·.type w f.postponed) := by
  rw [ShownSignature.variadic?_eq hparams, Option.map_map]
  rfl

variable {m : Member} (hm : m = f.staticMember c holder name (shown.shapeAt w.checkable n))
include hm

/-- The shape that the arguments meet has the types of the parameters that get them. -/
theorem parameterTypes_shapeAt (htakes : shown.Takes n) (hi : i < n) :
    (m.parameterTypes n)[i]? = some (f.typeAt w i) := by
  have hlength := length_positional hparams
  subst hm
  unfold ShownSignature.shapeAt
  split
  · have hpositional : i < f.implementation.positional.length := by omega
    simp [Member.parameterTypes, staticMember, ShownSignature.cut, declared_eq hparams, typeAt,
      hi, hpositional]
  · simp only [Member.parameterTypes, staticMember, ShownSignature.whole, declared_eq hparams,
      variadicType_eq hparams]
    rw [List.take_of_length_le (by rw [List.length_map]; omega)]
    rcases Nat.lt_or_ge i f.implementation.positional.length with hlt | hge
    · rw [List.getElem?_append_left (by simpa using hlt)]
      simp [typeAt, hlt]
    · -- An argument without a parameter of its own is collected.
      obtain ⟨q, hq⟩ : ∃ q, f.implementation.variadic? = some q := by
        obtain ⟨-, -, hle | hv⟩ := htakes
        · omega
        · rw [ShownSignature.variadic?_eq hparams, Option.isSome_map] at hv
          exact Option.isSome_iff_exists.mp hv
      have hplace : i - f.implementation.positional.length <
          n - f.implementation.positional.length := by omega
      rw [List.getElem?_append_right (by simpa using hge)]
      simp [typeAt, hq, hge, hplace]

theorem castAt?_shapeAt (hi : i < n) : m.castAt? i (f.typeAt w i) = f.castAt? w i := by
  have hlength := length_positional hparams
  have hcount : i < m.parameterCount ↔ i < f.implementation.positional.length := by
    subst hm
    unfold ShownSignature.shapeAt
    split
    · simp only [Member.parameterCount, staticMember, ShownSignature.cut, List.length_take,
        ShownSignature.length_declared]
      omega
    · simp only [Member.parameterCount, staticMember, ShownSignature.whole,
        ShownSignature.length_declared, hlength]
  simp only [Member.castAt?, castAt?, hcount]

/-- The types of the member stand beside the arguments as those of the parameters do. -/
theorem zip_parameterTypes_eq (hn : n = args.length) (htakes : shown.Takes n) :
    args.zip (m.parameterTypes n) = f.tests w args := by
  apply List.ext_getElem?
  intro i
  rw [getElem?_tests]
  cases hv : args[i]? with
  | none =>
    have hend : args.length ≤ i := List.getElem?_eq_none_iff.mp hv
    rw [Option.map_none, List.getElem?_eq_none_iff, List.length_zip]
    omega
  | some v =>
    have hi : i < n := by
      rw [hn]
      exact (List.getElem?_eq_some_iff.mp hv).1
    exact List.getElem?_zip_eq_some.mpr ⟨hv, parameterTypes_shapeAt hparams hm htakes hi⟩

/-- What the member passes on are the arguments, cast as the parameters of the function ask. -/
theorem delivery_eq_passed (hn : n = args.length) (htakes : shown.Takes n)
    (hall : (m.parameterTypes n).length = n) :
    m.delivery (M := Except Failure) w none args = f.passed w args := by
  have hargs : args.zipIdx =
      (args.zip (m.parameterTypes n)).zipIdx.map (Prod.map Prod.fst id) := by
    rw [← List.zipIdx_map, List.map_fst_zip (by omega)]
  rw [delivery_eq_mapM, passed, hargs, List.mapM_map, ← hn]
  apply mapM_congr
  rintro ⟨⟨v, t⟩, i⟩ hmem
  obtain ⟨hv, ht⟩ := List.getElem?_zip_eq_some.mp (List.mk_mem_zipIdx_iff_getElem?.mp hmem)
  have hi : i < n := by
    rw [hn]
    exact (List.getElem?_eq_some_iff.mp hv).1
  obtain rfl : f.typeAt w i = t := by
    rw [parameterTypes_shapeAt hparams hm htakes hi] at ht
    exact Option.some.inj ht
  have hcast := castAt?_shapeAt hparams hm hi
  cases hc : f.castAt? w i with
  | none =>
    simp only [Member.deliveryAt, coerced, hcast, hc, pure_bind, Function.comp_apply, Prod.map, id]
    rfl
  | some k => simp [Member.deliveryAt, coerced, hcast, hc]

end Shown

end Function

section Group

variable (hperm : members.Perm
  ((shown.shapes w.checkable).map (f.staticMember c holder name)))
include hperm

theorem candidates_static_perm : (candidates members n).Perm
    (((shown.shapes w.checkable).filter (·.accepts n)).map (f.staticMember c holder name)) := by
  refine (candidates_perm members n).trans ?_
  have hfilter := hperm.filter (·.accepts n)
  rwa [List.filter_map] at hfilter

/-- As many arguments as the function takes meet one member. -/
theorem candidates_of_takes (htakes : shown.Takes n) :
    candidates members n = [f.staticMember c holder name (shown.shapeAt w.checkable n)] := by
  have hall := candidates_static_perm (n := n) hperm
  rw [ShownSignature.filter_shapes_of_takes htakes] at hall
  exact List.perm_singleton.mp hall

theorem candidates_of_not_takes (htakes : ¬ shown.Takes n) : candidates members n = [] := by
  have hall := candidates_static_perm (n := n) hperm
  rw [ShownSignature.filter_shapes_of_not_takes htakes] at hall
  exact List.perm_nil.mp hall

end Group

theorem head?_wrongNumber (n : Nat) : (Failure.wrongNumber n).toList.head? = some 'W' := by
  unfold Failure.wrongNumber
  rw [String.toList_append, String.toList_append, List.head?_append, List.head?_append]
  have hfirst : (toString "Wrong number of arguments (").toList.head? = some 'W' := by decide
  rw [hfirst]
  rfl

theorem wrongNumber_ne_unrecognised (n : Nat) :
    Failure.wrongNumber n ≠ Failure.unrecognised := by
  intro h
  have hfirst := head?_wrongNumber n
  rw [h] at hfirst
  exact absurd hfirst (by decide)

/-- How a routine answers calls if it stands for a single function with one signature. -/
structure Function.Answered (w : World) (f : Function) (r : Routine) (args : List Value) :
    Prop where
  /-- The number of arguments is refused exactly where binding them fails. -/
  number : r.Refuses w none args (Failure.wrongNumber args.length) ↔
    f.implementation.bind args = none
  /-- Binding fails for too few arguments, and for too many unless they are collected. -/
  bound : f.implementation.bind args = none ↔ args.length < f.implementation.required ∨
    f.implementation.positional.length < args.length ∧ f.implementation.variadic? = none
  tested : f.Admits w args ∨ f.Reaches w args (.ok false) ∨ ∃ e, f.Reaches w args (.error e)
  types : r.Refuses w none args Failure.unrecognised ↔
    f.implementation.bind args ≠ none ∧ f.Reaches w args (.ok false)
  called : f.implementation.bind args ≠ none → f.Admits w args → ∃ m : Member,
    r.dispatch (m := Except Failure) w none args = (do return ⟨m, ← f.passed w args⟩) ∧
    ∀ values, w.invoke ⟨m, values⟩ = (do return .of (← w.callFunction f values))
  failed : f.implementation.bind args ≠ none → ∀ e, f.Reaches w args (.error e) →
    r.dispatch (m := Except Failure) w none args = .error e
  /-- A test fails for a typed dictionary, or in what the argument or an abstract class does. -/
  cause : ∀ e, f.Reaches w args (.error e) → ∃ i v, args[i]? = some v ∧
    (e = .notTestable ∧ w.isTypedDict (f.typeAt w i).boxed = true ∨ w.Interferes v e)

theorem Function.cause_of_reaches (hboxes : w.KeepsBoxes) {e : Failure}
    (h : f.Reaches w args (.error e)) : ∃ i v, args[i]? = some v ∧
      (e = .notTestable ∧ w.isTypedDict (f.typeAt w i).boxed = true ∨ w.Interferes v e) := by
  obtain ⟨i, v, hv, hfails, -⟩ := h
  refine ⟨i, v, hv, (error_of_isInstance hboxes hfails).imp_left ?_⟩
  rintro ⟨rfl, hdict | htest⟩
  · exact ⟨rfl, hdict⟩
  · cases (canTest_typeAt hboxes i).symm.trans htest

section Answer

variable {memberName routineName id : String}
variable (hparams : shown.params =
  f.implementation.params.map (·.shownBy fun a => (a.resolve f.postponed).toOption))
variable (hperm : members.Perm
  ((shown.shapes w.checkable).map (f.staticMember c holder name)))
include hperm

theorem refuses_static_of_not_takes (htakes : ¬ shown.Takes args.length) {reason : String} :
    (Routine.laidOut memberName members routineName id).Refuses w none args reason ↔
      reason = Failure.wrongNumber args.length := by
  rw [Routine.Refuses, dispatch_laidOut, respond, candidates_of_not_takes hperm htakes]
  simp [throw, throwThe, MonadExceptOf.throw, eq_comm]

include hparams

/-- As many arguments as the function takes are tested, and passed on if all of them fit. -/
theorem dispatch_static_of_takes (htakes : shown.Takes args.length) :
    (Routine.laidOut memberName members routineName id).dispatch w none args =
      (do
        if ← admitsAll w none (f.tests w args) then
          return ⟨f.staticMember c holder name (shown.shapeAt w.checkable args.length),
            ← f.passed w args⟩
        else throw (.noOverload holder.text name (args.map w.typeName) Failure.unrecognised) :
          Except Failure Call) := by
  have hone := candidates_of_takes hperm htakes
  have hmem : f.staticMember c holder name (shown.shapeAt w.checkable args.length) ∈
      candidates members args.length := by simp [hone]
  rw [dispatch_laidOut, respond, hone]
  simp only [firstTaking, Function.zip_parameterTypes_eq hparams rfl rfl htakes,
    Function.delivery_eq_passed hparams rfl rfl htakes (length_parameterTypes hmem)]
  rfl

theorem unrefused_passed (htakes : shown.Takes args.length) : Unrefused (f.passed w args) := by
  have hone := candidates_of_takes hperm htakes
  have hmem : f.staticMember c holder name (shown.shapeAt w.checkable args.length) ∈
      candidates members args.length := by simp [hone]
  rw [← Function.delivery_eq_passed hparams rfl rfl htakes (length_parameterTypes hmem)]
  exact unrefused_delivery (by simp) _ _

theorem refuses_static_of_takes (htakes : shown.Takes args.length) {reason : String} :
    (Routine.laidOut memberName members routineName id).Refuses w none args reason ↔
      reason = Failure.unrecognised ∧ f.Reaches w args (.ok false) := by
  rw [Routine.Refuses, dispatch_static_of_takes hparams hperm htakes, Function.reaches_false_iff]
  rcases htests : admitsAll (m := Except Failure) w none (f.tests w args) with e | _ | _
  · -- What a test fails with is no refusal.
    have hfails : f.Reaches w args (.error e) := Function.reaches_error_iff.mpr htests
    obtain ⟨i, v, -, htest, -⟩ := hfails
    have hnone : Unrefused (Except.error e : Except Failure Bool) :=
      htest ▸ World.unrefused_isInstance v (f.typeAt w i)
    simpa [bind, Except.bind] using fun owner name argTypes => hnone.ne owner name argTypes reason
  · simp [bind, Except.bind, throw, throwThe, MonadExceptOf.throw, eq_comm]
  · have hnone := (unrefused_passed hparams hperm htakes).ne
    cases hpassed : f.passed w args with
    | ok values => simp [bind, Except.bind, pure, Except.pure]
    | error e =>
      rw [hpassed] at hnone
      simpa [bind, Except.bind] using fun owner name argTypes => hnone owner name argTypes reason

theorem answered_laidOut (hboxes : w.KeepsBoxes) (hlast : f.implementation.DefaultsLast)
    (hkeyword : f.implementation.needsKeyword = false) (args : List Value) :
    f.Answered w (.laidOut memberName members routineName id) args := by
  have hbind : f.implementation.bind args = none ↔ ¬ shown.Takes args.length := by
    rw [ShownSignature.takes_iff hparams, ← Signature.bind_isSome_iff hlast,
      Option.not_isSome_iff_eq_none]
  have hbound : f.implementation.bind args = none ↔ args.length < f.implementation.required ∨
      f.implementation.positional.length < args.length ∧ f.implementation.variadic? = none := by
    rw [hbind, ShownSignature.takes_iff hparams, Signature.Takes]
    cases f.implementation.variadic? with
    | none =>
      simp only [hkeyword, true_and, Option.isSome_none, Bool.false_eq_true, or_false, and_true]
      omega
    | some p => simp [hkeyword]
  have hother := wrongNumber_ne_unrecognised args.length
  have hcause (e : Failure) (h : f.Reaches w args (.error e)) := Function.cause_of_reaches hboxes h
  by_cases htakes : shown.Takes args.length
  · refine ⟨?_, hbound, f.admits_or_reaches w args, ?_, ?_, ?_, hcause⟩
    · rw [refuses_static_of_takes hparams hperm htakes, hbind]
      simp [htakes, hother]
    · rw [refuses_static_of_takes hparams hperm htakes, ne_eq, hbind]
      simp [htakes]
    · intro _ hadmits
      refine ⟨f.staticMember c holder name (shown.shapeAt w.checkable args.length), ?_, fun _ => rfl⟩
      rw [dispatch_static_of_takes hparams hperm htakes, Function.admits_iff.mp hadmits]
      rfl
    · intro _ e hfails
      rw [dispatch_static_of_takes hparams hperm htakes, Function.reaches_error_iff.mp hfails]
      rfl
  · have hnone := hbind.mpr htakes
    refine ⟨?_, hbound, f.admits_or_reaches w args, ?_, ?_, ?_, hcause⟩
    · rw [refuses_static_of_not_takes hperm htakes, hbind]
      simp [htakes]
    · rw [refuses_static_of_not_takes hperm htakes, ne_eq, hbind]
      simp [htakes, hother.symm]
    · exact fun hok => (hok hnone).elim
    · exact fun hok => (hok hnone).elim

end Answer

/-- A public static function gives all members of its name. -/
theorem filter_members_of_static (hboxes : w.KeepsBoxes) (hw : w.WellFormed)
    (hattr : w.lookup c name = some (holder, .function .static f))
    (hpublic : World.isPublic name = true) (hname : name ≠ c.simpleName)
    (hsingle : f.overloads = []) (hshown : (f.source f.shown).shown = some shown) :
    (w.members c).filter (·.name = name) =
      (shown.shapes w.checkable).map (f.staticMember c holder name) := by
  have hconstructors : (w.constructors c).filter (·.name = name) = [] := by
    apply List.filter_eq_nil_iff.mpr
    intro m hm
    simp [name_of_constructor hm, hname.symm]
  rw [World.members, List.filter_append, hconstructors, List.nil_append,
    filter_methods hboxes hw hpublic hattr, Function.members_of_static hsingle hshown]

section Assembled

variable {a : Ambient} {o : Options} {handle : Value} {p : OrderPolicy}
variable (hboxes : w.KeepsBoxes) (hw : w.WellFormed)
variable (hattr : w.lookup c name = some (holder, .function .static f))
variable (hpublic : World.isPublic name = true) (hname : name ≠ c.simpleName)
variable (hsingle : f.overloads = [])
variable (hclass : w.resolveClass handle = .ok c)
variable (hpolicy : a.orderPolicy o.selection.order .trust = .ok p)
variable (hkeep : ∀ m, a.filterFor o.selection.filter m = true)
include hboxes hw hattr hpublic hname hsingle hclass hpolicy hkeep

/-- The routine of a static function is laid out for the shapes of what it shows, in some order. -/
theorem laidOut_of_static (hshown : (f.source f.shown).shown = some shown)
    (hkeyword : shown.needsKeyword = false) :
    ∃ rs, assembleClass w a w.members handle o = .ok rs ∧ (∃ r ∈ rs, r.memberName = name) ∧
      ∀ r ∈ rs, r.memberName = name → ∃ group routineName id,
        r = .laidOut name group routineName id ∧
        group.Perm ((shown.shapes w.checkable).map (f.staticMember c holder name)) := by
  have hkept : (w.members c).filter (a.filterFor o.selection.filter) = w.members c :=
    List.filter_eq_self.mpr fun m _ => hkeep m
  have hgroup : ((p.arrange (w.members c)).filter (·.name = name)).Perm
      ((shown.shapes w.checkable).map (f.staticMember c holder name)) := by
    rw [← filter_members_of_static hboxes hw hattr hpublic hname hsingle hshown]
    exact (arrange_perm p _).filter _
  obtain ⟨rs, hrs, hnames, hgathers⟩ :=
    Routine.assembleAll_eq (p.arrange (w.members c)) a.proofMode o.namePrefix
  refine ⟨rs, ?_, ?_, ?_⟩
  · rw [assembleClass, membersOf_eq hclass hpolicy, hkept]
    exact hrs
  · have hwhole : shown.whole w.checkable ∈ shown.shapes w.checkable := by
      rw [ShownSignature.shapes_eq hkeyword]
      simp
    have hmember := hgroup.mem_iff.mpr (List.mem_map_of_mem hwhole)
    have hmem : name ∈ rs.map (·.memberName) := by
      rw [hnames, Routine.mem_memberNames]
      exact ⟨_, (List.mem_filter.mp hmember).1, rfl⟩
    obtain ⟨r, hr, hrname⟩ := List.mem_map.mp hmem
    exact ⟨r, hr, hrname⟩
  · rintro r hr rfl
    exact ⟨_, _, _, hgathers r hr, hgroup⟩

/--
A class makes a routine for each of its public static functions without overloads and without a guise. It
answers a call as the function itself does, by the number of arguments first and then by their types.
-/
theorem answered_of_static (hguise : f.guise = none)
    (hkeyword : f.implementation.needsKeyword = false)
    (hhints : f.implementation.fault? f.postponed = none) :
    ∃ rs, assembleClass w a w.members handle o = .ok rs ∧ (∃ r ∈ rs, r.memberName = name) ∧
      ∀ r ∈ rs, r.memberName = name → ∀ args, f.Answered w r args := by
  obtain ⟨shown, hshown, hparams⟩ := Signature.shown?_of_fault? hhints
  have hsource : (f.source f.shown).shown = some shown := by
    rw [Function.source_of_plain hguise]
    exact hshown
  obtain ⟨rs, hrs, hsome, hlaid⟩ := laidOut_of_static hboxes hw hattr hpublic hname hsingle hclass
    hpolicy hkeep hsource (by rw [ShownSignature.needsKeyword_eq hparams, hkeyword])
  refine ⟨rs, hrs, hsome, ?_⟩
  intro r hr hrname args
  obtain ⟨group, routineName, id, rfl, hgroup⟩ := hlaid r hr hrname
  exact answered_laidOut hparams hgroup hboxes (defaultsLast_of_lookup hw hattr) hkeyword args

end Assembled

def stubbornClass : ClassName := ⟨["shop"], ["Stubborn"]⟩

def tillClass : ClassName := ⟨["shop"], ["Till"]⟩

def receiptClass : ClassName := ⟨["shop"], ["Receipt"]⟩

/-- Refuses to become a plain integer. -/
def refuseInteger : Function where
  module := ["shop"]
  path := ["Stubborn", "__int__"]
  role := .plain
  overloads := []
  implementation := Signature.withReceiver "self" ⟨[], none⟩
  body := .raise .value "no"
  postponed := false

/-- A static function of the till that reports how it is called. -/
def tillFunction (name : String) (params : List Param) : Function where
  module := ["shop"]
  path := ["Till", name]
  role := .plain
  overloads := []
  implementation := ⟨params, none⟩
  body := .trace
  postponed := false

/-- Takes a `long`, a text with a default, and any further arguments. -/
def payFunction : Function :=
  tillFunction "pay" [
    ⟨"amount", .positional, some (.primitive .long), none⟩,
    ⟨"note", .positional, some (.named (.builtin "str")), some (.str "")⟩,
    ⟨"further", .variadic, none, none⟩]

def chargedSignature : Signature :=
  ⟨[⟨"amount", .positional, none, none⟩, ⟨"account", .positional, none, none⟩], none⟩

/-- Takes any arguments, and wraps a function of two parameters. -/
def chargeFunction : Function :=
  { tillFunction "charge" [⟨"args", .variadic, none, none⟩] with
    guise := some (.wrapped chargedSignature false) }

/-- Takes a typed dictionary. -/
def fileFunction : Function :=
  tillFunction "file" [⟨"receipt", .positional, some (.named receiptClass), none⟩]

/-- A class below that of integers, a typed dictionary, and a class with static functions. -/
def shop : World where
  classes := [
    { name := tillClass
      linearization := [tillClass, .object]
      isProtocol := false
      runtimeCheckable := false
      attributes := [
        ("pay", .function .static payFunction),
        ("charge", .function .static chargeFunction),
        ("file", .function .static fileFunction)]
      annotations := []
      constructorCounts := none },
    { name := stubbornClass
      linearization := [stubbornClass, .builtin "int", .object]
      isProtocol := false
      runtimeCheckable := false
      attributes := [("__int__", .function .receiver refuseInteger)]
      annotations := []
      constructorCounts := none },
    { name := receiptClass
      linearization := [receiptClass, .builtin "dict", .object]
      isProtocol := false
      runtimeCheckable := false
      attributes := []
      annotations := ["total"]
      constructorCounts := none
      isTypedDict := true }]
  modules := []

theorem keepsBoxes_shop : shop.KeepsBoxes := by
  intro p
  cases p <;> rfl

theorem wellFormed_shop : shop.WellFormed := by
  intro i hi
  simp only [shop, List.mem_cons, List.not_mem_nil, or_false] at hi
  rcases hi with rfl | rfl | rfl
  all_goals exact ⟨by decide +kernel, by simp⟩

theorem staysOut_shop : shop.StaysOut := by
  intro i hi name hname
  have hother : name ≠ "pay" ∧ name ≠ "charge" ∧ name ≠ "file" ∧ name ≠ "__int__" := by
    refine ⟨?_, ?_, ?_, ?_⟩
    all_goals
      rintro rfl
      simp [World.testingNames, World.subclassHookName] at hname
  simp only [shop, List.mem_cons, List.not_mem_nil, or_false] at hi
  rcases hi with rfl | rfl | rfl <;> simp [ClassInfo.attribute?, hother]

theorem lookup_pay : shop.lookup tillClass "pay" =
    some (tillClass, .function .static payFunction) := rfl

theorem lookup_charge : shop.lookup tillClass "charge" =
    some (tillClass, .function .static chargeFunction) := rfl

theorem lookup_file : shop.lookup tillClass "file" =
    some (tillClass, .function .static fileFunction) := rfl

/-- Too few arguments, a text for a number, and arguments that are passed on. -/
theorem pay_answered :
    ∃ rs, assembleClass shop .initial shop.members (.type tillClass) ⟨"", ⟨none, none⟩, false⟩ =
        .ok rs ∧ (∃ r ∈ rs, r.memberName = "pay") ∧
      ∀ r ∈ rs, r.memberName = "pay" →
        r.Refuses shop none [] (Failure.wrongNumber 0) ∧
        r.Refuses shop none [.str "a"] Failure.unrecognised ∧
        ∃ m, r.dispatch (m := Except Failure) shop none [.int 1, .str "b", .nothing] =
          .ok ⟨m, [.int 1, .str "b", .nothing]⟩ := by
  have hclass : shop.resolveClass (.type tillClass) = .ok tillClass := rfl
  obtain ⟨rs, hrs, hsome, hanswered⟩ := answered_of_static (a := .initial)
    (o := ⟨"", ⟨none, none⟩, false⟩) (p := .trust) keepsBoxes_shop wellFormed_shop lookup_pay
    (by decide +kernel) (by decide +kernel) rfl hclass rfl (fun _ => rfl) rfl rfl rfl
  refine ⟨rs, hrs, hsome, fun r hr hname => ⟨?_, ?_, ?_⟩⟩
  · exact (hanswered r hr hname []).number.mpr rfl
  · apply (hanswered r hr hname [.str "a"]).types.mpr
    refine ⟨nofun, 0, .str "a", rfl, rfl, ?_⟩
    intro i v hv
    cases hv
  · have hadmits : payFunction.Admits shop [.int 1, .str "b", .nothing] := by
      intro i v hv
      match i with
      | 0 | 1 | 2 =>
        cases hv
        rfl
      | i + 3 => simp at hv
    have hbinds : payFunction.implementation.bind [.int 1, .str "b", .nothing] ≠ none := nofun
    obtain ⟨m, hcall, -⟩ := (hanswered r hr hname _).called hbinds hadmits
    exact ⟨m, hcall⟩

/-- An integer that refuses to become a plain one. -/
def stubborn : Value := .object stubbornClass 0 (some (.int 3))

theorem isTruth_stubborn : shop.isTruth stubborn = .ok false :=
  isTruth_of_named keepsBoxes_shop (staysOut_shop.namedClass? stubborn)

theorem isInstance_stubborn : shop.isInstance stubborn (.primitive .long) = .ok true := by
  rw [World.isInstance_of_isTruth isTruth_stubborn]
  exact isInstanceOf_of_named (testsByOrder_boxed keepsBoxes_shop .long)
    (staysOut_shop.namedClass? stubborn)

/-- The till has a routine for each of its static functions that shows a signature. -/
theorem laidOut_of_till {name : String} {f : Function} {shown : ShownSignature}
    (hattr : shop.lookup tillClass name = some (tillClass, .function .static f))
    (hpublic : World.isPublic name = true) (hname : name ≠ tillClass.simpleName)
    (hsingle : f.overloads = []) (hshown : (f.source f.shown).shown = some shown)
    (hkeyword : shown.needsKeyword = false) :
    ∃ rs, assembleClass shop .initial shop.members (.type tillClass) ⟨"", ⟨none, none⟩, false⟩ =
        .ok rs ∧
      ∃ r ∈ rs, r.memberName = name ∧ ∃ group routineName id,
        r = .laidOut name group routineName id ∧
        group.Perm ((shown.shapes shop.checkable).map (f.staticMember tillClass tillClass name)) := by
  have hclass : shop.resolveClass (.type tillClass) = .ok tillClass := rfl
  obtain ⟨rs, hrs, ⟨r, hr, hrname⟩, hlaid⟩ := laidOut_of_static (a := .initial)
    (o := ⟨"", ⟨none, none⟩, false⟩) (p := .trust) keepsBoxes_shop wellFormed_shop hattr hpublic
    hname hsingle hclass rfl (fun _ => rfl) hshown hkeyword
  exact ⟨rs, hrs, r, hr, hrname, hlaid r hr hrname⟩

/--
An integer that fails when it is converted is not passed on, a function that shows another signature is
called by that one's numbers of arguments, and a test for a typed dictionary fails.
-/
theorem stubborn_not_passed : ∃ rs,
    assembleClass shop .initial shop.members (.type tillClass) ⟨"", ⟨none, none⟩, false⟩ = .ok rs ∧
    (∃ r ∈ rs, r.memberName = "pay" ∧ payFunction.implementation.bind [stubborn] ≠ none ∧
      payFunction.Admits shop [stubborn] ∧
      r.dispatch (m := Except Failure) shop none [stubborn] = .error (.raised .value "no")) ∧
    (∃ r ∈ rs, r.memberName = "charge" ∧ chargeFunction.implementation.bind [.int 5] ≠ none ∧
      chargeFunction.Admits shop [.int 5] ∧ r.Refuses shop none [.int 5] (Failure.wrongNumber 1)) ∧
    ∃ r ∈ rs, r.memberName = "file" ∧ fileFunction.implementation.bind [.int 5] ≠ none ∧
      ¬ fileFunction.Admits shop [.int 5] ∧
      r.dispatch (m := Except Failure) shop none [.int 5] = .error .notTestable := by
  obtain ⟨paid, hpaid, hpays⟩ : ∃ shown,
      payFunction.implementation.shown? payFunction.postponed = some shown ∧ shown.params = _ :=
    Signature.shown?_of_fault? rfl
  obtain ⟨charged, hcharged, hcharges⟩ : ∃ shown,
      chargedSignature.shown? false = some shown ∧ shown.params = _ :=
    Signature.shown?_of_fault? rfl
  obtain ⟨filed, hfiled, hfiles⟩ : ∃ shown,
      fileFunction.implementation.shown? fileFunction.postponed = some shown ∧ shown.params = _ :=
    Signature.shown?_of_fault? rfl
  obtain ⟨rs, hrs, pay, hpay, hpayname, _, _, _, rfl, hpaygroup⟩ :=
    laidOut_of_till lookup_pay (by decide +kernel) (by decide +kernel) rfl hpaid
      (by rw [ShownSignature.needsKeyword_eq hpays]; rfl)
  obtain ⟨rs', hrs', charge, hcharge, hchargename, _, _, _, rfl, hchargegroup⟩ :=
    laidOut_of_till lookup_charge (by decide +kernel) (by decide +kernel) rfl hcharged
      (by rw [ShownSignature.needsKeyword_eq hcharges]; rfl)
  obtain ⟨rs'', hrs'', file, hfile, hfilename, _, _, _, rfl, hfilegroup⟩ :=
    laidOut_of_till lookup_file (by decide +kernel) (by decide +kernel) rfl hfiled
      (by rw [ShownSignature.needsKeyword_eq hfiles]; rfl)
  cases hrs.symm.trans hrs'
  cases hrs.symm.trans hrs''
  have hadmits : payFunction.Admits shop [stubborn] :=
    Function.admits_singleton.mpr isInstance_stubborn
  have hpaytakes : paid.Takes [stubborn].length :=
    (ShownSignature.takes_iff hpays).mpr ⟨rfl, by decide, .inl (by decide)⟩
  have hchargetakes : ¬ charged.Takes [Value.int 5].length := by
    rw [ShownSignature.takes_iff hcharges]
    rintro ⟨-, hrequired, -⟩
    revert hrequired
    decide
  have hfails : fileFunction.Reaches shop [.int 5] (.error .notTestable) :=
    ⟨0, .int 5, rfl, rfl, fun i v hv => by simp at hv⟩
  have hfiletakes : filed.Takes [Value.int 5].length :=
    (ShownSignature.takes_iff hfiles).mpr ⟨rfl, by decide, .inl (by decide)⟩
  refine ⟨rs, hrs, ⟨_, hpay, hpayname, nofun, hadmits, ?_⟩,
    ⟨_, hcharge, hchargename, nofun, ?_, ?_⟩, _, hfile, hfilename, nofun, ?_, ?_⟩
  · rw [dispatch_static_of_takes hpays hpaygroup hpaytakes, Function.admits_iff.mp hadmits]
    rfl
  · exact Function.admits_singleton.mpr rfl
  · exact (refuses_static_of_not_takes hchargegroup hchargetakes).mpr rfl
  · intro hfits
    cases Function.admits_singleton.mp hfits
  · rw [dispatch_static_of_takes hfiles hfilegroup hfiletakes,
      Function.reaches_error_iff.mp hfails]
    rfl

end Overloads
