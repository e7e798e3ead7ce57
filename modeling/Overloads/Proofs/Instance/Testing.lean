import Overloads.Instance.Testing
import Overloads.Proofs.Instance.Conversion
import Overloads.Proofs.Outcome

/-! What a test for a class can fail with, and when it has an answer. -/
namespace Overloads

variable {w : World} {v : Value} {a c k : ClassName} {t : TypeRef} {f : Failure} {b : Bool}

theorem own?_of_lookup {holder : ClassName} {name : String} {a : Attribute}
    (h : w.lookup c name = some (holder, a)) :
    w.own? holder name = some a := by
  obtain ⟨k, -, hk⟩ := List.exists_of_findSome?_eq_some h
  obtain ⟨b, hb, heq⟩ := Option.map_eq_some_iff.mp hk
  cases heq
  exact hb

/-- Whether a value is an instance that a described class has made. -/
def Value.isObject : Value → Bool
  | .object _ _ _ => true
  | _ => false

namespace World

/-- That a class can be tested for as far as protocols go: it is none, or one that allows it. -/
def canTest (w : World) (c : ClassName) : Bool := ((w.info? c).map (·.isCheckable)).getD true

/--
What comes between a value and the answer of a test: what the value does when it is asked for an attribute
or for its class, and what an abstract class does when it is asked which classes belong to it.
-/
inductive Interferes (w : World) (v : Value) : Failure → Prop where
  | asked {f : Failure} {name : String} (h : w.attributeOf (Thing.ofValue v) name = .error f)
      (hf : isMissing f = false) : Interferes w v f
  | unnamed {f : Failure} (h : w.namedClass? v = .error f) : Interferes w v f
  | noClass (h : w.namedClass? v = .ok none) : Interferes w v .unfitArguments
  | undecided {f : Failure} {a k : ClassName} (h : w.verdict? a k = .error f) : Interferes w v f

theorem verdict_of_belongsWithin {depth : Nat} (h : belongsWithin depth w a k = .error f) :
    ∃ a', w.verdict? a' k = .error f := by
  induction depth generalizing a with
  | zero => cases h
  | succ depth ih =>
    rcases Except.bind_eq_error.mp h with hverdict | ⟨answer, -, h⟩
    · exact ⟨a, hverdict⟩
    · cases answer with
      | some b => cases h
      | none =>
        dsimp only at h
        split at h
        · cases h
        · obtain ⟨heir, -, hheir⟩ := exists_of_anyM_eq_error h
          exact ih hheir

theorem interferes_of_belongs (h : w.belongs a k = .error f) : w.Interferes v f := by
  obtain ⟨a', hverdict⟩ := verdict_of_belongsWithin h
  exact .undecided hverdict

theorem interferes_of_isAbstractInstance (h : w.isAbstractInstance v c = .error f) :
    w.Interferes v f := by
  rcases Except.bind_eq_error.mp h with hnamed | ⟨named, hnamed, h⟩
  · exact .unnamed hnamed
  · cases named with
    | none =>
      cases h
      exact .noClass hnamed
    | some named =>
      rcases Except.bind_eq_error.mp h with hbelongs | ⟨b, -, h⟩
      · exact interferes_of_belongs hbelongs
      · cases b with
        | true => cases h
        | false =>
          rw [if_neg Bool.false_ne_true] at h
          split at h
          · cases h
          · exact interferes_of_belongs h

theorem interferes_of_satisfies (h : w.satisfies v c = .error f) : w.Interferes v f := by
  obtain ⟨name, -, hname⟩ := exists_of_allM_eq_error h
  split at hname
  · cases hname
  · cases hname
  · rename_i g hg
    split at hname
    · cases hname
    · rename_i hmissing
      cases hname
      exact .asked hg (Bool.eq_false_iff.mpr hmissing)

theorem interferes_of_conforms (h : w.conforms v c = .error f) : w.Interferes v f := by
  rcases Except.bind_eq_error.mp h with hsatisfies | ⟨b, -, h⟩
  · exact interferes_of_satisfies hsatisfies
  · cases b with
    | true => cases h
    | false => exact interferes_of_isAbstractInstance h

theorem interferes_of_isProtocolInstance (h : w.isProtocolInstance v c = .error f) :
    w.Interferes v f := by
  unfold isProtocolInstance at h
  split at h
  · rcases Except.bind_eq_error.mp h with hnamed | ⟨named, hnamed, h⟩
    · exact .unnamed hnamed
    · cases named with
      | none =>
        cases h
        exact .noClass hnamed
      | some named =>
        rcases Except.bind_eq_error.mp h with hbelongs | ⟨b, -, h⟩
        · exact interferes_of_belongs hbelongs
        · cases b with
          | true => cases h
          | false => exact interferes_of_conforms h
  · exact interferes_of_conforms h

theorem interferes_of_namesBelow (h : w.namesBelow v c = .error f) : w.Interferes v f := by
  unfold namesBelow at h
  split at h
  · cases h
  · rename_i g hnamed
    split at h
    · cases h
    · cases h
      exact .unnamed hnamed

/-- A test fails because of the class that it is for, or because of what it asks of others. -/
theorem error_of_isInstanceOf (h : w.isInstanceOf v c = .error f) :
    f = .notTestable ∧ (w.isTypedDict c = true ∨ w.canTest c = false) ∨ w.Interferes v f := by
  unfold isInstanceOf at h
  split at h
  · cases h
  split at h
  · rename_i hdict
    cases h
    exact .inl ⟨rfl, .inl hdict⟩
  split at h
  · rename_i hprotocol
    split at h
    · exact .inr (interferes_of_isProtocolInstance h)
    · rename_i hruntime
      cases h
      refine .inl ⟨rfl, .inr ?_⟩
      cases hi : w.info? c with
      | none => simp [isProtocol, hi] at hprotocol
      | some i => simp_all [isProtocol, canTest, ClassInfo.isCheckable]
  split at h
  · exact .inr (interferes_of_isAbstractInstance h)
  split at h
  · cases h
  · exact .inr (interferes_of_namesBelow h)

/-- That nothing comes between a value and the answer of a test. -/
def Settles (w : World) (v : Value) : Prop := ∀ f, ¬ w.Interferes v f

/-- That every abstract class has an answer, or leaves it open, whatever class it is asked for. -/
def Judges (w : World) : Prop := ∀ a k f, w.verdict? a k ≠ .error f

theorem isMissing_of_plainAttribute {thing : Thing} {name : String}
    (h : w.plainAttribute thing name = .error f) : isMissing f = true := by
  unfold plainAttribute at h
  split at h
  · cases h
  · cases h
    rfl

/-- Values that no described class has made are asked by the usual rules. -/
theorem attributeOf_of_native (h : v.isObject = false) (name : String) :
    w.attributeOf (Thing.ofValue v) name = w.plainAttribute (Thing.ofValue v) name := by
  cases v with
  | object _ _ _ => cases h
  | _ => rfl

theorem attributeOf_of_uncustomized {number : Nat} {content : Option Value} {name : String}
    (hall : w.customized? c "__getattribute__" = none) (hmissing : w.customized? c "__getattr__" = none) :
    w.attributeOf (.value (.object c number content)) name =
      w.plainAttribute (.value (.object c number content)) name := by
  simp only [attributeOf, hall, hmissing]
  split <;> simp_all

theorem attribute?_class (h : w.statedClass? (w.classOf v) = none) :
    w.attribute? (Thing.ofValue v) "__class__" = some (.type (w.classOf v)) := by
  have hstated : (w.statedClass? (w.classOf v)).getD (.type (w.classOf v)) = .type (w.classOf v) := by
    rw [h, Option.getD_none]
  cases v with
  | type c => rfl
  | _ => exact congrArg some hstated

theorem namedClass?_of_plainly
    (hasked : ∀ name, w.attributeOf (Thing.ofValue v) name = w.plainAttribute (Thing.ofValue v) name)
    (hstated : w.statedClass? (w.classOf v) = none) : w.namedClass? v = .ok (some (w.classOf v)) := by
  rw [namedClass?, hasked, plainAttribute, attribute?_class hstated]
  rfl

/-- Values that are asked by the usual rules, and say nothing of their class, settle what they are. -/
theorem settles_of_plainly (hj : w.Judges)
    (hasked : ∀ name, w.attributeOf (Thing.ofValue v) name = w.plainAttribute (Thing.ofValue v) name)
    (hstated : w.statedClass? (w.classOf v) = none) : w.Settles v := by
  have hnamed := namedClass?_of_plainly hasked hstated
  intro f hf
  cases hf with
  | asked h hf =>
    rw [hasked] at h
    rw [isMissing_of_plainAttribute h] at hf
    cases hf
  | unnamed h => cases hnamed.symm.trans h
  | noClass h => cases hnamed.symm.trans h
  | undecided h => exact hj _ _ _ h

/-- The names under which a class can have a say in tests. -/
def testingNames : List String := ["__getattribute__", "__getattr__", "__class__", subclassHookName]

/-- That no described class has a say in tests. -/
def StaysOut (w : World) : Prop :=
  ∀ i ∈ w.classes, ∀ name ∈ testingNames, i.attribute? name = none

theorem staysOut_empty : World.empty.StaysOut := by
  simp [StaysOut, empty]

theorem StaysOut.attribute? (h : w.StaysOut) {name : String} (hname : name ∈ testingNames)
    {i : ClassInfo} (hi : w.described? k = some i) : i.attribute? name = none :=
  h i (List.mem_of_find?_eq_some hi) name hname

theorem impliedNames_testing {name : String} (hname : name ∈ testingNames) :
    impliedNames.contains name = false := by
  simp only [testingNames, subclassHookName, List.mem_cons, List.not_mem_nil, or_false] at hname
  rcases hname with rfl | rfl | rfl | rfl <;> simp [impliedNames]

/-- A name that no described class has is customized nowhere. -/
theorem customized?_eq_none {name : String} (himplied : impliedNames.contains name = false)
    (h : ∀ i ∈ w.classes, i.attribute? name = none) : w.customized? c name = none := by
  unfold customized?
  split
  case h_5 k a _ _ _ hlookup =>
    cases hi : w.described? k with
    | none => rfl
    | some i =>
      have hown := own?_of_lookup hlookup
      rw [own?, hi] at hown
      simp only [h i (List.mem_of_find?_eq_some hi), himplied] at hown
      cases hown
  all_goals rfl

theorem StaysOut.customized? (h : w.StaysOut) {name : String} (hname : name ∈ testingNames) :
    w.customized? c name = none :=
  customized?_eq_none (impliedNames_testing hname) fun i hi => h i hi name hname

theorem StaysOut.subclassHook? (h : w.StaysOut) (a : ClassName) : w.subclassHook? a = none := by
  unfold World.subclassHook?
  dsimp only
  generalize hfound : List.findSome? _ _ = found
  cases found with
  | none => rfl
  | some hook =>
    obtain ⟨k, -, hk⟩ := List.exists_of_findSome?_eq_some hfound
    cases hi : w.described? k with
    | none =>
      simp only [hi] at hk
      split at hk <;> cases hk
      rfl
    | some i =>
      have hnone : i.attribute? subclassHookName = none := h.attribute? (by simp [testingNames]) hi
      simp [hi, hnone] at hk

theorem StaysOut.judges (h : w.StaysOut) : w.Judges := by
  intro a k f hf
  simp [verdict?, h.subclassHook?] at hf

theorem StaysOut.attributeOf (h : w.StaysOut) (v : Value) (name : String) :
    w.attributeOf (Thing.ofValue v) name = w.plainAttribute (Thing.ofValue v) name := by
  cases v with
  | object c number content =>
    exact attributeOf_of_uncustomized (h.customized? (by simp [testingNames]))
      (h.customized? (by simp [testingNames]))
  | _ => exact attributeOf_of_native rfl name

theorem StaysOut.statedClass? (h : w.StaysOut) (c : ClassName) : w.statedClass? c = none := by
  apply List.findSome?_eq_none_iff.mpr
  intro k _
  cases hi : w.described? k with
  | none => rfl
  | some i =>
    have hclass : i.attribute? "__class__" = none := h.attribute? (by simp [testingNames]) hi
    simp [hclass]

/-- Where no class has a say in tests, nothing comes between any value and the answer. -/
theorem StaysOut.settles (h : w.StaysOut) (v : Value) : w.Settles v :=
  settles_of_plainly h.judges (h.attributeOf v) (h.statedClass? _)

theorem StaysOut.namedClass? (h : w.StaysOut) (v : Value) :
    w.namedClass? v = .ok (some (w.classOf v)) :=
  namedClass?_of_plainly (h.attributeOf v) (h.statedClass? _)

theorem isInstance_of_isTruth (h : w.isTruth v = .ok false) :
    w.isInstance v t = w.isInstanceOf v t.boxed := by
  simp [isInstance, h, bind, Except.bind]

/-! Nothing that a test runs fails as a routine refuses a call. -/

theorem unrefused_run' {α : Type} {x : Making α} {s : Store} :
    Unrefused (x.run' s) ↔ Unrefused (x.run s) := by
  rw [StateT.run'_eq, unrefused_fmap]

theorem unrefused_construct : w.construct.Unrefused := unrefused_constructWith depthLimit

theorem unrefused_plainAttribute (thing : Thing) (name : String) :
    Unrefused (w.plainAttribute thing name) := by
  unfold plainAttribute
  split <;> simp

theorem unrefused_attributeOf (thing : Thing) (name : String) :
    Unrefused (w.attributeOf thing name) := by
  unfold attributeOf
  split
  · rename_i c number content
    have hask (a : Attribute) : Unrefused <|
        ((w.callAttribute w.construct c (.object c number content) [.str name] a).run' .empty).map
          Thing.ofValue := by
      rw [unrefused_map, unrefused_run']
      exact unrefused_callAttribute unrefused_construct _ _ _ _ _
    dsimp only
    split
    · rename_i f a hf _
      split
      · exact hask a
      · rw [unrefused_error]
        split at hf
        · exact hask _ f hf
        · exact unrefused_plainAttribute _ _ f hf
    · split
      · exact hask _
      · exact unrefused_plainAttribute _ _
  · exact unrefused_plainAttribute _ _

theorem unrefused_verdict? (a c : ClassName) : Unrefused (w.verdict? a c) := by
  unfold verdict?
  split
  · simp
  · rw [unrefused_bind]
    refine ⟨?_, fun v _ => ?_⟩
    · rw [unrefused_run']
      unfold callOnClass
      split
      case h_6 => simp
      case h_4 | h_5 => exact unrefused_construct _ _ _
      all_goals exact unrefused_call unrefused_construct _ _ _
    · split <;> simp

/-- What comes between a value and the answer of a test is no refusal of a call. -/
theorem Interferes.isRefusal (h : w.Interferes v f) : f.isRefusal = false := by
  have hnamed : Unrefused (w.namedClass? v) := by
    simp [World.namedClass?, unrefused_attributeOf]
  cases h with
  | asked h hf => exact unrefused_attributeOf _ _ f h
  | unnamed h => exact hnamed f h
  | noClass h => rfl
  | undecided h => exact unrefused_verdict? _ _ f h

theorem unrefused_isInstanceOf (v : Value) (c : ClassName) : Unrefused (w.isInstanceOf v c) := by
  intro f hf
  rcases error_of_isInstanceOf hf with ⟨rfl, -⟩ | hinterferes
  · rfl
  · exact hinterferes.isRefusal

theorem unrefused_isInstance (v : Value) (t : TypeRef) : Unrefused (w.isInstance v t) := by
  unfold isInstance
  rw [unrefused_bind]
  refine ⟨?_, fun b _ => ?_⟩
  · cases v with
    | object c number content => exact unrefused_isInstanceOf _ _
    | _ => simp [isTruth]
  · simp [unrefused_isInstanceOf]

end World

end Overloads
