import Overloads.Class.Shape
import Overloads.Proofs.Instance.Testing

/-! Types that every value can be tested for. -/
namespace Overloads

variable {w : World} {c : ClassName} {t : TypeRef} {v : Value} {f : Failure}

/-- That a test for the type has an answer whatever the value. -/
def World.Testable (w : World) (t : TypeRef) : Prop := ∀ v, ∃ b, w.isInstance v t = .ok b

/-- That a test for the type has an answer for every value, as far as nothing comes between. -/
def World.Decides (w : World) (t : TypeRef) : Prop :=
  ∀ v, w.Settles v → ∃ b, w.isInstance v t = .ok b

/-- That no described class takes the place of a class that primitives are boxed in. -/
def World.KeepsBoxes (w : World) : Prop := ∀ p : Primitive, w.described? p.boxed = none

theorem info?_of_native (h : w.described? c = none) :
    w.info? c = (Native.rows.find? (·.name = c)).map Native.Row.info := by
  simp [World.info?, h, Native.info?]

/-- Native classes are no protocols, but for the topmost one. -/
theorem isProtocol_of_native (h : w.described? c = none) (hc : c ≠ Native.protocolClass) :
    w.isProtocol c = false := by
  cases hrow : Native.rows.find? (·.name = c) with
  | none => simp [World.isProtocol, info?_of_native h, hrow]
  | some row =>
    have hname : row.name = c := by simpa using List.find?_some hrow
    simp [World.isProtocol, info?_of_native h, hrow, Native.Row.info, hname, hc]

theorem canTest_of_native (h : w.described? c = none) (hc : c ≠ Native.protocolClass) :
    w.canTest c = true := by
  have hprotocol := isProtocol_of_native h hc
  cases hi : w.info? c with
  | none => simp [World.canTest, hi]
  | some i => simp_all [World.isProtocol, World.canTest, ClassInfo.isCheckable]

theorem isTypedDict_of_native (h : w.described? c = none) : w.isTypedDict c = false := by
  cases hrow : Native.rows.find? (·.name = c) <;>
    simp [World.isTypedDict, info?_of_native h, hrow, Native.Row.info]

theorem isTypedDict_of_classes (h : ∀ i ∈ w.classes, i.isTypedDict = false) (c : ClassName) :
    w.isTypedDict c = false := by
  cases hi : w.described? c with
  | none => exact isTypedDict_of_native hi
  | some i => simp [World.isTypedDict, World.info?, hi, h i (List.mem_of_find?_eq_some hi)]

theorem boxed_ne_protocolClass (p : Primitive) : p.boxed ≠ Native.protocolClass := by
  cases p <;> decide

theorem canTest_boxed (hw : w.KeepsBoxes) (p : Primitive) : w.canTest p.boxed = true :=
  canTest_of_native (hw p) (boxed_ne_protocolClass p)

theorem isTypedDict_boxed (hw : w.KeepsBoxes) (p : Primitive) : w.isTypedDict p.boxed = false :=
  isTypedDict_of_native (hw p)

/--
That a test for a class asks what lies below it: the class is no typed dictionary and no protocol, and lies
below none and below no abstract class.
-/
structure World.TestsByOrder (w : World) (c : ClassName) : Prop where
  dict : w.isTypedDict c = false
  protocol : w.isProtocol c = false
  belowProtocol : w.isBelowProtocol c = false
  belowAbstract : w.isBelowAbstract c = false
  self : w.isSubclass c c = true

/-- Native classes are tested for in this way whose own order says so. -/
theorem testsByOrder_of_native (h : w.described? c = none)
    (horder : (Native.info? c).any (fun i => i.linearization.contains c &&
      !i.linearization.contains Native.protocolClass &&
      !i.linearization.any fun k =>
        k.module = Native.collectionModule || k.module = Native.numberModule) = true) :
    w.TestsByOrder c := by
  have hprotocolClass : c ≠ Native.protocolClass := by
    rintro rfl
    revert horder
    decide
  cases hi : Native.info? c with
  | none => simp [hi] at horder
  | some i =>
    have hinfo : w.info? c = some i := by simp [World.info?, h, hi]
    simp only [hi, Option.any_some, Bool.and_eq_true, Bool.not_eq_true'] at horder
    obtain ⟨⟨hself, hprotocol⟩, habstract⟩ := horder
    exact {
      dict := isTypedDict_of_native h
      protocol := isProtocol_of_native h hprotocolClass
      belowProtocol := by rw [World.isBelowProtocol, World.linearization, hinfo, hprotocol]
      belowAbstract := by rw [World.isBelowAbstract, World.linearization, hinfo, habstract]
      self := by rw [World.isSubclass, World.linearization, hinfo, hself] }

/-- A value that names its own class is an instance of what that lies below. -/
theorem isInstanceOf_of_named (hc : w.TestsByOrder c)
    (hnamed : w.namedClass? v = .ok (some (w.classOf v))) :
    w.isInstanceOf v c = .ok (w.isSubclass (w.classOf v) c) := by
  rw [World.isInstanceOf]
  by_cases hsame : w.classOf v = c
  · rw [if_pos hsame, hsame, hc.self]
  · cases hsub : w.isSubclass (w.classOf v) c <;>
      simp [hsame, hc.dict, hc.protocol, hc.belowProtocol, hc.belowAbstract, World.namesBelow, hnamed,
        hsub]

theorem testsByOrder_boxed (hw : w.KeepsBoxes) (p : Primitive) : w.TestsByOrder p.boxed :=
  testsByOrder_of_native (hw p) (by cases p <;> decide)

/-- A value that names its own class passes for a truth value if that class is below theirs. -/
theorem isTruth_of_named {number : Nat} {content : Option Value} (hw : w.KeepsBoxes)
    (h : w.namedClass? (.object c number content) = .ok (some c)) :
    w.isTruth (.object c number content) = .ok (w.isSubclass c (.builtin "bool")) :=
  isInstanceOf_of_named (testsByOrder_boxed hw .boolean) h

/-- A test for a type fails because of the class that stands for it, or because of what it asks of others. -/
theorem error_of_isInstance (hw : w.KeepsBoxes) (h : w.isInstance v t = .error f) :
    f = .notTestable ∧ (w.isTypedDict t.boxed = true ∨ w.canTest t.boxed = false) ∨
      w.Interferes v f := by
  rcases Except.bind_eq_error.mp h with htruth | ⟨b, -, h⟩
  · cases v with
    | object c number content =>
      rcases World.error_of_isInstanceOf htruth with ⟨-, hdict | htest⟩ | hinterferes
      · exact absurd hdict (Bool.eq_false_iff.mp (isTypedDict_boxed hw .boolean))
      · exact absurd (canTest_boxed hw .boolean) (Bool.eq_false_iff.mp htest)
      · exact .inr hinterferes
    | _ => cases htruth
  · split at h
    · cases h
    · exact World.error_of_isInstanceOf h

theorem decides_of_canTest (hw : w.KeepsBoxes) (hdict : w.isTypedDict t.boxed = false)
    (h : w.canTest t.boxed = true) : w.Decides t := by
  intro v hv
  cases hresult : w.isInstance v t with
  | ok b => exact ⟨b, rfl⟩
  | error f =>
    rcases error_of_isInstance hw hresult with ⟨-, hrefuses⟩ | hinterferes
    · simp [hdict, h] at hrefuses
    · exact (hv f hinterferes).elim

theorem testable_of_decides (hs : ∀ v, w.Settles v) (h : w.Decides t) : w.Testable t :=
  fun v => h v (hs v)

theorem decides_primitive (hw : w.KeepsBoxes) (p : Primitive) : w.Decides (.primitive p) :=
  decides_of_canTest hw (isTypedDict_boxed hw p) (canTest_boxed hw p)

/-- A value of another class has no answer where the class cannot be tested for. -/
theorem isInstanceOf_of_not_canTest (h : w.isTypedDict c = true ∨ w.canTest c = false)
    (hk : w.classOf v ≠ c) : w.isInstanceOf v c = .error .notTestable := by
  rw [World.isInstanceOf, if_neg hk]
  cases hdict : w.isTypedDict c with
  | true => rfl
  | false =>
    have htest : w.canTest c = false := by simpa [hdict] using h
    cases hi : w.info? c with
    | none => simp [World.canTest, hi] at htest
    | some i =>
      obtain ⟨hprotocol, hruntime⟩ : i.isProtocol = true ∧ i.runtimeCheckable = false := by
        simpa [World.canTest, hi, ClassInfo.isCheckable] using htest
      simp [World.isProtocol, hi, hprotocol, hruntime]

theorem statedClass?_boxed (hw : w.KeepsBoxes) {p : Primitive}
    (hp : (Native.info? p.boxed).map (·.linearization) = some [p.boxed, .object]) :
    w.statedClass? p.boxed = none := by
  obtain ⟨i, hi, hline⟩ := Option.map_eq_some_iff.mp hp
  have hlinearization : w.linearization p.boxed = [p.boxed, .object] := by
    simp [World.linearization, World.info?, hw p, hi, hline]
  have hobject : w.described? .object = none := hw .void
  simp [World.statedClass?, hlinearization, hw p, hobject]

/-- Whatever the class, there is a number of another one whose test nothing comes between. -/
theorem exists_other (hw : w.KeepsBoxes) (hj : w.Judges) (c : ClassName) :
    ∃ v, w.Settles v ∧ w.classOf v ≠ c ∧ w.isInstance v (.reference c) = w.isInstanceOf v c := by
  by_cases hint : w.classOf (.int 0) = c
  · refine ⟨.float .nan, ?_, ?_, rfl⟩
    · exact World.settles_of_plainly hj (World.attributeOf_of_native rfl) (statedClass?_boxed (p := .double) hw rfl)
    · rw [← hint]
      simp [World.classOf, ClassName.builtin]
  · exact ⟨.int 0, World.settles_of_plainly hj (World.attributeOf_of_native rfl)
      (statedClass?_boxed (p := .long) hw rfl), hint, rfl⟩

theorem exists_notTestable (hw : w.KeepsBoxes) (hj : w.Judges)
    (h : w.isTypedDict c = true ∨ w.canTest c = false) :
    ∃ v, w.Settles v ∧ w.isInstance v (.reference c) = .error .notTestable := by
  obtain ⟨v, hsettles, hk, hv⟩ := exists_other hw hj c
  exact ⟨v, hsettles, by rw [hv, isInstanceOf_of_not_canTest h hk]⟩

theorem decides_reference_iff (hw : w.KeepsBoxes) (hj : w.Judges) :
    w.Decides (.reference c) ↔ w.isTypedDict c = false ∧ w.canTest c = true := by
  constructor
  · intro h
    refine Decidable.not_not.mp fun hnot => ?_
    have hrefuses : w.isTypedDict c = true ∨ w.canTest c = false := by
      cases hdict : w.isTypedDict c <;> simp_all
    obtain ⟨v, hsettles, hv⟩ := exists_notTestable hw hj hrefuses
    obtain ⟨b, hb⟩ := h v hsettles
    cases hv.symm.trans hb
  · exact fun h => decides_of_canTest hw h.1 h.2

theorem canTest_of_checkable (h : ∀ i ∈ w.classes, i.isCheckable = true)
    (hc : c ≠ Native.protocolClass) : w.canTest c = true := by
  cases hi : w.described? c with
  | none => exact canTest_of_native hi hc
  | some i =>
    have hcheck := h i (List.mem_of_find?_eq_some hi)
    simp [World.canTest, World.info?, hi, hcheck]

/-- A class is replaced where it cannot be tested for, and then by one that can. -/
theorem canTest_checkable (hw : w.KeepsBoxes) (c : ClassName) :
    w.canTest (w.checkable c) = true := by
  have hobject : w.canTest .object = true := canTest_boxed hw .void
  cases hi : w.info? c with
  | none => simp [World.checkable, World.canTest, hi]
  | some i =>
    cases hcheck : i.isCheckable with
    | true => simp [World.checkable, World.canTest, hi, hcheck]
    | false => simpa [World.checkable, hi, hcheck] using hobject

/-- Whatever the annotation says, its type can be tested for. -/
theorem canTest_type (hw : w.KeepsBoxes) (a : Annotation) :
    w.canTest (a.type w.checkable).boxed = true := by
  fun_induction Annotation.type w.checkable a with
  | case1 | case2 | case3 | case4 | case5 => exact canTest_boxed hw .void
  | case6 => exact canTest_boxed hw .void
  | case7 => exact canTest_boxed hw .void
  | case8 c => exact canTest_checkable hw c
  | case9 base metadata p => exact canTest_boxed hw p
  | case10 base metadata _ ih => exact ih
  | case11 head => exact canTest_checkable hw (genericOrigin head)

variable {s : ShownSignature} {shape : Shape}

/-- The types of the positional arguments that a shape takes. -/
def Shape.types (shape : Shape) : List TypeRef := shape.params ++ shape.varargs.toList

theorem canTest_shape (hw : w.KeepsBoxes) (h : shape ∈ s.shapes w.checkable) :
    ∀ t ∈ shape.types, w.canTest t.boxed = true := by
  unfold ShownSignature.shapes at h
  split at h
  · cases h
  · have hdeclared : ∀ t ∈ s.positional.map (·.hint.type w.checkable),
        w.canTest t.boxed = true := by
      intro t ht
      obtain ⟨p, -, rfl⟩ := List.mem_map.mp ht
      exact canTest_type hw p.hint
    intro t ht
    rcases List.mem_append.mp h with hshorter | hfull
    · obtain ⟨count, -, rfl⟩ := List.mem_map.mp hshorter
      have htake : t ∈ (s.positional.map (·.hint.type w.checkable)).take count := by
        simpa [Shape.types] using ht
      exact hdeclared t (List.mem_of_mem_take htake)
    · obtain rfl := List.mem_singleton.mp hfull
      rcases List.mem_append.mp ht with hparam | hvarargs
      · exact hdeclared t hparam
      · cases hv : s.variadic? with
        | none => simp [hv] at hvarargs
        | some p =>
          obtain rfl : t = p.hint.type w.checkable := by simpa [hv] using hvarargs
          exact canTest_type hw p.hint

end Overloads
