import Overloads.Proofs.Class.Testability
import Overloads.Proofs.Member.Origin

/-! Of the types in a reflected member, only that of a receiver may be one that cannot be tested. -/
namespace Overloads

variable {w : World} {c holder : ClassName} {m : Member} {name : String} {a : Attribute}

/-- The types that the arguments of a member are tested for. -/
def Member.testedTypes (m : Member) : List TypeRef := m.declared ++ m.varargs.toList

theorem Member.mem_testedTypes {t : TypeRef} {n : Nat} (h : t ∈ m.parameterTypes n) :
    t ∈ m.testedTypes := by
  rcases List.mem_append.mp h with hdeclared | hfurther
  · exact List.mem_append_left _ (List.mem_of_mem_take hdeclared)
  · cases hv : m.varargs with
    | none => simp [hv] at hfurther
    | some element =>
      obtain ⟨-, rfl⟩ : _ ∧ t = element := by simpa [hv] using hfurther
      exact List.mem_append_right _ (by simp [hv])

/-- What a member takes in front of its parameters. -/
def Member.receiver (m : Member) : List TypeRef := if m.isStatic then [] else [.reference m.owner]

/-- That a member is made of a receiver, if it has one, and a shape with types to be tested for. -/
def Member.Reflects (w : World) (m : Member) : Prop :=
  ∃ params, m.declared = m.receiver ++ params ∧
    ∀ t ∈ params ++ m.varargs.toList, w.canTest t.boxed = true

/-- An attribute with signatures is read with its holder as the receiver, or without any. -/
theorem receiver_of_reading {r : Reading} (h : a.reading? c holder name = some r)
    (hsources : r.sources ≠ []) :
    r.receiver = if r.isStatic then [] else [.reference holder] := by
  unfold Attribute.reading? at h
  split at h
  case h_2 =>
    split at h <;> cases h <;> rfl
  all_goals cases h
  all_goals first | rfl | exact absurd rfl hsources

theorem reflects_of_attribute (hw : w.KeepsBoxes)
    (h : m ∈ (w.reflectAttribute c holder name a).members) : m.Reflects w := by
  obtain ⟨r, hr, source, hsource, shown, -, shape, hshape, rfl⟩ := mem_reflectAttribute h
  refine ⟨shape.params, ?_, canTest_shape hw hshape⟩
  have hreceiver := receiver_of_reading hr (List.ne_nil_of_mem hsource)
  simp [Reading.member, Member.receiver, hreceiver]

theorem reflects_of_constructor (hw : w.KeepsBoxes) (h : m ∈ w.constructors c) : m.Reflects w := by
  obtain ⟨shown, shape, hshape, rfl⟩ := mem_constructors h
  exact ⟨shape.params, rfl, canTest_shape hw hshape⟩

theorem reflects_of_mem (hw : w.KeepsBoxes) (h : m ∈ w.members c) : m.Reflects w := by
  rcases List.mem_append.mp h with hconstructor | hmethod
  · exact reflects_of_constructor hw hconstructor
  · obtain ⟨reflected, hreflected, hm⟩ := List.mem_flatMap.mp hmethod
    obtain ⟨⟨k, n, a⟩, -, rfl⟩ := List.mem_map.mp hreflected
    exact reflects_of_attribute hw hm

/-- All types of a reflected member can be tested for unless its receiver cannot. -/
theorem Member.Reflects.testable (h : m.Reflects w)
    (howner : m.isStatic = false → w.canTest m.owner = true) :
    ∀ t ∈ m.testedTypes, w.canTest t.boxed = true := by
  obtain ⟨params, hdeclared, hparams⟩ := h
  intro t ht
  rw [Member.testedTypes, hdeclared, List.append_assoc] at ht
  rcases List.mem_append.mp ht with hreceiver | hparam
  · cases hstatic : m.isStatic with
    | true => simp [Member.receiver, hstatic] at hreceiver
    | false =>
      obtain rfl : t = .reference m.owner := by simpa [Member.receiver, hstatic] using hreceiver
      exact howner hstatic
  · exact hparams t hparam

theorem Member.Reflects.declared_of_method (h : m.Reflects w) (hmethod : m.isStatic = false) :
    ∃ params, m.declared = .reference m.owner :: params := by
  obtain ⟨params, hdeclared, -⟩ := h
  exact ⟨params, by simpa [Member.receiver, hmethod] using hdeclared⟩

end Overloads
