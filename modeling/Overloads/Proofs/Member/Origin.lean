import Overloads.Member.Reflection

/-! Every member of a class comes from a shape of a signature that reflection reads. -/
namespace Overloads

variable {w : World} {c holder : ClassName} {name : String} {a : Attribute} {m : Member}

/-- The member that a shape of an attribute gives. -/
def Reading.member (r : Reading) (c holder : ClassName) (name : String) (s : Shape) : Member where
  name := name
  kind := .method
  declared := r.receiver ++ s.params
  returns := s.returns
  owner := holder
  target := r.target
  path := c.text ++ "." ++ name
  varargs := s.varargs
  isStatic := r.isStatic

/-- The member that a shape of a constructor gives. -/
def ClassName.constructorMember (c : ClassName) (s : Shape) : Member where
  name := c.simpleName
  kind := .constructor
  declared := s.params
  returns := .reference c
  owner := c
  target := .construct c
  path := c.text
  varargs := s.varargs
  isStatic := true

/-- A function without a guise shows its own signature. -/
theorem Function.source_of_plain {f : Function} (hguise : f.guise = none) (target : String) :
    f.source target = .of target f.postponed f.implementation := by
  rw [Function.source, hguise]

theorem mem_reflectAttribute (h : m ∈ (w.reflectAttribute c holder name a).members) :
    ∃ r, a.reading? c holder name = some r ∧
      ∃ source ∈ r.sources, ∃ shown, source.shown = some shown ∧
        ∃ shape ∈ (if r.dropsReceiver then shown.withoutReceiver else shown).shapes w.checkable,
          m = r.member c holder name shape := by
  unfold World.reflectAttribute at h
  split at h
  · cases h
  · rename_i r hr
    obtain ⟨shape, hshape, rfl⟩ := List.mem_map.mp h
    obtain ⟨shapes, hshapes, hshape⟩ := List.mem_flatten.mp hshape
    obtain ⟨shown, hshown, rfl⟩ := List.mem_map.mp hshapes
    obtain ⟨source, hsource, hshown⟩ := List.mem_filterMap.mp hshown
    exact ⟨r, hr, source, hsource, shown, hshown, shape, hshape, rfl⟩

theorem mem_constructors (h : m ∈ w.constructors c) :
    ∃ shown : ShownSignature, ∃ shape ∈ shown.shapes w.checkable,
      m = c.constructorMember shape := by
  obtain ⟨shown, -, hm⟩ := List.mem_flatMap.mp h
  obtain ⟨shape, hshape, rfl⟩ := List.mem_map.mp hm
  exact ⟨shown, shape, hshape, rfl⟩

theorem name_of_attribute (h : m ∈ (w.reflectAttribute c holder name a).members) :
    m.name = name := by
  obtain ⟨r, -, source, -, shown, -, shape, -, rfl⟩ := mem_reflectAttribute h
  rfl

theorem name_of_constructor (h : m ∈ w.constructors c) : m.name = c.simpleName := by
  obtain ⟨shown, shape, -, rfl⟩ := mem_constructors h
  rfl

theorem target_of_constructor (h : m ∈ w.constructors c) : m.target = .construct c := by
  obtain ⟨shown, shape, -, rfl⟩ := mem_constructors h
  rfl

end Overloads
