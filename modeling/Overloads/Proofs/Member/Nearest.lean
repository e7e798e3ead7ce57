import Overloads.Proofs.Member.Attributes

/-! The methods of a class follow the look-up of their names. -/
namespace Overloads

variable {w : World} {c k holder : ClassName} {name : String} {a : Attribute} {m : Member}

theorem owner_of_attribute (h : m ∈ (w.reflectAttribute c holder name a).members) :
    m.owner = holder := by
  obtain ⟨r, -, source, -, shown, -, shape, -, rfl⟩ := mem_reflectAttribute h
  rfl

namespace World

end World

theorem mem_methods (hw : w.NamesOnce) (h : m ∈ w.methods c) :
    World.isPublic m.name = true ∧ ∃ a, w.nearest? c m.name = some (m.owner, a) := by
  rw [World.methods, World.reflectedMethods, List.flatMap_map] at h
  obtain ⟨⟨k, n, a⟩, hvisible, hm⟩ := List.mem_flatMap.mp h
  obtain ⟨hvisible, hpublic⟩ := List.mem_filter.mp hvisible
  have hnearest : (k, n, a) ∈ (w.visible c).filter (·.2.1 = n) :=
    List.mem_filter.mpr ⟨hvisible, by simp⟩
  rw [filter_visible hw hpublic] at hnearest
  obtain ⟨⟨j, b⟩, hj, heq⟩ := List.mem_map.mp hnearest
  cases heq
  rw [name_of_attribute hm, owner_of_attribute hm]
  exact ⟨hpublic, a, Option.mem_toList.mp hj⟩

end Overloads
