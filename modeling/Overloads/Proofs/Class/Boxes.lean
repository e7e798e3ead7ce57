import Overloads.Proofs.Class.Invariant
import Overloads.Proofs.Class.Name
import Overloads.Proofs.Class.Testability

/-! Whatever a program defines, the classes that primitives are boxed in stay native. -/
namespace Overloads

variable {w w' : World} {s s' : Store}

/-- The modules of the classes that primitives are boxed in. -/
def boxModules : List (List String) := [ClassName.builtinModule, Primitive.boxModule]

theorem boxed_module_mem (p : Primitive) : p.boxed.module ∈ boxModules := by
  cases p <;> decide

theorem World.KeepsBoxes.cons {i : ClassInfo} (hw : w.KeepsBoxes)
    (hi : i.name.module ∉ boxModules) :
    World.KeepsBoxes { w with classes := i :: w.classes } := by
  intro p
  have hne : i.name ≠ p.boxed := by
    intro h
    exact hi (h ▸ boxed_module_mem p)
  have hold := hw p
  simpa [World.described?, hne] using hold

/-- The full paths of the classes that primitives are boxed in. -/
def boxPaths : List String := [
  "tortilla.types.Byte", "tortilla.types.Short", "tortilla.types.Integer", "tortilla.types.Float",
  "tortilla.types.Character", "builtins.int", "builtins.float", "builtins.bool", "builtins.object"]

theorem fullPath_boxed (p : Primitive) : p.boxed.fullPath ∈ boxPaths := by
  cases p <;> simp [Primitive.boxed, ClassName.fullPath, ClassName.builtin, ClassName.object,
    ClassName.builtinModule, Primitive.boxModule, dotted, boxPaths]

theorem listed_paths : ∀ l ∈ Installed.listings,
    l.name ∉ boxPaths ∧ "builtins." ++ l.name ∉ boxPaths := by
  simp [Installed.listings, boxPaths]

theorem installed_names : ∀ i ∈ Installed.classes, i.name.fullPath ∉ boxPaths := by
  intro i hi
  rcases List.mem_append.mp hi with hlisted | hforeign
  · obtain ⟨l, hl, rfl⟩ := List.mem_map.mp hlisted
    obtain ⟨hplain, hbuiltin⟩ := listed_paths l hl
    rcases fullPath_ofText Installed.packageModules l.name with hpath | hpath
    · simpa [Installed.Listing.info, Installed.Listing.className, Installed.className, hpath]
        using hplain
    · simpa [Installed.Listing.info, Installed.Listing.className, Installed.className, hpath]
        using hbuiltin
  · simp only [Installed.foreignInfos, List.map_cons, List.map_nil, List.mem_cons, List.not_mem_nil,
      or_false] at hforeign
    rcases hforeign with rfl | rfl
    · simp [Native.enumeration, ClassName.fullPath, dotted, boxPaths]
    · rcases fullPath_ofText Installed.packageModules "pydantic.main.BaseModel" with
        hpath | hpath <;>
        simp [Installed.className, hpath, boxPaths]

theorem keepsBoxes_initial : World.initial.KeepsBoxes := by
  intro p
  apply List.find?_eq_none.mpr
  intro i hi hname
  apply installed_names i hi
  rw [of_decide_eq_true hname]
  exact fullPath_boxed p

theorem keepsBoxes_of_classes (h : w'.classes = w.classes) (hw : w.KeepsBoxes) : w'.KeepsBoxes := by
  intro p
  rw [World.described?, h]
  exact hw p

/-- Modules other than those of the boxes add no class to theirs. -/
theorem kept_keepsBoxes {module : List String} (h : module ∉ boxModules) :
    Kept module (fun _ => True) World.KeepsBoxes fun _ => True where
  entry := keepsBoxes_of_classes
  addition hw _ hadd := by
    obtain ⟨i, rfl, hname, -⟩ := addClass_ok hadd
    apply hw.cons
    rw [hname]
    exact h
  start := trivial
  function _ _ _ := trivial
  data _ _ := trivial
  shared _ _ := trivial
  hint _ := trivial

/-- Modules other than those of the boxes make a world that keeps them. -/
theorem keepsBoxes_defineModules {ms : List ModuleText} (hms : ∀ m ∈ ms, m.name ∉ boxModules)
    (h : (World.defineModules ms).run s = .ok (w, s')) : w.KeepsBoxes :=
  Kept.defineModules (fun m hm => kept_keepsBoxes (hms m hm)) (fun _ _ _ _ _ _ => trivial)
    keepsBoxes_initial h

theorem keepsBoxes_settledBy (hw : w.KeepsBoxes) : (w.settledBy s).KeepsBoxes := by
  intro p
  have hold := hw p
  apply List.find?_eq_none.mpr
  intro i hi
  obtain ⟨i₀, hi₀, rfl⟩ := List.mem_map.mp hi
  have hname := List.find?_eq_none.mp hold i₀ hi₀
  split <;> exact hname

end Overloads
