import Overloads.Proofs.Class.WellFormed

/-! No class that a program defines has two attributes of one name. -/
namespace Overloads

variable {w w' : World} {c : ClassName} {i : ClassInfo} {s s' : Store} {body : ClassBody}

def ClassInfo.NamesOnce (i : ClassInfo) : Prop := (i.attributes.map (·.1)).Nodup

def World.NamesOnce (w : World) : Prop := ∀ i ∈ w.classes, i.NamesOnce

theorem ClassInfo.WellFormed.namesOnce (h : i.WellFormed) : i.NamesOnce := h.entries.1

theorem World.WellFormed.namesOnce (hw : w.WellFormed) : w.NamesOnce :=
  fun i hi => (hw i hi).namesOnce

theorem World.NamesOnce.info (hw : w.NamesOnce) (h : w.info? c = some i) : i.NamesOnce := by
  unfold World.info? at h
  split at h
  · rename_i found hfound
    cases h
    exact hw _ (List.mem_of_find?_eq_some hfound)
  · exact (wellFormed_native h).namesOnce

theorem namesOnce_addClass {bases : List ClassName} {protocol : Option ProtocolKind}
    (hw : w.NamesOnce) (hbody : (body.attributes.map (·.1)).Nodup)
    (h : w.addClass c bases protocol body = .ok w') : w'.NamesOnce := by
  obtain ⟨i, rfl, -, -, hattributes⟩ := addClass_ok h
  have hfinish : (body.finish.map (·.1)).Nodup := by
    rw [names_finish]
    exact hbody
  intro k hk
  rcases List.mem_cons.mp hk with rfl | hold
  · rcases hattributes with hplain | ⟨hnew, hrefusal⟩
    · rw [ClassInfo.NamesOnce, hplain]
      exact hfinish
    · rw [ClassInfo.NamesOnce, hrefusal]
      exact nodup_append_new hfinish (not_mem_of_lookup hnew) _
  · exact hw k hold

theorem kept_namesOnce (module : List String) :
    Kept module (fun _ => True) World.NamesOnce fun body => (body.attributes.map (·.1)).Nodup where
  entry h hw := by
    intro i hi
    rw [h] at hi
    exact hw i hi
  addition hw hbody hadd := namesOnce_addClass hw hbody hadd
  start := List.nodup_nil
  function := by
    intro w scope body body' f s s' hbody _ h
    unfold World.defineFunction at h
    rw [run_bind_eq_ok] at h
    obtain ⟨overloads, s₁, -, h⟩ := h
    rw [run_bind_eq_ok] at h
    obtain ⟨implementation, s₂, -, h⟩ := h
    cases h
    exact nodup_setEntry hbody _ _
  data hbody _ := nodup_setEntry hbody _ _
  shared hbody _ := nodup_setEntry hbody _ _
  hint hbody := hbody

theorem namesOnce_defineModules {ms : List ModuleText}
    (h : (World.defineModules ms).run s = .ok (w, s')) : w.NamesOnce :=
  Kept.defineModules (fun m _ => kept_namesOnce m.name) (fun _ _ _ _ _ _ => trivial)
    wellFormed_initial.namesOnce h

/-- An initializer that a class gets later takes the place of the one it had. -/
theorem namesOnce_settledBy (hw : w.NamesOnce) (s : Store) : (w.settledBy s).NamesOnce := by
  intro i hi
  obtain ⟨old, hold, rfl⟩ := List.mem_map.mp hi
  split
  · exact nodup_setEntry (hw old hold) _ _
  · exact hw old hold

end Overloads
