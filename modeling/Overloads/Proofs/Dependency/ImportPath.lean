import Mathlib.Data.List.Induction
import Overloads.Dependency.Installation

/-! What installations, one after another, make of the import path. -/
namespace Overloads

variable {p : ImportPath} {interpreter target d : String} {i : Installation}
variable {is earlier later : List Installation} {cs : List Coordinate} {o : InstallerOutcome}

namespace ImportPath

theorem mem_add : d ∈ p.add target ↔ d ∈ p ∨ d = target := by
  rw [add]
  split <;> rename_i h
  · have htarget : target ∈ p := by simpa using h
    refine ⟨.inl, ?_⟩
    rintro (hd | rfl)
    · exact hd
    · exact htarget
  · rw [List.mem_cons, or_comm]

/-- A directory is in front then if it was nowhere before, or in front already. -/
theorem head?_add :
    (p.add target).head? = some target ↔ target ∉ p ∨ p.head? = some target := by
  rw [add]
  split <;> rename_i h
  · have htarget : target ∈ p := by simpa using h
    simp [htarget]
  · have htarget : target ∉ p := by simpa using h
    simp [htarget]

theorem count_add : (p.add target).count target = max 1 (p.count target) := by
  rw [add]
  split <;> rename_i h
  · have hpos : 0 < p.count target := List.count_pos_iff.mpr (by simpa using h)
    omega
  · have hzero : p.count target = 0 := List.count_eq_zero.mpr (by simpa using h)
    rw [List.count_cons_self, hzero]
    rfl

theorem filter_add : (p.add target).filter (· ≠ target) = p.filter (· ≠ target) := by
  rw [add]
  split
  · rfl
  · exact List.filter_cons_of_neg (by simp)

end ImportPath

namespace Installation

/-- The installer runs and ends well. -/
def Succeeds (interpreter : String) (i : Installation) : Prop :=
  ∃ o, i.run (i.command interpreter) = .ok o ∧ o.reason? = none

theorem lift_ok_bind {α β : Type} (a : α) (f : α → OnImportPath β) :
    (liftM (Except.ok a : Except Failure α) : OnImportPath α) >>= f = f a := rfl

theorem perform_of_run (h : i.run (i.command interpreter) = .ok o) :
    (i.perform interpreter).run.run p =
      match p.install i.target i.dependencies o with
      | .ok q => (.ok i.target, q)
      | .error f => (.error f, p) := by
  rw [perform, h, lift_ok_bind, ImportPath.install]
  cases o.reason? <;> rfl

theorem perform_of_succeeds (h : i.Succeeds interpreter) :
    (i.perform interpreter).run.run p = (.ok i.target, p.add i.target) := by
  obtain ⟨o, hrun, hreason⟩ := h
  rw [perform_of_run hrun, ImportPath.install, hreason]

/-- A failure leaves the path as it was, whatever the installer failed with. -/
theorem perform_of_not_succeeds (h : ¬ i.Succeeds interpreter) :
    ∃ f, (i.perform interpreter).run.run p = (.error f, p) := by
  cases hrun : i.run (i.command interpreter) with
  | error f =>
    refine ⟨f, ?_⟩
    rw [perform, hrun]
    rfl
  | ok o =>
    cases hreason : o.reason? with
    | none => exact (h ⟨o, hrun, hreason⟩).elim
    | some reason =>
      rw [perform_of_run hrun, ImportPath.install, hreason]
      exact ⟨_, rfl⟩

/-- The import path after some installations, one after another. -/
def pathAfter (interpreter : String) (p : ImportPath) (is : List Installation) : ImportPath :=
  is.foldl (fun p i => ((i.perform interpreter).run.run p).2) p

theorem pathAfter_concat : pathAfter interpreter p (is ++ [i]) =
    ((i.perform interpreter).run.run (pathAfter interpreter p is)).2 := by
  rw [pathAfter, List.foldl_append]
  rfl

theorem pathAfter_concat_of_succeeds (h : i.Succeeds interpreter) :
    pathAfter interpreter p (is ++ [i]) = (pathAfter interpreter p is).add i.target := by
  rw [pathAfter_concat, perform_of_succeeds h]

theorem pathAfter_concat_of_not_succeeds (h : ¬ i.Succeeds interpreter) :
    pathAfter interpreter p (is ++ [i]) = pathAfter interpreter p is := by
  obtain ⟨f, hf⟩ := perform_of_not_succeeds (p := pathAfter interpreter p is) h
  rw [pathAfter_concat, hf]

/-- The directories on the path: those at first, and the targets of what was installed. -/
theorem mem_pathAfter : d ∈ pathAfter interpreter p is ↔
    d ∈ p ∨ ∃ i ∈ is, i.Succeeds interpreter ∧ i.target = d := by
  induction is using List.reverseRecOn with
  | nil => simp [pathAfter]
  | append_singleton is i ih =>
    by_cases h : i.Succeeds interpreter
    · rw [pathAfter_concat_of_succeeds h, ImportPath.mem_add, ih, or_assoc, eq_comm]
      simp [or_and_right, exists_or, h]
    · rw [pathAfter_concat_of_not_succeeds h, ih]
      simp [or_and_right, exists_or, h]

/--
One installation in a run of any number of them, on any import path. One that succeeds puts its target in
front unless the target is on the path already, that is, unless it was there at first or an earlier one of
the run was installed into it; then it is in front only if it was before. It counts once more only where
it was not there, and all other directories keep their places. One that fails changes nothing.
-/
theorem target_in_front_iff (interpreter : String) (p : ImportPath) (earlier : List Installation)
    (i : Installation) :
    (i.Succeeds interpreter →
      ((i.perform interpreter).run.run (pathAfter interpreter p earlier)).1 = .ok i.target ∧
      ((pathAfter interpreter p (earlier ++ [i])).head? = some i.target ↔
        (i.target ∉ p ∧ ∀ j ∈ earlier, j.Succeeds interpreter → j.target ≠ i.target) ∨
          (pathAfter interpreter p earlier).head? = some i.target) ∧
      (pathAfter interpreter p (earlier ++ [i])).count i.target =
        max 1 ((pathAfter interpreter p earlier).count i.target) ∧
      (pathAfter interpreter p (earlier ++ [i])).filter (· ≠ i.target) =
        (pathAfter interpreter p earlier).filter (· ≠ i.target)) ∧
    (¬ i.Succeeds interpreter →
      (∃ f, ((i.perform interpreter).run.run (pathAfter interpreter p earlier)).1 = .error f) ∧
      pathAfter interpreter p (earlier ++ [i]) = pathAfter interpreter p earlier) := by
  have hnew : i.target ∉ pathAfter interpreter p earlier ↔
      i.target ∉ p ∧ ∀ j ∈ earlier, j.Succeeds interpreter → j.target ≠ i.target := by
    rw [mem_pathAfter]
    simp only [not_or, not_exists, not_and]
  constructor
  · intro h
    rw [pathAfter_concat_of_succeeds h, perform_of_succeeds h, ← hnew]
    exact ⟨rfl, ImportPath.head?_add, ImportPath.count_add, ImportPath.filter_add⟩
  · intro h
    obtain ⟨f, hf⟩ := perform_of_not_succeeds (p := pathAfter interpreter p earlier) h
    exact ⟨⟨f, by rw [hf]⟩, pathAfter_concat_of_not_succeeds h⟩

/-- An installation into a directory that is on the path already, behind another one, leaves it there. -/
theorem old_target_stays_behind :
    ∃ first second : Installation, first.Succeeds "python" ∧ second.Succeeds "python" ∧
      ((first.perform "python").run.run (pathAfter "python" [] [first, second])).1 =
        .ok first.target ∧
      (pathAfter "python" [] [first, second, first]).head? ≠ some first.target := by
  refine ⟨⟨"/deps/a", [], fun _ => .ok (.exited 0 "")⟩, ⟨"/deps/b", [], fun _ => .ok (.exited 0 "")⟩,
    ⟨_, rfl, rfl⟩, ⟨_, rfl, rfl⟩, rfl, by decide⟩

end Installation

end Overloads
