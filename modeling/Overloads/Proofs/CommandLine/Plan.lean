import Overloads.Proofs.CommandLine.Independence

/-! What plans are made from, and what they generate for a class. -/
namespace Overloads

/-- Source is refused only to a hook that has no path. -/
theorem hookPath_of_render_eq_error {w : World} {hookPath : Option (Except (Option String) String)}
    {documented : Option (Option Int)} {rs : List Routine} {e : Failure}
    (h : render w hookPath documented rs = .error e) :
    ∃ shown, hookPath = some (.error shown) ∧ e = .notImportable shown := by
  match hookPath with
  | none => cases h
  | some (.ok path) => cases h
  | some (.error shown) =>
    refine ⟨shown, rfl, ?_⟩
    unfold render at h
    dsimp only at h
    split at h
    · cases h
      rfl
    · cases h

namespace CommandLine.Plan

variable {p : Plan} {s : Surroundings} {a : Arguments} {width : Option Int} {w : World}
variable {ambient : Ambient} {c : ClassName} {handles : List String}

theorem make_eq_ok : Plan.make s a width = .ok p ↔
    a.strays = [] ∧ a.classes ≠ [] ∧
    ∃ settings logging filter hookPath dependencies,
      telling isInvalidSettings (readSettings (s.settingsFile a.settingsFile) a width) =
        .ok (settings, logging) ∧
      telling isBadPattern (filterFor settings.included settings.excluded) = .ok filter ∧
      hookPathFor s.world settings.hook = .ok hookPath ∧
      telling isBadCoordinate (a.dependencies.mapM Coordinate.parse) = .ok dependencies ∧
      p = ⟨a.classes, a.membersOnly, settings, .ofText logging.level, logging.asObjects, filter.passes,
        hookPath, dependencies⟩ := by
  unfold Plan.make
  cases hstrays : a.strays with
  | cons stray rest => simp [throw, throwThe, MonadExceptOf.throw, bind, Except.bind]
  | nil =>
    cases hclasses : a.classes with
    | nil => simp [throw, throwThe, MonadExceptOf.throw, bind, Except.bind]
    | cons handle rest =>
      simp only [List.isEmpty_nil, List.isEmpty_cons, Bool.not_true, Bool.false_eq_true, if_false,
        Except.bind_eq_ok]
      constructor
      · rintro ⟨⟨settings, logging⟩, hsettings, filter, hfilter, hookPath, hhook, dependencies,
          hdependencies, hp⟩
        cases hp
        exact ⟨trivial, List.cons_ne_nil _ _, settings, logging, filter, hookPath, dependencies,
          hsettings, hfilter, hhook, hdependencies, rfl⟩
      · rintro ⟨-, -, settings, logging, filter, hookPath, dependencies, hsettings, hfilter, hhook,
          hdependencies, rfl⟩
        exact ⟨(settings, logging), hsettings, filter, hfilter, hookPath, hhook, dependencies,
          hdependencies, rfl⟩

theorem readSettings_classes (f : Settings.File) (a : Arguments) (handles : List String) :
    readSettings f { a with classes := handles } width = readSettings f a width := rfl

/-- For other classes the plan is the same, but for the classes. -/
theorem make_classes (h : Plan.make s a width = .ok p) (hne : handles ≠ []) :
    Plan.make s { a with classes := handles } width = .ok { p with classes := handles } := by
  obtain ⟨hstrays, -, settings, logging, filter, hookPath, dependencies, hsettings, hfilter, hhook,
    hdependencies, rfl⟩ := make_eq_ok.mp h
  refine make_eq_ok.mpr
    ⟨hstrays, hne, settings, logging, filter, hookPath, dependencies, ?_, hfilter, hhook, ?_, ?_⟩
  · rw [readSettings_classes]
    exact hsettings
  · exact hdependencies
  · dsimp only

theorem classes_of_make (h : Plan.make s a width = .ok p) : p.classes = a.classes := by
  obtain ⟨-, -, settings, logging, filter, hookPath, dependencies, -, -, -, -, rfl⟩ := make_eq_ok.mp h
  rfl

theorem dependencies_of_make (h : Plan.make s a width = .ok p) (hnone : a.dependencies = []) :
    p.dependencies = [] := by
  obtain ⟨-, -, settings, logging, filter, hookPath, dependencies, -, -, -, hparsed, rfl⟩ :=
    make_eq_ok.mp h
  rw [hnone] at hparsed
  cases hparsed
  rfl

/-- What is printed for a class, text by text. -/
def generated (p : Plan) (w : World) (a : Ambient) (c : ClassName) :
    Except Failure (List String) := do
  match ← generate w a w.members (.type c) p.options with
  | .listing l => l.descriptors a w.members
  | .routines rs =>
    let documented := if p.settings.documented then some (some p.settings.width) else none
    return [← render w p.hookPath documented rs]

theorem generated_listing (h : p.membersOnly = true) : p.generated w ambient c =
    .ok (((p.settings.order.getD .trust).select (.plain p.filter) (w.members c)).map (·.descriptor)) := by
  have hname := ofText_text (p.settings.order.getD .trust)
  have hmade : generate w ambient w.members (.type c) p.options =
      .ok (.listing ⟨c, ⟨some (.plain p.filter), some (p.settings.order.getD .trust).text⟩⟩) := by
    rw [options, generate, if_pos h, capture_explicit rfl hname]
    rfl
  simp only [generated, hmade, bind, Except.bind]
  rw [descriptors_explicit rfl hname]

theorem generated_routines (h : p.membersOnly = false) (w : World) (ambient : Ambient)
    (c : ClassName) : ∃ documented rs,
    p.generated w ambient c = (render w p.hookPath documented rs).map ([·]) := by
  have hname := ofText_text (p.settings.order.getD .trust)
  obtain ⟨rs, hrs, -⟩ := Routine.assembleAll_eq
    ((p.settings.order.getD .trust).select (.plain p.filter) (w.members c)) false p.settings.namePrefix
  have hmade : generate w ambient w.members (.type c) p.options = .ok (.routines rs) := by
    rw [options, generate, if_neg (by simp [h]), assembleClass_explicit rfl hname]
    exact congrArg (Except.map Generated.routines) hrs
  refine ⟨if p.settings.documented then some (some p.settings.width) else none, rs, ?_⟩
  simp only [generated, hmade, bind, Except.bind]
  cases render w p.hookPath _ rs <;> rfl

/-- Generating fails only for a hook that has no path. -/
theorem generated_eq_error {e : Failure} (h : p.generated w ambient c = .error e) :
    ∃ shown, p.hookPath = some (.error shown) ∧ e = .notImportable shown := by
  cases hmembersOnly : p.membersOnly with
  | true =>
    rw [generated_listing hmembersOnly] at h
    cases h
  | false =>
    obtain ⟨documented, rs, hrendered⟩ := generated_routines hmembersOnly w ambient c
    rw [hrendered] at h
    cases htext : render w p.hookPath documented rs with
    | ok text =>
      rw [htext] at h
      cases h
    | error e' =>
      rw [htext] at h
      cases h
      exact hookPath_of_render_eq_error htext

end CommandLine.Plan

end Overloads
