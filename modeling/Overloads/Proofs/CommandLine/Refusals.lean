import Overloads.Proofs.CommandLine.Unresolved

/-! What is wrong with a command line is found before anything is done. -/
namespace Overloads

variable {f : Failure} {text : String} {texts : List String}

namespace Pattern

theorem ofText_eq_error (h : ofText text = .error f) :
    ∃ fault, compile text = .error fault ∧ f = fault.failure text := by
  rw [ofText] at h
  cases hcompiled : compile text with
  | ok c =>
    rw [hcompiled] at h
    cases h
  | error fault =>
    rw [hcompiled] at h
    cases h
    exact ⟨fault, rfl, rfl⟩

theorem ofText?_eq_error {text? : Option String} (h : ofText? text? = .error f) :
    ∃ text fault, compile text = .error fault ∧ f = fault.failure text := by
  cases text? with
  | none => cases h
  | some text => exact ⟨text, ofText_eq_error (Except.map_eq_error.mp h)⟩

theorem combined_eq_error (h : combined texts = .error f) :
    ∃ text fault, compile text = .error fault ∧ f = fault.failure text := by
  unfold combined at h
  rcases Except.bind_eq_error.mp h with hone | ⟨-, -, hjoined⟩
  · obtain ⟨text, -, htext⟩ := exists_of_forM_eq_error hone
    exact ⟨text, ofText_eq_error (Except.map_eq_error.mp htext)⟩
  · split at hjoined <;> cases hjoined

end Pattern

namespace CommandLine

variable {s : Surroundings} {a : Arguments} {width : Option Int} {r : Refusal}
variable {settings : Settings.Wrapping} {logging : Settings.Logging}

/-- What is wrong with a list of expressions is wrong with one of them, or with all of them together. -/
theorem filterFor_eq_error {included excluded : List String}
    (h : filterFor included excluded = .error f) :
    ∃ text fault, Pattern.compile text = .error fault ∧ f = fault.failure text := by
  rw [filterFor, Except.bind_eq_error] at h
  rcases h with h | ⟨wanted, -, h⟩
  · exact Pattern.combined_eq_error h
  rw [Except.bind_eq_error] at h
  rcases h with h | ⟨unwanted, -, h⟩
  · exact Pattern.combined_eq_error h
  rw [MemberFilter.ofPatterns, Except.bind_eq_error] at h
  rcases h with h | ⟨wanted, -, h⟩
  · exact Pattern.ofText?_eq_error h
  rw [Except.bind_eq_error] at h
  rcases h with h | ⟨unwanted, -, h⟩
  · exact Pattern.ofText?_eq_error h
  · cases h

theorem collected_eq_error {α : Type} {model : String} {read : Settings.Collect α}
    (h : Settings.collected model read = .error f) : isInvalidSettings f := by
  unfold Settings.collected at h
  split at h <;> cases h
  rfl

/-- Settings read from a table are refused for what is wrong with the settings alone. -/
theorem readSettings_eq_error {file : Settings.File} {t : Document.Table} (hload : file.load = .ok t)
    (h : readSettings file a width = .error f) : isInvalidSettings f := by
  have hinForce {name : String} {given : Document.Table} :
      Settings.inForce file name given ≠ .error f := by
    rw [Settings.inForce, hload]
    exact fun h => nomatch h
  rcases Except.bind_eq_error.mp h with h | ⟨t, -, h⟩
  · exact (hinForce h).elim
  rcases Except.bind_eq_error.mp h with h | ⟨wrapping, -, h⟩
  · exact collected_eq_error h
  rcases Except.bind_eq_error.mp h with h | ⟨t, -, h⟩
  · exact (hinForce h).elim
  rcases Except.bind_eq_error.mp h with h | ⟨logging, -, h⟩
  · exact collected_eq_error h
  · cases h

theorem parse_eq_error {raw : String} (h : Coordinate.parse raw = .error f) : isBadCoordinate f := by
  unfold Coordinate.parse at h
  dsimp only at h
  split at h
  · unfold Coordinate.ofName at h
    dsimp only at h
    split at h <;> cases h
    rfl
  · cases h
    rfl

/-- A failure escapes where nobody tells it. -/
theorem escapes_iff {own : Failure → Bool} {e : Failure} {reason : String} :
    (if own e then .told reason else .escaped e) = Refusal.escaped f ↔ e = f ∧ own f = false := by
  constructor
  · intro h
    split at h
    · cases h
    · cases h
      exact ⟨rfl, Bool.eq_false_iff.mpr ‹_›⟩
  · rintro ⟨rfl, hown⟩
    rw [if_neg (Bool.eq_false_iff.mp hown)]

theorem telling_ok {α : Type} {own : Failure → Bool} (b : α) :
    telling own (.ok b) = .ok b := rfl

theorem telling_error {α : Type} {own : Failure → Bool} (f : Failure) :
    telling own (.error f : Except Failure α) =
      .error (if own f then .told (f.message.getD "") else .escaped f) := rfl

@[simp] theorem telling_eq_ok {α : Type} {own : Failure → Bool} {x : Except Failure α} {b : α} :
    telling own x = .ok b ↔ x = .ok b := by
  cases x <;> simp [telling_ok, telling_error]

@[simp] theorem telling_eq_escaped {α : Type} {own : Failure → Bool} {x : Except Failure α} :
    telling own x = .error (.escaped f) ↔ x = .error f ∧ own f = false := by
  cases x with
  | ok b => simp [telling_ok]
  | error e => simp only [telling_error, Except.error.injEq, escapes_iff]

theorem hookPathFor_eq_escaped {w : World} {choice : Settings.HookChoice} :
    hookPathFor w choice = .error (.escaped f) ↔ ∃ path, choice = .path path ∧
      w.resolveCallable (.str path) = .error f ∧ isNoHook f = false := by
  cases choice with
  | none => simp [hookPathFor]
  | standard => simp [hookPathFor]
  | path path =>
    cases hfound : w.resolveCallable (.str path) with
    | ok c => simp [hookPathFor, hfound]
    | error e =>
      simp only [hookPathFor, hfound, Except.error.injEq, escapes_iff]
      constructor
      · rintro ⟨rfl, hown⟩
        exact ⟨path, rfl, hfound, hown⟩
      · rintro ⟨_, ⟨⟩, hfails, hown⟩
        cases hfound.symm.trans hfails
        exact ⟨rfl, hown⟩

theorem hookPathFor_answers {w : World} {choice : Settings.HookChoice} :
    (∃ hookPath, hookPathFor w choice = .ok hookPath) ↔
      ∀ path f, choice = .path path → w.resolveCallable (.str path) ≠ .error f := by
  cases choice with
  | none => simp [hookPathFor]
  | standard => simp [hookPathFor]
  | path path =>
    cases hfound : w.resolveCallable (.str path) with
    | ok c =>
      simp only [hookPathFor, hfound, Except.ok.injEq, exists_eq', true_iff]
      rintro path f ⟨⟩
      simp [hfound]
    | error e => simp [hookPathFor, hfound]

/-- Something that is wrong with what is asked for. -/
inductive Flawed (s : Surroundings) (a : Arguments) (width : Option Int) : Prop where
  | stray : a.strays ≠ [] → Flawed s a width
  | classless : a.classes = [] → Flawed s a width
  | settings {f : Failure} :
      readSettings (s.settingsFile a.settingsFile) a width = .error f → Flawed s a width
  | pattern {settings : Settings.Wrapping} {logging : Settings.Logging} {f : Failure} :
      readSettings (s.settingsFile a.settingsFile) a width = .ok (settings, logging) →
      filterFor settings.included settings.excluded = .error f → Flawed s a width
  | hook {settings : Settings.Wrapping} {logging : Settings.Logging} {path : String} {f : Failure} :
      readSettings (s.settingsFile a.settingsFile) a width = .ok (settings, logging) →
      settings.hook = .path path → s.world.resolveCallable (.str path) = .error f → Flawed s a width
  | coordinate {raw : String} {f : Failure} : raw ∈ a.dependencies →
      Coordinate.parse raw = .error f → Flawed s a width

/-- A plan is made exactly where nothing is wrong, be it one thing or several, in any place. -/
theorem make_answers_iff : (∃ p, Plan.make s a width = .ok p) ↔ ¬ Flawed s a width := by
  constructor
  · rintro ⟨p, hp⟩ hflawed
    obtain ⟨hstrays, hclasses, settings, logging, filter, hookPath, dependencies, hsettings, hfilter,
      hhook, hdependencies, -⟩ := Plan.make_eq_ok.mp hp
    rw [telling_eq_ok] at hsettings hfilter hdependencies
    cases hflawed with
    | stray h => exact h hstrays
    | classless h => exact hclasses h
    | settings h => simp [h] at hsettings
    | pattern h hpattern =>
      cases hsettings.symm.trans h
      simp [hpattern] at hfilter
    | hook h hpath hfails =>
      cases hsettings.symm.trans h
      exact hookPathFor_answers.mp ⟨hookPath, hhook⟩ _ _ hpath hfails
    | coordinate hraw hfails => exact mapM_answers_iff.mp ⟨_, hdependencies⟩ _ hraw _ hfails
  · intro h
    have hstrays : a.strays = [] := Decidable.not_not.mp fun hstrays => h (.stray hstrays)
    have hclasses : a.classes ≠ [] := fun hclasses => h (.classless hclasses)
    obtain ⟨dependencies, hdependencies⟩ : ∃ dependencies,
        a.dependencies.mapM Coordinate.parse = .ok dependencies :=
      mapM_answers_iff.mpr fun raw hraw f hfails => h (.coordinate hraw hfails)
    cases hsettings : readSettings (s.settingsFile a.settingsFile) a width with
    | error f => exact (h (.settings hsettings)).elim
    | ok both =>
      obtain ⟨settings, logging⟩ := both
      cases hfilter : filterFor settings.included settings.excluded with
      | error f => exact (h (.pattern hsettings hfilter)).elim
      | ok filter =>
        obtain ⟨hookPath, hhook⟩ := hookPathFor_answers.mpr fun path f hpath hfails =>
          h (.hook hsettings hpath hfails)
        exact ⟨_, Plan.make_eq_ok.mpr ⟨hstrays, hclasses, settings, logging, filter, hookPath,
          dependencies, by simpa using hsettings, by simpa using hfilter, hhook,
          by simpa using hdependencies, rfl⟩⟩

/-- The failures with which a run ends, though its user is to blame, without telling him. -/
inductive Unhandled (s : Surroundings) (a : Arguments) (width : Option Int) : Failure → Prop where
  /-- An expression, or all of a kind together, is refused for another reason than its form. -/
  | pattern {settings : Settings.Wrapping} {logging : Settings.Logging} {text : String}
      {fault : Pattern.Fault} : a.strays = [] → a.classes ≠ [] →
      readSettings (s.settingsFile a.settingsFile) a width = .ok (settings, logging) →
      filterFor settings.included settings.excluded = .error (fault.failure text) →
      (∀ what position, fault ≠ .malformed what position) →
      Unhandled s a width (fault.failure text)
  /-- Something on the way to the hook fails another way than by not being there. -/
  | hook {settings : Settings.Wrapping} {logging : Settings.Logging} {filter : MemberFilter}
      {path : String} {f : Failure} : a.strays = [] → a.classes ≠ [] →
      readSettings (s.settingsFile a.settingsFile) a width = .ok (settings, logging) →
      filterFor settings.included settings.excluded = .ok filter →
      settings.hook = .path path → s.world.resolveCallable (.str path) = .error f →
      isNoHook f = false → Unhandled s a width f

theorem isBadPattern_failure {fault : Pattern.Fault} :
    isBadPattern (fault.failure text) = false ↔ ∀ what position, fault ≠ .malformed what position := by
  cases fault <;> simp [Pattern.Fault.failure, isBadPattern]

/-- A failure escapes from the first step that fails. -/
theorem make_steps : Plan.make s a width = .error (.escaped f) ↔ a.strays = [] ∧ a.classes ≠ [] ∧
    (telling isInvalidSettings (readSettings (s.settingsFile a.settingsFile) a width) =
        .error (.escaped f) ∨
      ∃ settings logging,
        telling isInvalidSettings (readSettings (s.settingsFile a.settingsFile) a width) =
          .ok (settings, logging) ∧
        (telling isBadPattern (filterFor settings.included settings.excluded) =
            .error (.escaped f) ∨
          ∃ filter,
            telling isBadPattern (filterFor settings.included settings.excluded) = .ok filter ∧
            (hookPathFor s.world settings.hook = .error (.escaped f) ∨
              ∃ hookPath, hookPathFor s.world settings.hook = .ok hookPath ∧
                telling isBadCoordinate (a.dependencies.mapM Coordinate.parse) =
                  .error (.escaped f)))) := by
  unfold Plan.make
  cases hstrays : a.strays with
  | cons stray rest => simp [throw, throwThe, MonadExceptOf.throw, bind, Except.bind]
  | nil =>
    cases hclasses : a.classes with
    | nil => simp [throw, throwThe, MonadExceptOf.throw, bind, Except.bind]
    | cons handle rest =>
      simp only [List.isEmpty_nil, List.isEmpty_cons, Bool.not_true, Bool.false_eq_true, if_false,
        Except.bind_eq_error, Prod.exists, pure, Except.pure, reduceCtorEq, and_false, exists_false,
        or_false, ne_eq, not_false_eq_true, true_and]

theorem make_eq_escaped {t : Document.Table} (hload : (s.settingsFile a.settingsFile).load = .ok t) :
    Plan.make s a width = .error (.escaped f) ↔ Unhandled s a width f := by
  simp only [make_steps, telling_eq_ok, telling_eq_escaped, hookPathFor_eq_escaped]
  constructor
  · rintro ⟨hstrays, hclasses, ⟨h, hown⟩ | ⟨settings, logging, hsettings, hlater⟩⟩
    · simp [readSettings_eq_error hload h] at hown
    rcases hlater with ⟨h, hown⟩ | ⟨filter, hfilter, hlater⟩
    · obtain ⟨text, fault, -, rfl⟩ := filterFor_eq_error h
      exact .pattern hstrays hclasses hsettings h (isBadPattern_failure.mp hown)
    rcases hlater with ⟨path, hpath, h, hown⟩ | ⟨hookPath, -, h, hown⟩
    · exact .hook hstrays hclasses hsettings hfilter hpath h hown
    · obtain ⟨raw, -, hraw⟩ := exists_of_mapM_eq_error h
      simp [parse_eq_error hraw] at hown
  · intro h
    cases h with
    | pattern hstrays hclasses hsettings h hfault =>
      exact ⟨hstrays, hclasses, .inr ⟨_, _, hsettings, .inl ⟨h, isBadPattern_failure.mpr hfault⟩⟩⟩
    | hook hstrays hclasses hsettings hfilter hpath h hown =>
      exact ⟨hstrays, hclasses, .inr ⟨_, _, hsettings, .inr ⟨_, hfilter, .inl ⟨_, hpath, h, hown⟩⟩⟩⟩

theorem importModule_eq_error {w : World} {name : String} (h : w.importModule name = .error f) :
    isNoHook f := by
  rw [World.importModule] at h
  split at h
  · cases h
    rfl
  split at h
  · cases h
    rfl
  · obtain ⟨reason, rfl⟩ := World.importBelow_eq_error h
    rfl

theorem isNoHook_of_isMissing (h : World.isMissing f) : isNoHook f := by
  rw [World.isMissing, decide_eq_true_eq] at h
  simp [isNoHook, h]

theorem resolvePath_eq_error {w : World} {path : String} (hplain : w.LooksUpPlainly)
    (h : w.resolvePath path = .error f) : isNoHook f := by
  unfold World.resolvePath at h
  dsimp only at h
  split at h
  · cases h
    rfl
  rcases Except.bind_eq_error.mp h with h | ⟨m, -, h⟩
  · exact importModule_eq_error h
  rcases Except.bind_eq_error.mp h with h | ⟨t, -, h⟩
  · exact isNoHook_of_isMissing (attributes_eq_error hplain h)
  · split at h <;> cases h
    rfl

/-- Where attributes are looked up plainly, the way to a hook fails only by leading nowhere. -/
theorem resolveCallable_eq_error {w : World} {v : Value} (hplain : w.LooksUpPlainly)
    (h : w.resolveCallable v = .error f) : isNoHook f := by
  unfold World.resolveCallable at h
  split at h
  · cases h
  split at h
  · cases h
  · dsimp only at h
    split at h
    · cases h
      rfl
    · cases hpath : w.resolvePath (Text.trim _) with
      | ok c =>
        rw [hpath] at h
        cases h
      | error e =>
        rw [hpath] at h
        cases h
        exact resolvePath_eq_error hplain hpath
  · cases h
    rfl

/-- What escapes then is an expression that cannot be compiled for a reason of its own. -/
theorem Unhandled.causes (hplain : s.world.LooksUpPlainly) (h : Unhandled s a width f) :
    f ∈ [.repetitionTooLarge, .incompatibleFlags, .tooDeep, .impossibleCode] := by
  cases h with
  | @pattern settings logging text fault hstrays hclasses hsettings hfilter hfault =>
    cases fault with
    | malformed what position => exact (hfault what position rfl).elim
    | repetitionTooLarge | incompatibleFlags | tooDeep | tooWide => simp [Pattern.Fault.failure]
  | hook hstrays hclasses hsettings hfilter hpath hfails hown =>
    simp [resolveCallable_eq_error hplain hfails] at hown

theorem run_of_refusal {args : List String} (hargs : Request.ofArguments args = .wrap a width)
    (hmade : Plan.make s a width = .error r) :
    (run s args).1.output = "" ∧ (run s args).1.commands = [] ∧ (run s args).2 = s.importPath ∧
    (run s args).1.ending = match r with
      | .told _ => .exit true
      | .escaped f => .escaped f := by
  cases r with
  | told reason =>
    have hrun : run s args = (refused reason, s.importPath) := by
      rw [run, hargs]
      simp only [hmade]
    rw [hrun]
    exact ⟨rfl, rfl, rfl, rfl⟩
  | escaped f =>
    have hrun : run s args = (⟨[], .escaped f⟩, s.importPath) := by
      rw [run, hargs]
      simp only [hmade]
    rw [hrun]
    exact ⟨rfl, rfl, rfl, rfl⟩

theorem installation_of_failure {p : Plan} {reason : String} (hsome : p.dependencies ≠ [])
    (hfails : (s.installer (installCommand s.interpreter s.target p.dependencies)).reason? =
      some reason) : ∃ names logs, Outcome.Logs logs ∧
    p.installation s = (complainLine names :: logs ++
        [.execute (installCommand s.interpreter s.target p.dependencies)],
      .error (.unmetDependencies (p.dependencies.map (·.text)) reason)) := by
  have hpath : s.importPath.install s.target p.dependencies
      (s.installer (installCommand s.interpreter s.target p.dependencies)) =
        .error (.unmetDependencies (p.dependencies.map (·.text)) reason) := by
    rw [ImportPath.install, hfails]
  refine ⟨"Adding dependencies to import path: " ++ ", ".intercalate (p.dependencies.map (·.text)),
    p.logged ⟨.info, "deps.install",
      [("requirements", .texts (p.dependencies.map (·.requirement))), ("target", .text s.target)]⟩,
    p.logs_logged _, ?_⟩
  rw [Plan.installation, if_neg (by simpa using hsome)]
  dsimp only
  rw [hpath]

/-- Where the dependencies are not installed, that is all that was tried. -/
theorem run_of_failed_installation {args : List String} {p : Plan} {reason : String}
    (hargs : Request.ofArguments args = .wrap a width) (hmade : Plan.make s a width = .ok p)
    (hsome : p.dependencies ≠ [])
    (hfails : (s.installer (installCommand s.interpreter s.target p.dependencies)).reason? =
      some reason) :
    (run s args).1.output = "" ∧
    (run s args).1.commands = [installCommand s.interpreter s.target p.dependencies] ∧
    (run s args).2 = s.importPath ∧ (run s args).1.ending = .exit true := by
  obtain ⟨names, logs, hlogs, hinstallation⟩ := installation_of_failure hsome hfails
  have hrun : ∃ told, run s args = (⟨complainLine names :: logs ++
      [.execute (installCommand s.interpreter s.target p.dependencies)] ++ [complainLine told],
        .exit true⟩, s.importPath) := by
    refine ⟨(Failure.unmetDependencies (p.dependencies.map (·.text)) reason).message.getD "", ?_⟩
    rw [run, hargs]
    simp only [hmade, Plan.run, hinstallation]
  obtain ⟨told, hrun⟩ := hrun
  rw [hrun]
  refine ⟨?_, ?_, rfl, rfl⟩
  · simp [Outcome.output, hlogs.written.1, complainLine, Outcome.printed]
  · have hcommands : Outcome.commands ⟨_, .exit true⟩ = [] := hlogs.commands
    rw [Outcome.commands] at hcommands ⊢
    simp [hcommands, complainLine]

/--
What is wrong with a command line, alone or with other faults, is found before anything is printed,
installed or put on the import path; the run then fails, or ends with one of the failures that nobody
handles. Where nothing is wrong and the installation fails, that is all that was tried.
-/
theorem refused_before_acting (s : Surroundings) (args : List String) :
    (Request.ofArguments args = .misuse →
      run s args = (⟨[.showMisuse], .exit true⟩, s.importPath)) ∧
    ∀ a width t, Request.ofArguments args = .wrap a width →
      (s.settingsFile a.settingsFile).load = .ok t →
      (Flawed s a width →
        (run s args).1.output = "" ∧ (run s args).1.commands = [] ∧ (run s args).2 = s.importPath ∧
        ((∀ f, ¬ Unhandled s a width f) → (run s args).1.ending = .exit true) ∧
        ∀ f, Unhandled s a width f → (run s args).1.ending = .escaped f) ∧
      (¬ Flawed s a width → ∀ coordinates reason, coordinates ≠ [] →
        a.dependencies.mapM Coordinate.parse = .ok coordinates →
        (s.installer (installCommand s.interpreter s.target coordinates)).reason? = some reason →
        (run s args).1.output = "" ∧
        (run s args).1.commands = [installCommand s.interpreter s.target coordinates] ∧
        (run s args).2 = s.importPath ∧ (run s args).1.ending = .exit true) := by
  refine ⟨fun h => by rw [run, h], ?_⟩
  intro a width t hargs hload
  constructor
  · intro hflawed
    cases hmade : Plan.make s a width with
    | ok p => exact (make_answers_iff.mp ⟨p, hmade⟩ hflawed).elim
    | error r =>
      obtain ⟨houtput, hcommands, hpath, hending⟩ := run_of_refusal hargs hmade
      refine ⟨houtput, hcommands, hpath, ?_, ?_⟩
      · intro hhandled
        cases r with
        | told reason => exact hending
        | escaped f => exact (hhandled f ((make_eq_escaped hload).mp hmade)).elim
      · intro f hunhandled
        rw [(make_eq_escaped hload).mpr hunhandled] at hmade
        cases hmade
        exact hending
  · intro hsound coordinates reason hsome hcoordinates hfails
    obtain ⟨p, hmade⟩ := make_answers_iff.mpr hsound
    obtain ⟨-, -, settings, logging, filter, hookPath, dependencies, -, -, -, hparsed, rfl⟩ :=
      Plan.make_eq_ok.mp hmade
    rw [telling_eq_ok, hcoordinates] at hparsed
    cases hparsed
    exact run_of_failed_installation hargs hmade hsome hfails

/-- The settings where neither a file nor the arguments give any. -/
theorem readSettings_bare (classes dependencies : List String) :
    readSettings .absent
        { Arguments.none with classes := classes, dependencies := dependencies } none =
      .ok (⟨"", none, 100, [], [], .standard, true, true⟩, ⟨"WARNING", false⟩) := rfl

theorem parse_good : Coordinate.parse "[g/a \"1\"]" = .ok ⟨"g", "a", "1"⟩ :=
  Except.eq_ok_of_toOption (by decide +kernel)

/-- A malformed coordinate behind a good one, and the good one alone where no installer runs. -/
theorem nothing_done_for_bad_coordinate :
    (run bare ["-c", "int", "-d", "[g/a \"1\"]", "-d", "[oops"]).1.commands = [] ∧
    (run bare ["-c", "int", "-d", "[g/a \"1\"]", "-d", "[oops"]).1.ending = .exit true ∧
    (run bare ["-c", "int", "-d", "[g/a \"1\"]"]).1.output = "" ∧
    (run bare ["-c", "int", "-d", "[g/a \"1\"]"]).1.commands =
      [installCommand "python" "deps" [⟨"g", "a", "1"⟩]] ∧
    (run bare ["-c", "int", "-d", "[g/a \"1\"]"]).1.ending = .exit true := by
  have hbad : Request.ofArguments ["-c", "int", "-d", "[g/a \"1\"]", "-d", "[oops"] = .wrap
      { Arguments.none with classes := ["int"], dependencies := ["[g/a \"1\"]", "[oops"] } none := by
    decide +kernel
  have hgood : Request.ofArguments ["-c", "int", "-d", "[g/a \"1\"]"] = .wrap
      { Arguments.none with classes := ["int"], dependencies := ["[g/a \"1\"]"] } none := by
    decide +kernel
  obtain ⟨f, hf⟩ : ∃ f, Coordinate.parse "[oops" = .error f := by
    have hparsed : (Coordinate.parse "[oops").toOption = none := by decide +kernel
    cases h : Coordinate.parse "[oops" with
    | ok c =>
      rw [h] at hparsed
      cases hparsed
    | error f => exact ⟨f, rfl⟩
  have hhandled (f : Failure) : ¬ Unhandled bare
      { Arguments.none with classes := ["int"], dependencies := ["[g/a \"1\"]", "[oops"] } none f := by
    intro h
    cases h with
    | pattern _ _ hsettings hfilter =>
      cases (readSettings_bare _ _).symm.trans hsettings
      cases hfilter
    | hook _ _ hsettings _ hpath =>
      cases (readSettings_bare _ _).symm.trans hsettings
      cases hpath
  have hsound : ¬ Flawed bare
      { Arguments.none with classes := ["int"], dependencies := ["[g/a \"1\"]"] } none := by
    intro h
    cases h with
    | stray h => exact h rfl
    | classless h => cases h
    | settings h => cases h
    | pattern hsettings hfilter =>
      cases (readSettings_bare _ _).symm.trans hsettings
      cases hfilter
    | hook hsettings hpath =>
      cases (readSettings_bare _ _).symm.trans hsettings
      cases hpath
    | coordinate hraw hfails =>
      rw [List.mem_singleton.mp hraw, parse_good] at hfails
      cases hfails
  obtain ⟨-, hcommands, -, hending, -⟩ := ((refused_before_acting bare _).2 _ none [] hbad rfl).1
    (.coordinate (List.mem_cons_of_mem _ List.mem_cons_self) hf)
  obtain ⟨houtput, hinstalled, -, hfailed⟩ := ((refused_before_acting bare _).2 _ none [] hgood rfl).2
    hsound [⟨"g", "a", "1"⟩] "no installer" (List.cons_ne_nil _ _)
    (by rw [List.mapM_cons, parse_good]; rfl) rfl
  exact ⟨hcommands, hending hhandled, houtput, hinstalled, hfailed⟩

/-- A number of repetitions that is too large is no bad pattern to the command line: it escapes. -/
theorem large_repetition_escapes :
    (run bare ["-c", "object", "-i", "a\x7b4294967295\x7d"]).1.ending =
      .escaped .repetitionTooLarge := by
  have hargs : Request.ofArguments ["-c", "object", "-i", "a\x7b4294967295\x7d"] = .wrap
      { Arguments.none with classes := ["object"], included := some "a\x7b4294967295\x7d" } none := by
    decide +kernel
  have hcompiled : Except.error? (Pattern.compile "a\x7b4294967295\x7d") =
      some .repetitionTooLarge := by
    decide +kernel
  have hread : Pattern.ofText "a\x7b4294967295\x7d" = .error .repetitionTooLarge := by
    rw [Pattern.ofText, Except.error?_eq_some.mp hcompiled]
    rfl
  have hfilter : filterFor ["a\x7b4294967295\x7d"] [] = .error .repetitionTooLarge := by
    have hcombined : Pattern.combined ["a\x7b4294967295\x7d"] = .error .repetitionTooLarge := by
      simp only [Pattern.combined, List.forM, hread]
      rfl
    rw [filterFor, hcombined]
    rfl
  have hunhandled : Unhandled bare
      { Arguments.none with classes := ["object"], included := some "a\x7b4294967295\x7d" } none
      (Pattern.Fault.repetitionTooLarge.failure "") :=
    .pattern rfl (List.cons_ne_nil _ _) rfl hfilter (by simp)
  exact (run_of_refusal hargs ((make_eq_escaped (t := []) rfl).mpr hunhandled)).2.2.2

end CommandLine

end Overloads
