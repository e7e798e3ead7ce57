import Overloads.Proofs.CommandLine.Arguments
import Overloads.Proofs.CommandLine.Plan

/-! The classes of a command line, each handled as it would be alone. -/
namespace Overloads.CommandLine

namespace Outcome

variable {o next : Outcome} {effects more : List Effect}

/-- No failure escaped. -/
def Exits (o : Outcome) : Prop := ∃ failed, o.ending = .exit failed

theorem failed_of_ending {b : Bool} (h : o.ending = .exit b) : o.failed = b := by
  rw [failed, h]

theorem Exits.ending_eq (h : o.Exits) : o.ending = .exit o.failed := by
  obtain ⟨b, h⟩ := h
  rw [h, failed_of_ending h]

@[simp] theorem exits_after {effects : List Effect} : (o.after effects).Exits ↔ o.Exits := Iff.rfl

theorem output_append (h : o.Exits) : (o.append next).output = o.output ++ next.output := by
  obtain ⟨failed, h⟩ := h
  rw [append, h, output, output, output, List.map_append, String.join_append]

theorem failed_append : (o.append next).failed = (o.failed || next.failed) := by
  cases ho : o.ending with
  | escaped e => simp [append, failed, ho]
  | exit b => cases hnext : next.ending <;> simp [append, failed, ho, hnext]

theorem exits_append (ho : o.Exits) (hnext : next.Exits) : (o.append next).Exits := by
  obtain ⟨failed, ho⟩ := ho
  obtain ⟨later, hnext⟩ := hnext
  exact ⟨failed || later, by simp [append, ho, hnext]⟩

theorem errors_append (h : o.Exits) : (o.append next).errors = o.errors ++ next.errors := by
  obtain ⟨failed, h⟩ := h
  rw [append, h, errors, errors, errors, List.map_append, String.join_append]

theorem exits_append_iff (h : o.Exits) : (o.append next).Exits ↔ next.Exits := by
  obtain ⟨failed, h⟩ := h
  cases hnext : next.ending <;> simp [append, Exits, h, hnext]

/-- That effects are written to the log alone. -/
def Logs (effects : List Effect) : Prop := ∀ e ∈ effects, ∃ asObject event, e = .log asObject event

theorem Logs.append (h : Logs effects) (hmore : Logs more) : Logs (effects ++ more) := by
  intro e he
  rcases List.mem_append.mp he with he | he
  · exact h e he
  · exact hmore e he

theorem Logs.written (h : Logs effects) :
    String.join (effects.map printed) = "" ∧ String.join (effects.map complained) = "" := by
  induction effects with
  | nil => exact ⟨String.join_nil, String.join_nil⟩
  | cons e rest ih =>
    obtain ⟨asObject, event, rfl⟩ := h e List.mem_cons_self
    obtain ⟨hprinted, hcomplained⟩ := ih fun e he => h e (List.mem_cons_of_mem _ he)
    simp [printed, complained, hprinted, hcomplained]

theorem Logs.commands {ending : Ending} (h : Logs effects) :
    (⟨effects, ending⟩ : Outcome).commands = [] := by
  rw [Outcome.commands, List.filterMap_eq_nil_iff]
  intro e he
  obtain ⟨asObject, event, rfl⟩ := h e he
  rfl

end Outcome

namespace Plan

variable {p : Plan} {s : Surroundings} {w : World} {ambient : Ambient} {c : ClassName}
variable {handle : String} {handles : List String}

theorem logs_logged (p : Plan) (e : Event) : Outcome.Logs (p.logged e) := by
  intro effect heffect
  rw [logged] at heffect
  split at heffect
  · rw [List.mem_singleton.mp heffect]
    exact ⟨_, _, rfl⟩
  · cases heffect

theorem logs_flatMap {α : Type} {l : List α} {f : α → List Effect}
    (h : ∀ a ∈ l, Outcome.Logs (f a)) : Outcome.Logs (l.flatMap f) := by
  intro e he
  obtain ⟨a, ha, he⟩ := List.mem_flatMap.mp he
  exact h a ha e he

/-- What goes wrong with a handle is told to the user, and no reason to stop. -/
structure Reports (p : Plan) (w : World) (a : Ambient) (handle : String) : Prop where
  /-- Where the handle stands for no class, this is what is found out. -/
  unresolved : ∀ e, w.resolveClass (.str handle) = .error e →
    ∃ shown reason, e = .unknownClass shown reason
  generating : ∀ c, w.resolveClass (.str handle) = .ok c →
    ∀ e, p.generated w a c = .error e → isReported e

/-- Where the hook has a path or there is none, nothing can go wrong with a class. -/
theorem Reports.of_hookPath (hhook : ∀ shown, p.hookPath ≠ some (.error shown))
    (hunresolved : ∀ e, w.resolveClass (.str handle) = .error e →
      ∃ shown reason, e = .unknownClass shown reason) : p.Reports w ambient handle where
  unresolved := hunresolved
  generating c _ e he := by
    obtain ⟨shown, hpath, -⟩ := generated_eq_error he
    exact (hhook shown hpath).elim

theorem generated_classes (p : Plan) (handles : List String) (w : World) (a : Ambient)
    (c : ClassName) : ({ p with classes := handles } : Plan).generated w a c = p.generated w a c := rfl

theorem wrapHandle_classes (p : Plan) (handles : List String) (w : World) (a : Ambient)
    (handle : String) :
    ({ p with classes := handles } : Plan).wrapHandle w a handle = p.wrapHandle w a handle := by
  have hclass : ({ p with classes := handles } : Plan).wrapClass w a = p.wrapClass w a := rfl
  have hlogged : ({ p with classes := handles } : Plan).logged = p.logged := rfl
  unfold wrapHandle
  rw [hclass, hlogged]

theorem Reports.classes (h : p.Reports w ambient handle) (handles : List String) :
    ({ p with classes := handles } : Plan).Reports w ambient handle where
  unresolved := h.unresolved
  generating c hc e he := h.generating c hc e (by rwa [generated_classes] at he)

theorem exits_failure {e : Failure} (h : isReported e) : (p.failure c e).Exits := by
  rw [failure, if_pos h]
  exact ⟨true, rfl⟩

/-- A class is left behind wherever generating fails: at first, with the text, or with the listing. -/
theorem exits_wrapClass (h : ∀ e, p.generated w ambient c = .error e → isReported e) :
    (p.wrapClass w ambient c).Exits := by
  unfold generated at h
  rw [wrapClass, Outcome.exits_after]
  cases hmade : generate w ambient w.members (.type c) p.options with
  | error e =>
    rw [hmade] at h
    exact exits_failure (h e rfl)
  | ok made =>
    rw [hmade] at h
    cases made with
    | listing l =>
      dsimp only
      cases hlisted : l.descriptors ambient w.members with
      | error e => exact exits_failure (h e hlisted)
      | ok ds => exact ⟨false, rfl⟩
    | routines rs =>
      dsimp only
      rw [Outcome.exits_after]
      split
      · rename_i e hrender
        exact exits_failure (h e (by simp [bind, Except.bind, hrender]))
      · exact ⟨false, rfl⟩

theorem exits_wrapHandle (h : p.Reports w ambient handle) : (p.wrapHandle w ambient handle).Exits := by
  rw [wrapHandle, Outcome.exits_after]
  cases hfound : (ClassSearch.of w (.str handle)).result with
  | ok c => exact exits_wrapClass (h.generating c hfound)
  | error e =>
    obtain ⟨shown, reason, rfl⟩ := h.unresolved e hfound
    exact ⟨true, rfl⟩

theorem exits_wrapAll (h : ∀ handle ∈ handles, p.Reports w ambient handle) :
    (p.wrapAll w ambient handles).Exits := by
  induction handles with
  | nil => exact ⟨false, rfl⟩
  | cons handle rest ih =>
    exact Outcome.exits_append (exits_wrapHandle (h handle List.mem_cons_self))
      (ih fun k hk => h k (List.mem_cons_of_mem handle hk))

/-- The outputs of the handles follow one another. -/
theorem output_wrapAll (h : ∀ handle ∈ handles, p.Reports w ambient handle) :
    (p.wrapAll w ambient handles).output =
      String.join (handles.map fun handle => (p.wrapHandle w ambient handle).output) := by
  induction handles with
  | nil => rfl
  | cons handle rest ih =>
    rw [wrapAll, Outcome.output_append (exits_wrapHandle (h handle List.mem_cons_self)),
      ih fun k hk => h k (List.mem_cons_of_mem handle hk), List.map_cons, String.join_cons]

theorem failed_wrapAll (p : Plan) (w : World) (ambient : Ambient) (handles : List String) :
    (p.wrapAll w ambient handles).failed =
      handles.any fun handle => (p.wrapHandle w ambient handle).failed := by
  induction handles with
  | nil => rfl
  | cons handle rest ih => rw [wrapAll, Outcome.failed_append, ih, List.any_cons]

/-- Without dependencies a plan is carried out by handling the classes. -/
theorem run_of_no_dependencies (h : p.dependencies = []) :
    p.run s = (p.wrapAll s.world s.ambient p.classes, s.importPath) := by
  have hinstallation : p.installation s = ([], .ok s.importPath) := by
    rw [installation, if_pos (List.isEmpty_iff.mpr h)]
  simp only [Plan.run, hinstallation, Outcome.after, List.nil_append]
  rw [p.wrapAll_ambient s.world _ s.ambient]

end Plan

variable {s : Surroundings} {args others : List String} {a : Arguments} {width : Option Int} {p : Plan}

theorem run_eq (hargs : Request.ofArguments args = .wrap a width) (hnone : a.dependencies = [])
    (hplan : Plan.make s a width = .ok p) :
    run s args = (p.wrapAll s.world s.ambient a.classes, s.importPath) := by
  rw [run, hargs]
  simp only [hplan]
  rw [Plan.run_of_no_dependencies (Plan.dependencies_of_make hplan hnone),
    Plan.classes_of_make hplan]

/-- One class alone is handled as it is among others. -/
theorem run_single {handle : String}
    (hargs : Request.ofArguments args = .wrap { a with classes := [handle] } width)
    (hnone : a.dependencies = []) (hplan : Plan.make s a width = .ok p)
    (hreports : p.Reports s.world s.ambient handle) :
    (run s args).1.output = (p.wrapHandle s.world s.ambient handle).output ∧
    (run s args).1.ending = .exit (p.wrapHandle s.world s.ambient handle).failed := by
  have hsingle := Plan.make_classes hplan (List.cons_ne_nil handle [])
  have hall : ∀ k ∈ [handle], ({ p with classes := [handle] } : Plan).Reports s.world s.ambient k := by
    intro k hk
    rw [List.mem_singleton.mp hk]
    exact hreports.classes _
  rw [run_eq hargs hnone hsingle]
  constructor
  · rw [Plan.output_wrapAll hall]
    simp [Plan.wrapHandle_classes]
  · rw [(Plan.exits_wrapAll hall).ending_eq, Plan.failed_wrapAll]
    simp [Plan.wrapHandle_classes]

/--
A plan for some classes, without dependencies, whose failures are all reported. However the classes are
named among the other arguments, the run writes what runs with one of the classes each write, one behind
the other, and it fails if one of these fails.
-/
theorem handled_one_by_one (s : Surroundings) (others handles : List String) (a : Arguments)
    (width : Option Int) (p : Plan) (hothers : Request.ofArguments others = .wrap a width)
    (hclasses : a.classes = []) (hnone : a.dependencies = [])
    (hplan : Plan.make s { a with classes := handles } width = .ok p)
    (hreports : ∀ handle ∈ handles, p.Reports s.world s.ambient handle) :
    (∀ named : List String,
      Request.ofArguments (naming named others) = .wrap { a with classes := named } width) ∧
    (∀ args, Request.ofArguments args = .wrap { a with classes := handles } width →
      (run s args).1.output =
        String.join (handles.map fun handle => (run s (naming [handle] others)).1.output) ∧
      (run s args).1.ending =
        .exit (handles.any fun handle => (run s (naming [handle] others)).1.failed)) ∧
    ∀ handle ∈ handles, ∃ failed, (run s (naming [handle] others)).1.ending = .exit failed := by
  have hnaming (named : List String) :
      Request.ofArguments (naming named others) = .wrap { a with classes := named } width :=
    ofArguments_naming named hothers hclasses
  have hsingle : ∀ handle ∈ handles,
      (run s (naming [handle] others)).1.output =
        (p.wrapHandle s.world s.ambient handle).output ∧
      (run s (naming [handle] others)).1.ending =
        .exit (p.wrapHandle s.world s.ambient handle).failed := by
    intro handle hhandle
    have hargs := hnaming [handle]
    exact run_single (a := { a with classes := handles }) hargs hnone hplan (hreports handle hhandle)
  refine ⟨hnaming, ?_, ?_⟩
  · intro args hargs
    rw [run_eq hargs hnone hplan]
    constructor
    · rw [Plan.output_wrapAll hreports]
      apply congrArg String.join
      apply List.map_congr_left
      intro handle hhandle
      exact (hsingle handle hhandle).1.symm
    · rw [(Plan.exits_wrapAll hreports).ending_eq, Plan.failed_wrapAll]
      apply congrArg Ending.exit
      rw [Bool.eq_iff_iff, List.any_eq_true, List.any_eq_true]
      apply exists_congr
      intro handle
      apply and_congr_right
      intro hhandle
      rw [Outcome.failed_of_ending (hsingle handle hhandle).2]
  · intro handle hhandle
    exact ⟨_, (hsingle handle hhandle).2⟩

/-- Classes of an interpreter with nothing set up. -/
def bare : Surroundings where
  world := .initial
  ambient := .initial
  settingsFile _ := .absent
  importPath := []
  interpreter := "python"
  target := "deps"
  installer _ := .notRun "no installer"

theorem resolveClass_int : World.initial.resolveClass (.str "int") = .ok (.builtin "int") := by
  have hname : Text.trim "int" = "int" := by decide +kernel
  have hfound : World.initial.builtinClass? "int" = some (.builtin "int") := by
    decide +kernel
  have hsearch : World.initial.resolveClass (.str "int") =
      (ClassSearch.ofText .initial (.str "int") "int").result := rfl
  rw [hsearch, ClassSearch.ofText]
  simp only [hname]
  rw [if_neg (by decide), if_neg (by simp), hfound]

/-- A blank handle, then one behind other arguments. -/
theorem sorted_after_blank : ∃ a p,
    Request.ofArguments ["--order", "sorted"] = .wrap a none ∧ a.classes = [] ∧
    a.dependencies = [] ∧ Plan.make bare { a with classes := ["", "int"] } none = .ok p ∧
    (∀ handle ∈ ["", "int"], p.Reports bare.world bare.ambient handle) ∧
    Request.ofArguments ["-c", "", "--order=sorted", "--class=int"] =
      .wrap { a with classes := ["", "int"] } none ∧
    (run bare ["-c", "", "--order=sorted", "--class=int"]).1.output = String.join
      (["", "int"].map fun handle => (run bare ["-c", handle, "--order", "sorted"]).1.output) ∧
    (run bare ["-c", "", "--order=sorted", "--class=int"]).1.ending = .exit
      (["", "int"].any fun handle => (run bare ["-c", handle, "--order", "sorted"]).1.failed) := by
  have hothers : Request.ofArguments ["--order", "sorted"] =
      .wrap { Arguments.none with order := some "sorted" } none := by decide +kernel
  have hargs : Request.ofArguments ["-c", "", "--order=sorted", "--class=int"] =
      .wrap { Arguments.none with order := some "sorted", classes := ["", "int"] } none := by
    decide +kernel
  obtain ⟨p, hplan⟩ : ∃ p, Plan.make bare
      { Arguments.none with order := some "sorted", classes := ["", "int"] } none = .ok p := ⟨_, rfl⟩
  have hreports : ∀ handle ∈ ["", "int"], p.Reports bare.world bare.ambient handle := by
    intro handle hhandle
    apply Plan.Reports.of_hookPath
    · intro shown hpath
      cases hplan
      cases hpath
    · intro e he
      have hcases : handle = "" ∨ handle = "int" := by simpa using hhandle
      rcases hcases with rfl | rfl
      · cases he
        exact ⟨_, _, rfl⟩
      · rw [show bare.world = World.initial from rfl, resolveClass_int] at he
        cases he
  obtain ⟨-, hruns, -⟩ := handled_one_by_one bare ["--order", "sorted"] ["", "int"] _ none p hothers
    rfl rfl hplan hreports
  obtain ⟨houtput, hending⟩ := hruns _ hargs
  exact ⟨_, p, hothers, rfl, rfl, hplan, hreports, hargs, houtput, hending⟩

end Overloads.CommandLine
