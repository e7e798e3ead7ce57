import Overloads.Proofs.Class.Resolution
import Overloads.Proofs.CommandLine.Handles

/-! Handles that stand for no class: they are reported, and the run goes on with the others. -/
namespace Overloads

open Overloads.ClassSearch

namespace CommandLine

namespace Plan

variable {p : Plan} {w : World} {ambient : Ambient} {handle reason : String} {rest : List String}

/-- Without a class all that is done beside the log is one complaint. -/
theorem wrapHandle_eq (p : Plan) (ambient : Ambient) (h : Classless w (.str handle) reason) :
    ∃ before : List Effect,
    Outcome.Logs before ∧ p.wrapHandle w ambient handle =
      ⟨before ++ [complainLine ("Invalid class: " ++ handle ++ " (" ++ reason ++ ")")],
        .exit true⟩ := by
  have hresult : (ClassSearch.of w (.str handle)).result =
      .error (.unknownClass (some handle) reason) :=
    resolveClass_eq_error.mpr (.inl ⟨_, _, h, sentence_str w handle, rfl⟩)
  have hmessage : (Failure.unknownClass (some handle) reason).message =
      some ("Invalid class: " ++ handle ++ " (" ++ reason ++ ")") := by
    simp [Failure.message, h.ne_empty, String.append_assoc]
  let importFailed (failed : String × String) : Event :=
    ⟨.debug, "resolve.import_failed", [("module", .text failed.1), ("error", .text failed.2)]⟩
  refine ⟨(ClassSearch.of w (.str handle)).failedImports.flatMap (p.logged ∘ importFailed) ++
    p.logged ⟨.error, "cli.class_unresolvable",
      [("handle", .text handle), ("reason", .text reason)]⟩, ?_, ?_⟩
  · exact (logs_flatMap fun _ _ => p.logs_logged _).append (p.logs_logged _)
  · simp only [wrapHandle, hresult, hmessage, Option.getD_some, Outcome.after, List.append_assoc]
    rfl

/-- A handle without a class is reported, and the others are handled as they would be without it. -/
theorem wrapAll_of_classless (h : Classless w (.str handle) reason) :
    (p.wrapAll w ambient (handle :: rest)).output = (p.wrapAll w ambient rest).output ∧
    (p.wrapAll w ambient (handle :: rest)).errors =
      "Invalid class: " ++ handle ++ " (" ++ reason ++ ")\n" ++ (p.wrapAll w ambient rest).errors ∧
    (p.wrapAll w ambient (handle :: rest)).failed ∧
    ((p.wrapAll w ambient (handle :: rest)).Exits ↔ (p.wrapAll w ambient rest).Exits) := by
  obtain ⟨before, hlogs, hhandle⟩ := wrapHandle_eq p ambient h
  obtain ⟨hprinted, hcomplained⟩ := hlogs.written
  have hexits : (p.wrapHandle w ambient handle).Exits := ⟨true, by rw [hhandle]⟩
  refine ⟨?_, ?_, ?_, Outcome.exits_append_iff hexits⟩
  · rw [wrapAll, Outcome.output_append hexits, hhandle]
    simp [Outcome.output, hprinted, complainLine, Outcome.printed]
  · rw [wrapAll, Outcome.errors_append hexits, hhandle]
    simp [Outcome.errors, hcomplained, complainLine, Outcome.complained, String.append_assoc]
  · rw [wrapAll, Outcome.failed_append, hhandle]
    rfl

end Plan

end CommandLine

/--
A search for a class ends in one of three ways: with a class, with the report that there is none, which the
command line passes on before it goes on with the other handles, or with a failure that escapes: the name
starts with a dot, something on the way to the class fails another way than by missing an attribute, or the
handle has no text to be reported with.
-/
theorem resolveClass_reports_or_escapes (w : World) (handle : Value) :
    (∀ f, w.resolveClass handle = .error f ↔
      (∃ shown reason, Classless w handle reason ∧ w.sentence handle = .ok shown ∧
        f = .unknownClass shown reason) ∨ Escaping w handle f) ∧
    ∀ text reason, handle = .str text → Classless w handle reason →
      ∀ (p : CommandLine.Plan) (ambient : Ambient) (rest : List String),
        (p.wrapAll w ambient (text :: rest)).output = (p.wrapAll w ambient rest).output ∧
        (p.wrapAll w ambient (text :: rest)).errors =
          "Invalid class: " ++ text ++ " (" ++ reason ++ ")\n" ++
            (p.wrapAll w ambient rest).errors ∧
        (p.wrapAll w ambient (text :: rest)).failed ∧
        ((p.wrapAll w ambient (text :: rest)).Exits ↔ (p.wrapAll w ambient rest).Exits) := by
  refine ⟨fun f => resolveClass_eq_error, ?_⟩
  rintro text reason rfl hclassless p ambient rest
  exact CommandLine.Plan.wrapAll_of_classless hclassless

theorem classless_doubled_dot : Classless .initial (.str "a..b") noModule := by
  have hname : Text.trim "a..b" = "a..b" := by decide +kernel
  have hparts : splitDots "a..b" = ["a", "", "b"] := by decide +kernel
  have hmisses (k : Nat) (name : String) (hk : dotted (["a", "", "b"].take k) = name)
      (hne : name ≠ "") (hdot : name.startsWith "." = false)
      (hfails : (World.initial.importModule name).isOk = false) :
      World.initial.Misses ["a", "", "b"] k := by
    rw [World.Misses, hk]
    rcases World.importModule_of_not_startsWith (w := .initial) hne hdot with ⟨m, hm⟩ | hmissing
    · rw [hm] at hfails
      cases hfails
    · exact hmissing
  refine .module rfl (by rw [hname]; decide) ?_
  rw [hname, hparts]
  intro k hpos hlt
  have hk : k = 1 ∨ k = 2 := by
    have : k < 3 := hlt
    omega
  rcases hk with rfl | rfl
  · exact hmisses 1 "a" rfl (by decide) (by decide +kernel) (by decide +kernel)
  · exact hmisses 2 "a." rfl (by decide) (by decide +kernel) (by decide +kernel)

/-- An empty part between two dots is told to the user, and the next class is written. -/
theorem reported_before_int : ∃ p,
    CommandLine.Plan.make CommandLine.bare
      { CommandLine.Arguments.none with classes := ["a..b", "int"] } none = .ok p ∧
    Classless .initial (.str "a..b") noModule ∧
    (p.wrapAll .initial .initial ["a..b", "int"]).output =
      (p.wrapAll .initial .initial ["int"]).output ∧
    (p.wrapAll .initial .initial ["a..b", "int"]).errors =
      "Invalid class: " ++ "a..b" ++ " (" ++ noModule ++ ")\n" ++
        (p.wrapAll .initial .initial ["int"]).errors ∧
    (p.wrapAll .initial .initial ["a..b", "int"]).failed := by
  obtain ⟨p, hplan⟩ : ∃ p, CommandLine.Plan.make CommandLine.bare
      { CommandLine.Arguments.none with classes := ["a..b", "int"] } none = .ok p := ⟨_, rfl⟩
  obtain ⟨houtput, herrors, hfailed, -⟩ := (resolveClass_reports_or_escapes .initial (.str "a..b")).2 "a..b"
    noModule rfl classless_doubled_dot p .initial ["int"]
  exact ⟨p, hplan, classless_doubled_dot, houtput, herrors, hfailed⟩

/-- A dot at the beginning escapes: it is neither a class nor the report that there is none. -/
theorem leading_dot_escapes :
    World.initial.resolveClass (.str ".X") = .error .emptyModuleName ∧
    ¬ ((∃ c, World.initial.resolveClass (.str ".X") = .ok c) ∨
      ∃ shown reason, World.initial.resolveClass (.str ".X") =
        .error (.unknownClass shown reason)) := by
  have hname : Text.trim ".X" = ".X" := by decide +kernel
  have hlead : leadFailure ".X" = .emptyModuleName := rfl
  have hfails : World.initial.resolveClass (.str ".X") = .error (leadFailure (Text.trim ".X")) :=
    resolveClass_of_startsWith rfl (by rw [hname]; decide +kernel)
  rw [hname, hlead] at hfails
  simp [hfails]

end Overloads
