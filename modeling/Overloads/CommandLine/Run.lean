import Overloads.CommandLine.Plan
import Overloads.Log.Event
import Overloads.Member.Reflection
import Overloads.Routine.Assembly
import Overloads.Source.Printer

/-! Runs of the command line. -/
namespace Overloads.CommandLine

/-- What a run does, one thing at a time. -/
inductive Effect where
  | print (text : String)
  | complain (text : String)
  | log (asObject : Bool) (e : Event)
  | showHelp
  | showMisuse
  | execute (command : List String)
  deriving DecidableEq, Repr

inductive Ending where
  | exit (failed : Bool)
  /-- A failure that nobody handles. -/
  | escaped (f : Failure)
  deriving Repr

structure Outcome where
  effects : List Effect
  ending : Ending
  deriving Repr

namespace Outcome

/-- Does something before. -/
def after (effects : List Effect) (o : Outcome) : Outcome := { o with effects := effects ++ o.effects }

/-- Goes on with another outcome unless a failure escaped. One failed part makes the whole fail. -/
def append (o next : Outcome) : Outcome :=
  match o.ending with
  | .escaped _ => o
  | .exit failed =>
    { effects := o.effects ++ next.effects
      ending := match next.ending with
        | .exit later => .exit (failed || later)
        | e => e }

/-- The exit status. -/
def failed (o : Outcome) : Bool :=
  match o.ending with
  | .exit b => b
  | .escaped _ => true

def printed : Effect → String
  | .print s => s
  | _ => ""

def complained : Effect → String
  | .complain s => s
  | _ => ""

/-- What is written to the standard output, help apart. -/
def output (o : Outcome) : String := String.join (o.effects.map printed)

/-- What is written to the standard error, the log apart. -/
def errors (o : Outcome) : String := String.join (o.effects.map complained)

def commands (o : Outcome) : List (List String) :=
  o.effects.filterMap fun
    | .execute c => some c
    | _ => none

/-- The events, each with the form in which it is written. -/
def events (o : Outcome) : List (Bool × Event) :=
  o.effects.filterMap fun
    | .log asObject e => some (asObject, e)
    | _ => none

end Outcome

def printLine (s : String) : Effect := .print (s ++ "\n")

def complainLine (s : String) : Effect := .complain (s ++ "\n")

/-- The failures after which the next class is tried. -/
def isReported : Failure → Bool
  | .noOverload _ _ _ _ | .broken _ _ | .unknownClass _ _ | .badPattern _ _
  | .unmetDependencies _ _ => true
  | _ => false

namespace Plan

variable (p : Plan)

/-- Logs an event if its level is shown. -/
def logged (e : Event) : List Effect := if p.level.shows e.level then [.log p.asObjects e] else []

def options : Options where
  namePrefix := p.settings.namePrefix
  selection := ⟨some (.plain p.filter), some (p.settings.order.getD .trust).text⟩
  membersOnly := p.membersOnly

/-- What reflecting a class tells the log. -/
def reflectionEvents (w : World) (c : ClassName) : List Event :=
  let remarked (r : Remark) : Event :=
    match r with
    | .unresolved target reason =>
      ⟨.debug, "reflect.annotations_unresolved",
        [("error", .text reason.message), ("target", .text target)]⟩
    | .skipped member reason =>
      ⟨.debug, "reflect.member_skipped",
        [("owner", .text c.text), ("member", .text member), ("reason", .text reason.text)]⟩
  let members := w.members c
  (w.remarks c).map remarked ++ [⟨.debug, "reflect.members",
    [("cls", .text c.text), ("reflected", .count members.length),
      ("kept", .count (members.filter p.filter).length)]⟩]

def assemblyEvent (c : ClassName) (rs : List Routine) : Event :=
  ⟨.debug, "synthesis.class_assembled",
    [("cls", .text c.text), ("members", .count (rs.flatMap (·.signatures)).length),
      ("routines", .count rs.length)]⟩

/-- Reports a failure with one class. -/
def failure (c : ClassName) (f : Failure) : Outcome :=
  if isReported f then
    let reason := f.message.getD ""
    { effects := p.logged ⟨.error, "cli.generation_failed",
          [("cls", .text c.text), ("error", .text reason)]⟩ ++
        [complainLine ("Failed to wrap " ++ c.text ++ ": " ++ reason)]
      ending := .exit true }
  else ⟨[], .escaped f⟩

def success (effects : List Effect) : Outcome := ⟨effects, .exit false⟩

/-- Prints what is generated for a class, below its banner. -/
def wrapClass (w : World) (a : Ambient) (c : ClassName) : Outcome :=
  let banner := [printLine "", printLine ("# ==== " ++ c.text ++ " ====")]
  let reflection := (p.reflectionEvents w c).flatMap p.logged
  let documented := if p.settings.documented then some (some p.settings.width) else none
  let generated := match generate w a w.members (.type c) p.options with
    | .error f => p.failure c f
    | .ok (.listing l) =>
      match l.descriptors a w.members with
      | .error f => p.failure c f
      | .ok ds => success (ds.map printLine)
    | .ok (.routines rs) =>
      Outcome.after (p.logged (assemblyEvent c rs))
        (match render w p.hookPath documented rs with
          | .error f => p.failure c f
          | .ok text => success [.print text])
  generated.after (banner ++ reflection)

/-- Finds the class that a handle names and prints what is generated for it. -/
def wrapHandle (w : World) (a : Ambient) (handle : String) : Outcome :=
  let search := ClassSearch.of w (.str handle)
  let imports := search.failedImports.flatMap fun (module, reason) =>
    p.logged ⟨.debug, "resolve.import_failed",
      [("module", .text module), ("error", .text reason)]⟩
  Outcome.after imports
    (match search.result with
      | .ok c => p.wrapClass w a c
      | .error (.unknownClass h reason) =>
        { effects := p.logged ⟨.error, "cli.class_unresolvable",
              [("handle", .text handle), ("reason", .text reason)]⟩ ++
            [complainLine ((Failure.unknownClass h reason).message.getD "")]
          ending := .exit true }
      | .error f => ⟨[], .escaped f⟩)

/-- The handles in turn. One that fails does not keep the others back. -/
def wrapAll (w : World) (a : Ambient) : List String → Outcome
  | [] => success []
  | handle :: rest => (p.wrapHandle w a handle).append (wrapAll w a rest)

/-- What is done to install the dependencies, and the import path after it. -/
def installation (s : Surroundings) : List Effect × Except Failure ImportPath :=
  if p.dependencies.isEmpty then ([], .ok s.importPath)
  else
    let command := installCommand s.interpreter s.target p.dependencies
    let names := ", ".intercalate (p.dependencies.map (·.text))
    (complainLine ("Adding dependencies to import path: " ++ names) ::
        p.logged ⟨.info, "deps.install",
          [("requirements", .texts (p.dependencies.map (·.requirement))),
            ("target", .text s.target)]⟩ ++
        [.execute command],
      s.importPath.install s.target p.dependencies (s.installer command))

/-- Carries the plan out. The import path after it is given beside the outcome. -/
def run (s : Surroundings) : Outcome × ImportPath :=
  let (effects, installed) := p.installation s
  match installed with
  | .error f => (⟨effects ++ [complainLine (f.message.getD "")], .exit true⟩, s.importPath)
  | .ok path =>
    let ambient := { s.ambient with proofs := p.settings.proofMode :: s.ambient.proofs }
    ((p.wrapAll s.world ambient p.classes).after effects, path)

end Plan

/-- Shows the help and why nothing is done. -/
def refused (reason : String) : Outcome :=
  ⟨[.showHelp, complainLine ("Error:\n" ++ reason ++ "\n\n")], .exit true⟩

/-- A run with these arguments, and the import path after it. -/
def run (s : Surroundings) (args : List String) : Outcome × ImportPath :=
  match Request.ofArguments args with
  | .help => (⟨[.showHelp], .exit false⟩, s.importPath)
  | .misuse => (⟨[.showMisuse], .exit true⟩, s.importPath)
  | .wrap a width =>
    match Plan.make s a width with
    | .error (.told reason) => (refused reason, s.importPath)
    | .error (.escaped f) => (⟨[], .escaped f⟩, s.importPath)
    | .ok p => p.run s

end Overloads.CommandLine
