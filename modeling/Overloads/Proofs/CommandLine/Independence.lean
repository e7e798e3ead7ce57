import Overloads.CommandLine.Run
import Overloads.Proofs.Member.Selection

/-! Where the filter and the order are given, the settings in force make no difference. -/
namespace Overloads

variable {w : World} {reflect : Reflector} {handle : Value} {f : MemberFilter} {name : String}
variable {p : OrderPolicy} {l : MemberListing}

theorem generate_ambient (hf : f.truthy = true) (hname : OrderPolicy.ofText name = .ok p)
    (a b : Ambient) (namePrefix : String) (membersOnly : Bool) :
    generate w a reflect handle ⟨namePrefix, ⟨some f, some name⟩, membersOnly⟩ =
      generate w b reflect handle ⟨namePrefix, ⟨some f, some name⟩, membersOnly⟩ := by
  unfold generate
  rw [capture_explicit hf hname, capture_explicit hf hname, assembleClass_explicit hf hname,
    assembleClass_explicit hf hname]

/-- A listing is read as it was asked for. -/
theorem selection_of_generate {a : Ambient} {o : Options} (hf : f.truthy = true)
    (hname : OrderPolicy.ofText name = .ok p)
    (hselection : o.selection = ⟨some f, some name⟩)
    (h : generate w a reflect handle o = .ok (.listing l)) : l.selection = ⟨some f, some name⟩ := by
  rw [generate, hselection, capture_explicit hf hname] at h
  split at h
  · obtain ⟨listing, hlisting, heq⟩ := Except.map_eq_ok.mp h
    cases heq
    obtain ⟨c, -, rfl⟩ := Except.map_eq_ok.mp hlisting
    rfl
  · obtain ⟨rs, -, heq⟩ := Except.map_eq_ok.mp h
    cases heq

theorem descriptors_ambient (hf : f.truthy = true) (hname : OrderPolicy.ofText name = .ok p)
    (hselection : l.selection = ⟨some f, some name⟩) (a b : Ambient) :
    l.descriptors a reflect = l.descriptors b reflect := by
  obtain ⟨c, s⟩ := l
  cases hselection
  rw [descriptors_explicit hf hname, descriptors_explicit hf hname]

namespace CommandLine

namespace Plan

variable (p : Plan)

theorem wrapClass_ambient (w : World) (a b : Ambient) (c : ClassName) :
    p.wrapClass w a c = p.wrapClass w b c := by
  have hname := ofText_text (p.settings.order.getD .trust)
  have hgenerate : generate w a w.members (.type c) p.options =
      generate w b w.members (.type c) p.options := generate_ambient rfl hname a b _ _
  unfold wrapClass
  rw [hgenerate]
  cases hmade : generate w b w.members (.type c) p.options with
  | error e => rfl
  | ok made =>
    cases made with
    | routines rs => rfl
    | listing l =>
      have hread : l.descriptors a w.members = l.descriptors b w.members :=
        descriptors_ambient rfl hname (selection_of_generate rfl hname rfl hmade) a b
      simp only [hread]

theorem wrapHandle_ambient (w : World) (a b : Ambient) (handle : String) :
    p.wrapHandle w a handle = p.wrapHandle w b handle := by
  have hclass : p.wrapClass w a = p.wrapClass w b := funext (p.wrapClass_ambient w a b)
  unfold wrapHandle
  rw [hclass]

theorem wrapAll_ambient (w : World) (a b : Ambient) (handles : List String) :
    p.wrapAll w a handles = p.wrapAll w b handles := by
  induction handles with
  | nil => rfl
  | cons handle rest ih => rw [wrapAll, wrapAll, p.wrapHandle_ambient w a b, ih]

/-- A plan is carried out in the same way in any ambient. -/
theorem run_ambient (s : Surroundings) (b : Ambient) :
    p.run { s with ambient := b } = p.run s := by
  have hinstallation : p.installation { s with ambient := b } = p.installation s := rfl
  unfold run
  rw [hinstallation]
  obtain ⟨effects, installed⟩ := p.installation s
  cases installed with
  | error e => rfl
  | ok path =>
    have hall := p.wrapAll_ambient s.world { b with proofs := p.settings.proofMode :: b.proofs }
      { s.ambient with proofs := p.settings.proofMode :: s.ambient.proofs } p.classes
    simp only [hall]

end Plan

/-- A plan is made without looking at the ambient. -/
theorem Plan.make_ambient (s : Surroundings) (b : Ambient) (args : Arguments) (width : Option Int) :
    Plan.make { s with ambient := b } args width = Plan.make s args width := rfl

theorem run_ambient (s : Surroundings) (b : Ambient) (args : List String) :
    run { s with ambient := b } args = run s args := by
  unfold run
  cases Request.ofArguments args with
  | help => rfl
  | misuse => rfl
  | wrap arguments width =>
    simp only [Plan.make_ambient]
    cases Plan.make s arguments width with
    | error refusal => cases refusal <;> rfl
    | ok p => simp only [p.run_ambient s b]

end CommandLine

/--
Members, routines and listings that are asked for with a filter that counts as true and a policy that
exists are the same in any two ambients, for a listing both where it is made and where it is read. A run
of the command line is always the same in any two ambients, with all that it does and the way it ends.
-/
theorem explicit_in_any_ambient (a b : Ambient) :
    (∀ (w : World) (reflect : Reflector) (handle : Value) (f : MemberFilter) (name : String)
      (p : OrderPolicy), f.truthy = true → OrderPolicy.ofText name = .ok p →
      membersOf w a reflect handle ⟨some f, some name⟩ =
        membersOf w b reflect handle ⟨some f, some name⟩ ∧
      (∀ (namePrefix : String) (membersOnly : Bool),
        assembleClass w a reflect handle ⟨namePrefix, ⟨some f, some name⟩, membersOnly⟩ =
          assembleClass w b reflect handle ⟨namePrefix, ⟨some f, some name⟩, membersOnly⟩) ∧
      ∀ a' b' : Ambient,
        (MemberListing.capture w a handle ⟨some f, some name⟩).bind (·.descriptors a' reflect) =
          (MemberListing.capture w b handle ⟨some f, some name⟩).bind (·.descriptors b' reflect)) ∧
    ∀ (s : CommandLine.Surroundings) (args : List String),
      CommandLine.run { s with ambient := a } args = CommandLine.run { s with ambient := b } args := by
  constructor
  · intro w reflect handle f name p hf hname
    refine ⟨?_, ?_, ?_⟩
    · rw [membersOf_explicit hf hname, membersOf_explicit hf hname]
    · intro namePrefix membersOnly
      rw [assembleClass_explicit hf hname, assembleClass_explicit hf hname]
    · intro a' b'
      rw [capture_explicit hf hname, capture_explicit hf hname]
      cases w.resolveClass handle with
      | error e => rfl
      | ok c => simp only [Except.map, Except.bind, descriptors_explicit hf hname]
  · intro s args
    exact CommandLine.run_ambient { s with ambient := b } a args

/-- A scope lets nothing pass and the environment asks for an order that does not exist. -/
def Ambient.forbidding : Ambient :=
  { Ambient.initial with
    filters := [some (.plain fun _ => false)]
    environment := some "shuffled" }

/-- The sorted members of a builtin class, where nothing is set and where all of it is set otherwise. -/
theorem sorted_in_any_ambient :
    MemberFilter.always.truthy = true ∧ OrderPolicy.ofText " Sorted " = .ok .sort ∧
    membersOf .initial .initial World.initial.members (.type (.builtin "int"))
        ⟨some .always, some " Sorted "⟩ =
      membersOf .initial .forbidding World.initial.members (.type (.builtin "int"))
        ⟨some .always, some " Sorted "⟩ ∧
    ∀ b, (MemberListing.capture .initial .initial (.type (.builtin "int"))
        ⟨some .always, some " Sorted "⟩).bind (·.descriptors b World.initial.members) =
      (MemberListing.capture .initial .forbidding (.type (.builtin "int"))
        ⟨some .always, some " Sorted "⟩).bind (·.descriptors b World.initial.members) := by
  obtain ⟨hexplicit, -⟩ := explicit_in_any_ambient .initial .forbidding
  obtain ⟨hmembers, -, hlisted⟩ := hexplicit .initial World.initial.members (.type (.builtin "int"))
    .always " Sorted " .sort rfl rfl
  exact ⟨rfl, rfl, hmembers, fun b => hlisted b b⟩

/-- A predicate that lets every member pass, and does not count as true by itself. -/
def MemberFilter.hollow : MemberFilter := { MemberFilter.always with truthy := false }

/-- Where it is asked for, a scope that lets nothing pass takes its place, also in a listing. -/
theorem hollow_filter_gives_way :
    let m := Member.tracing [.object] none
    let s : Selection := ⟨some .hollow, some "trust"⟩
    membersOf .empty .initial (fun _ => [m]) (.type .object) s = .ok [m] ∧
    membersOf .empty .forbidding (fun _ => [m]) (.type .object) s = .ok [] ∧
    (MemberListing.capture .empty .initial (.type .object) s).bind
        (·.descriptors .initial fun _ => [m]) = .ok [m.descriptor] ∧
    (MemberListing.capture .empty .forbidding (.type .object) s).bind
        (·.descriptors .initial fun _ => [m]) = .ok [] := by
  intro m s
  have hclass : World.empty.resolveClass (.type .object) = .ok .object := rfl
  have htaken (a : Ambient) : membersOf .empty a (fun _ => [m]) (.type .object) s =
      .ok ([m].filter a.memberFilter) :=
    membersOf_eq (o := ⟨"", s, false⟩) (p := .trust) hclass rfl
  have hlisted (a : Ambient) : (MemberListing.capture .empty a (.type .object) s).bind
      (·.descriptors .initial fun _ => [m]) =
        .ok (([m].filter a.memberFilter).map (·.descriptor)) := by
    have hcapture : MemberListing.capture .empty a (.type .object) s =
        .ok ⟨.object, ⟨some a.memberFilter, some "trust"⟩⟩ := by
      rw [MemberListing.capture, hclass]
      rfl
    have htrue : a.memberFilter.truthy = true := truthy_filterFor a none
    have htrust : OrderPolicy.ofText "trust" = .ok .trust := rfl
    rw [hcapture]
    exact descriptors_explicit htrue htrust
  rw [htaken, htaken, hlisted, hlisted]
  exact ⟨rfl, rfl, rfl, rfl⟩

end Overloads
