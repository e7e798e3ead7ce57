import Overloads.Proofs.Outcome
import Overloads.Routine.Assembly

/-! Programs of nested blocks. A block sets something for its body and leaves everything as it was. -/
namespace Overloads

variable {w : World} {reflect : Reflector} {a b inside : Ambient} {s : Setting} {f : Failure}

/-- The settings that a computation can see. -/
structure InForce where
  order? : Option OrderPolicy
  filter? : Option MemberFilter
  proofMode : Bool
  environment : Option String

def Ambient.inForce (a : Ambient) : InForce := ⟨a.order?, a.filter?, a.proofMode, a.environment⟩

/-- Settings with no others below them. -/
def InForce.ambient (i : InForce) : Ambient :=
  ⟨i.order?.toList, [i.filter?], [i.proofMode], i.environment⟩

theorem inForce_ambient (i : InForce) : i.ambient.inForce = i := by
  cases i with
  | mk order? _ _ _ => cases order? <;> rfl

namespace Setting

def kind : Setting → SettingKind
  | .order _ => .order
  | .filter _ => .filter
  | .proof _ => .proof

/-- The order policy that it sets, if it does. -/
def policy? : Setting → Option OrderPolicy
  | .order name => (OrderPolicy.normalize name).toOption
  | .filter _ | .proof _ => none

/-- The filter that it sets, if it does. That may be none. -/
def filter? : Setting → Option (Option MemberFilter)
  | .filter f => some f
  | .order _ | .proof _ => none

def proof? : Setting → Option Bool
  | .proof enabled => some enabled
  | .order _ | .filter _ => none

/-- Why it cannot be set. -/
def refusal? : Setting → Option Failure
  | .order name => Except.error? (OrderPolicy.normalize name)
  | .filter _ | .proof _ => none

variable {t : Setting}

theorem policy?_of_kind_ne (h : t.kind ≠ .order) : t.policy? = none := by
  cases t with
  | order _ => exact (h rfl).elim
  | filter _ | proof _ => rfl

theorem filter?_of_kind_ne (h : t.kind ≠ .filter) : t.filter? = none := by
  cases t with
  | filter _ => exact (h rfl).elim
  | order _ | proof _ => rfl

theorem proof?_of_kind_ne (h : t.kind ≠ .proof) : t.proof? = none := by
  cases t with
  | proof _ => exact (h rfl).elim
  | order _ | filter _ => rfl

end Setting

/-- What is in force inside of blocks, the innermost first: of each kind the innermost value. -/
def InForce.around (outside : InForce) (path : List Setting) : InForce where
  order? := (path.findSome? Setting.policy?).or outside.order?
  filter? := (path.findSome? Setting.filter?).getD outside.filter?
  proofMode := (path.findSome? Setting.proof?).getD outside.proofMode
  environment := outside.environment

/-- Whether the value that a block sets is in force. -/
def InForce.Has (i : InForce) : Setting → Prop
  | .order name => ∃ p, OrderPolicy.normalize name = .ok p ∧ i.order? = some p
  | .filter f => i.filter? = f
  | .proof enabled => i.proofMode = enabled

variable {outside : InForce} {path inner : List Setting}

theorem findSome?_of_inner {α : Type} {value? : Setting → Option α} {v : α}
    (hinner : ∀ t ∈ inner, value? t = none) (hs : value? s = some v) (outer : List Setting) :
    (inner ++ s :: outer).findSome? value? = some v := by
  rw [List.findSome?_append, List.findSome?_eq_none_iff.mpr hinner, Option.none_or,
    List.findSome?_cons, hs]

/-- A block has its way but for blocks of its kind inside of it. -/
theorem has_around (hs : s.refusal? = none) (hinner : ∀ t ∈ inner, t.kind ≠ s.kind)
    (outer : List Setting) : (outside.around (inner ++ s :: outer)).Has s := by
  cases s with
  | order name =>
    cases hname : OrderPolicy.normalize name with
    | error f => simp [Setting.refusal?, Except.error?, hname] at hs
    | ok p =>
      have hsome : (Setting.order name).policy? = some p := by
        simp [Setting.policy?, hname, Except.toOption]
      have hpolicy := findSome?_of_inner
        (fun t ht => Setting.policy?_of_kind_ne (hinner t ht)) hsome outer
      exact ⟨p, hname, by rw [InForce.around, hpolicy, Option.some_or]⟩
  | filter f =>
    have hfilter := findSome?_of_inner (v := f) (s := .filter f)
      (fun t ht => Setting.filter?_of_kind_ne (hinner t ht)) rfl outer
    exact congrArg (·.getD outside.filter?) hfilter
  | proof enabled =>
    have hproof := findSome?_of_inner (v := enabled) (s := .proof enabled)
      (fun t ht => Setting.proof?_of_kind_ne (hinner t ht)) rfl outer
    exact congrArg (·.getD outside.proofMode) hproof

theorem enter_eq_error : a.enter s = .error f ↔ s.refusal? = some f := by
  cases s with
  | order name => simp [Ambient.enter, Setting.refusal?, Except.map_eq_error, Except.error?_eq_some]
  | filter _ => simp [Ambient.enter, Setting.refusal?]
  | proof _ => simp [Ambient.enter, Setting.refusal?]

theorem leave_of_enter (h : a.enter s = .ok inside) : inside.leave s.kind = .ok a := by
  cases s with
  | order name =>
    obtain ⟨p, -, rfl⟩ := Except.map_eq_ok.mp h
    rfl
  | filter _ =>
    cases h
    rfl
  | proof _ =>
    cases h
    rfl

theorem inForce_of_enter (h : a.enter s = .ok inside) (ha : a.inForce = outside.around path) :
    inside.inForce = outside.around (s :: path) := by
  cases s with
  | order name =>
    obtain ⟨p, hp, rfl⟩ := Except.map_eq_ok.mp h
    have hsome : (Setting.order name).policy? = some p := by
      simp [Setting.policy?, hp, Except.toOption]
    have hpolicy : (Setting.order name :: path).findSome? Setting.policy? = some p := by
      rw [List.findSome?_cons, hsome]
    have haround : outside.around (.order name :: path) =
        { outside.around path with order? := some p } := by
      rw [InForce.around, hpolicy]
      rfl
    rw [haround, ← ha]
    rfl
  | filter g =>
    cases h
    have haround : outside.around (.filter g :: path) =
        { outside.around path with filter? := g } := rfl
    rw [haround, ← ha]
    rfl
  | proof enabled =>
    cases h
    have haround : outside.around (.proof enabled :: path) =
        { outside.around path with proofMode := enabled } := rfl
    rw [haround, ← ha]
    rfl

namespace Blocks

/-- What a program asks for under the settings in force. -/
inductive Act where
  | policy (asked : Option String) (default : OrderPolicy)
  | reflect (handle : Value) (selection : Selection)
  | generate (handle : Value) (options : Options)
  | list (listing : MemberListing)

inductive Answer where
  | policy (p : OrderPolicy)
  | members (ms : List Member)
  | generated (g : Generated)

def Act.answer (w : World) (reflect : Reflector) (a : Ambient) : Act → Except Failure Answer
  | .policy asked default => (a.orderPolicy asked default).map .policy
  | .reflect handle selection => (membersOf w a reflect handle selection).map .members
  | .generate handle options => (Overloads.generate w a reflect handle options).map .generated
  | .list listing => (listing.members a reflect).map .members

/--
A program that asks, enters blocks and fails where it likes. What comes after an act or a block depends on
what it gave, so that a program can also catch failures.
-/
inductive Program where
  | done
  | raise (f : Failure)
  | act (d : Act) (next : Except Failure Answer → Program)
  | block (s : Setting) (body : Program) (next : Except Failure Unit → Program)

inductive Event where
  | answered (under : InForce) (answer : Except Failure Answer)
  /-- A block was not entered. -/
  | refused (under : InForce) (f : Failure)
  /-- A block was left again, by a failure or not. -/
  | passed (before after : InForce)

/-- What happens in a program, and how it ends. -/
structure Trace where
  events : List Event
  outcome : Except Failure Unit

/-- A trace with something before it. -/
def Trace.behind (t : Trace) (events : List Event) : Trace := ⟨events ++ t.events, t.outcome⟩

namespace Program

/-- Runs a program. A block is left however its body ends. -/
def run (w : World) (reflect : Reflector) : Program → Ambient → Trace × Ambient
  | .done, a => (⟨[], .ok ()⟩, a)
  | .raise f, a => (⟨[], .error f⟩, a)
  | .act d next, a =>
    let answer := d.answer w reflect a
    let (t, last) := (next answer).run w reflect a
    (t.behind [.answered a.inForce answer], last)
  | .block s body next, a =>
    match a.enter s with
    | .error f =>
      let (t, last) := (next (.error f)).run w reflect a
      (t.behind [.refused a.inForce f], last)
    | .ok inside =>
      let (inner, inside) := body.run w reflect inside
      match inside.leave s.kind with
      | .error f =>
        let (t, last) := (next (.error f)).run w reflect inside
        (t.behind inner.events, last)
      | .ok back =>
        let (t, last) := (next inner.outcome).run w reflect back
        (t.behind (inner.events ++ [.passed a.inForce back.inForce]), last)

/-- What happens in a program if the blocks around a place alone say what is in force there. -/
def trace (w : World) (reflect : Reflector) (outside : InForce) : Program → List Setting → Trace
  | .done, _ => ⟨[], .ok ()⟩
  | .raise f, _ => ⟨[], .error f⟩
  | .act d next, path =>
    let under := outside.around path
    let answer := d.answer w reflect under.ambient
    ((next answer).trace w reflect outside path).behind [.answered under answer]
  | .block s body next, path =>
    let under := outside.around path
    match s.refusal? with
    | some f => ((next (.error f)).trace w reflect outside path).behind [.refused under f]
    | none =>
      let inner := body.trace w reflect outside (s :: path)
      ((next inner.outcome).trace w reflect outside path).behind
        (inner.events ++ [.passed under under])

end Program

theorem orderPolicy_congr (h : a.inForce = b.inForce) (asked : Option String)
    (default : OrderPolicy) : a.orderPolicy asked default = b.orderPolicy asked default := by
  obtain ⟨horder, -, -, henvironment⟩ := InForce.mk.inj h
  simp only [Ambient.orderPolicy, horder, henvironment]

theorem filterFor_congr (h : a.inForce = b.inForce) (asked : Option MemberFilter) :
    a.filterFor asked = b.filterFor asked := by
  obtain ⟨-, hfilter, -, -⟩ := InForce.mk.inj h
  rw [Ambient.filterFor, Ambient.filterFor, Ambient.memberFilter, Ambient.memberFilter, hfilter]

theorem apply_congr (h : a.inForce = b.inForce) (selection : Selection) (members : List Member) :
    selection.apply a members = selection.apply b members := by
  rw [Selection.apply, Selection.apply, filterFor_congr h, orderPolicy_congr h]

theorem membersOf_congr (h : a.inForce = b.inForce) (handle : Value) (selection : Selection) :
    membersOf w a reflect handle selection = membersOf w b reflect handle selection := by
  simp only [membersOf, apply_congr h]

theorem generate_congr (h : a.inForce = b.inForce) (handle : Value) (o : Options) :
    generate w a reflect handle o = generate w b reflect handle o := by
  obtain ⟨-, -, hproof, -⟩ := InForce.mk.inj h
  simp only [generate, MemberListing.capture, assembleClass, orderPolicy_congr h,
    filterFor_congr h, membersOf_congr h, hproof]

theorem answer_congr (h : a.inForce = b.inForce) (d : Act) :
    d.answer w reflect a = d.answer w reflect b := by
  cases d with
  | policy asked default => simp only [Act.answer, orderPolicy_congr h]
  | reflect handle selection => simp only [Act.answer, membersOf_congr h]
  | generate handle options => simp only [Act.answer, generate_congr h]
  | list listing => simp only [Act.answer, MemberListing.members, apply_congr h]

/-- A program does what the blocks around each place say, and leaves all settings as it found them. -/
theorem run_eq (p : Program) (h : a.inForce = outside.around path) :
    p.run w reflect a = (p.trace w reflect outside path, a) := by
  -- Whatever values lie below, what is in force is what the blocks around say. A body has one more.
  induction p generalizing a path with
  | done => rfl
  | raise f => rfl
  | act d next ih =>
    have hanswer : d.answer w reflect a = d.answer w reflect (outside.around path).ambient :=
      answer_congr (h.trans (inForce_ambient _).symm) d
    simp only [Program.run, Program.trace, ih _ h, hanswer, h]
  | block s body next ihbody ihnext =>
    cases henter : a.enter s with
    | error f =>
      have hrefusal : s.refusal? = some f := enter_eq_error.mp henter
      simp only [Program.run, Program.trace, henter, hrefusal, ihnext _ h, h]
    | ok inside =>
      have hrefusal : s.refusal? = none := by
        cases hrefusal : s.refusal? with
        | none => rfl
        | some f => cases henter.symm.trans (enter_eq_error.mpr hrefusal)
      have hbody := ihbody (inForce_of_enter henter h)
      simp only [Program.run, Program.trace, henter, hrefusal, hbody, leave_of_enter henter,
        ihnext _ h, h]

/-- Before and after a block the same is in force, also where its body fails. -/
theorem eq_of_mem_trace (p : Program) {before after : InForce}
    (h : .passed before after ∈ (p.trace w reflect outside path).events) : before = after := by
  induction p generalizing path with
  | done => cases h
  | raise f => cases h
  | act d next ih =>
    simp only [Program.trace, Trace.behind, List.mem_append, List.mem_singleton, reduceCtorEq,
      false_or] at h
    exact ih _ h
  | block s body next ihbody ihnext =>
    rw [Program.trace] at h
    split at h
    next f hrefusal =>
      simp only [Trace.behind, List.mem_append, List.mem_singleton, reduceCtorEq, false_or] at h
      exact ihnext _ h
    next =>
      simp only [Trace.behind, List.mem_append, List.mem_singleton, Event.passed.injEq] at h
      rcases h with (hbody | ⟨rfl, rfl⟩) | hnext
      · exact ihbody hbody
      · rfl
      · exact ihnext _ hnext

/-- The texts that name an order policy, in lower case and without white space around them. -/
def policyTexts : List String := ["sort", "trust", "sorted", "declared"]

theorem ofText?_eq_none_iff {text : String} : OrderPolicy.ofText? text = none ↔
    String.ofList (Text.lowerText (Text.trimmed text.toList)) ∉ policyTexts := by
  simp [OrderPolicy.ofText?, OrderPolicy.names, List.lookup_eq_none_iff, policyTexts]

/-- Only a value whose text names a policy can be set. -/
theorem enter_order_fails_iff {name : Value} : (∃ f, a.enter (.order name) = .error f) ↔
    ∀ text, name.text = some text →
      String.ofList (Text.lowerText (Text.trimmed text.toList)) ∉ policyTexts := by
  have htext : name.text.bind OrderPolicy.ofText? = none ↔
      ∀ text, name.text = some text → OrderPolicy.ofText? text = none := by
    simp [Option.bind_eq_none_iff]
  simp only [← ofText?_eq_none_iff, ← htext, Ambient.enter, Except.map_eq_error, OrderPolicy.normalize]
  cases name.text.bind OrderPolicy.ofText? with
  | none => simp
  | some p => simp

/--
However blocks are nested and wherever a program in them fails, it does what the innermost values around each
place say. Each block leaves the settings as it found them, and so does the program. A block with an
order policy that does not exist is not entered, and the settings stay as they are.
-/
theorem blocks_restore (w : World) (reflect : Reflector) (p : Program) (a : Ambient) :
    p.run w reflect a = (p.trace w reflect a.inForce [], a) ∧
    (∀ before after, .passed before after ∈ (p.run w reflect a).1.events → before = after) ∧
    (∀ (s : Setting) (inner outer : List Setting), s.refusal? = none →
      (∀ t ∈ inner, t.kind ≠ s.kind) → (a.inForce.around (inner ++ s :: outer)).Has s) ∧
    (∀ name : Value, (∀ text, name.text = some text →
        String.ofList (Text.lowerText (Text.trimmed text.toList)) ∉ policyTexts) ↔
      ∃ f, a.enter (.order name) = .error f ∧ ∀ body next,
        (Program.block (.order name) body next).run w reflect a =
          (((next (.error f)).trace w reflect a.inForce []).behind [.refused a.inForce f], a)) := by
  have haround : a.inForce = a.inForce.around [] := rfl
  have hrun (p : Program) : p.run w reflect a = (p.trace w reflect a.inForce [], a) :=
    run_eq p haround
  refine ⟨hrun p, ?_, fun s inner outer hs hinner => has_around hs hinner outer, ?_⟩
  · intro before after h
    rw [hrun] at h
    exact eq_of_mem_trace p h
  · intro name
    rw [← enter_order_fails_iff (a := a)]
    constructor
    · rintro ⟨f, hf⟩
      refine ⟨f, hf, fun body next => ?_⟩
      rw [hrun, Program.trace, enter_eq_error.mp hf]
      rfl
    · rintro ⟨f, hf, -⟩
      exact ⟨f, hf⟩

/-- Goes no further after a failure. -/
def Program.unlessFailed : Except Failure Unit → Program
  | .ok _ => .done
  | .error f => .raise f

/-- Asks for a policy that does not exist where proof mode is on and no filter is in force. -/
def upward : Program :=
  .block (.proof true)
    (.block (.filter none) (.block (.order (.str "upward")) .done .unlessFailed) .unlessFailed)
    fun _ => .done

/-- The failure goes through both blocks, and nothing is set then. -/
theorem upward_restores : ∃ f, Ambient.initial.enter (.order (.str "upward")) = .error f ∧
    upward.run .initial (fun _ => []) .initial = (⟨[
      .refused ⟨none, none, true, none⟩ f,
      .passed ⟨none, none, true, none⟩ ⟨none, none, true, none⟩,
      .passed ⟨none, none, false, none⟩ ⟨none, none, false, none⟩], .ok ()⟩, .initial) ∧
    ∀ before after, .passed before after ∈
      (upward.run .initial (fun _ => []) .initial).1.events → before = after := by
  obtain ⟨hrun, hpassed, -, hrefused⟩ := blocks_restore .initial (fun _ => []) upward .initial
  obtain ⟨f, hf, -⟩ := (hrefused (.str "upward")).mp (by
    intro text htext
    cases htext
    decide)
  refine ⟨f, hf, ?_, hpassed⟩
  have hrefusal : (Setting.order (.str "upward")).refusal? = some f := enter_eq_error.mp hf
  rw [hrun, upward]
  simp only [Program.trace, hrefusal]
  rfl

end Blocks
end Overloads
