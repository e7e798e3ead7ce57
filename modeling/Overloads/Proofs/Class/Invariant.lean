import Overloads.Class.Definition
import Overloads.Proofs.Outcome

/-! What every statement of a program keeps holds of the world that the program defines. -/
namespace Overloads

variable {α β : Type} {w w' : World} {s s' : Store}

theorem run_bind_eq_ok {x : Making α} {f : α → Making β} {r : β × Store} :
    (x >>= f).run s = .ok r ↔ ∃ a s', x.run s = .ok (a, s') ∧ (f a).run s' = .ok r := by
  rw [StateT.run_bind, Except.bind_eq_ok]
  constructor
  · rintro ⟨⟨a, s'⟩, hx, hf⟩
    exact ⟨a, s', hx, hf⟩
  · rintro ⟨a, s', hx, hf⟩
    exact ⟨(a, s'), hx, hf⟩

theorem run_liftM_eq_ok {x : Except Failure α} {a : α}
    (h : (liftM x : Making α).run s = .ok (a, s')) : x = .ok a ∧ s = s' := by
  cases x with
  | error e => cases h
  | ok b =>
    cases h
    exact ⟨rfl, rfl⟩

/-- What every step of a walk over a list keeps, the walk keeps. -/
theorem foldlM_keeps {P : β → Prop} {f : β → α → Making β} {l : List α}
    (hstep : ∀ a ∈ l, ∀ b b' s s', P b → (f b a).run s = .ok (b', s') → P b') {b b' : β}
    {s s' : Store} (hb : P b) (h : (l.foldlM f b).run s = .ok (b', s')) : P b' := by
  induction l generalizing b s with
  | nil =>
    cases h
    exact hb
  | cons a rest ih =>
    rw [List.foldlM_cons, run_bind_eq_ok] at h
    obtain ⟨b₁, s₁, hfirst, h⟩ := h
    have hb₁ := hstep a List.mem_cons_self b b₁ s s₁ hb hfirst
    exact ih (fun a ha => hstep a (List.mem_cons_of_mem _ ha)) hb₁ h

theorem foldl_keeps {P : β → Prop} {f : β → α → β} {l : List α} (hstep : ∀ b a, P b → P (f b a))
    {b : β} (hb : P b) : P (l.foldl f b) := by
  induction l generalizing b with
  | nil => exact hb
  | cons a rest ih => exact ih (hstep b a hb)

/--
Adding a class changes nothing but the list of classes, which gets it in front. A protocol without
an initializer gets one that refuses.
-/
theorem addClass_ok {name : ClassName} {bases : List ClassName} {protocol : Option ProtocolKind}
    {body : ClassBody} (h : w.addClass name bases protocol body = .ok w') :
    ∃ i : ClassInfo, w' = { w with classes := i :: w.classes } ∧ i.name = name ∧
      i.constructorCounts = none ∧ (i.attributes = body.finish ∨
        body.finish.lookup initializerName = none ∧ i.attributes = body.finish ++
          [(initializerName, .function .receiver (.refusal name.module name.path))]) := by
  unfold World.addClass at h
  dsimp only at h
  repeat' split at h
  all_goals try cases h
  case h_2.isFalse.isTrue.refl hrefuses =>
    simp only [Bool.and_eq_true, Option.isNone_iff_eq_none] at hrefuses
    exact ⟨_, rfl, rfl, rfl, Or.inr ⟨hrefuses.1.2, rfl⟩⟩
  case h_2.isFalse.isFalse.refl =>
    exact ⟨_, rfl, rfl, rfl, Or.inl (List.append_nil _)⟩

mutual

/-- The functions that the body of a class defines, nested classes included. -/
def ClassText.functions : ClassText → List FunctionText
  | .mk _ _ _ members => functionsOf members

def functionsOf : List MemberText → List FunctionText
  | [] => []
  | m :: rest => m.functions ++ functionsOf rest

def MemberText.functions : MemberText → List FunctionText
  | .function f => [f]
  | .nested c => c.functions
  | .property _ | .cached _ | .value _ _ | .hint _ | .rename _ _ => []

end

/-- Whether an attribute is neither a function nor native. -/
def Attribute.isData : Attribute → Bool
  | .property | .cached _ _ | .value _ | .nested _ => true
  | .function _ _ | .native _ _ | .unsigned _ | .special => false

/--
That `P` of a world and `Q` of a class body in progress are kept by the statements of a module that
define no functions but `fine` ones.
-/
structure Kept (module : List String) (fine : FunctionText → Prop) (P : World → Prop)
    (Q : ClassBody → Prop) : Prop where
  /-- The world is judged by its classes. -/
  entry : ∀ {w w'}, w'.classes = w.classes → P w → P w'
  addition : ∀ {w w' path bases protocol body}, P w → Q body →
    w.addClass ⟨module, path⟩ bases protocol body = .ok w' → P w'
  start : Q .empty
  function : ∀ {w scope body body' f s s'}, Q body → fine f →
    (World.defineFunction w scope body f).run s = .ok (body', s') → Q body'
  data : ∀ {body name a}, Q body → Attribute.isData a = true → Q (body.set name a)
  shared : ∀ {body name target a}, Q body → body.attributes.lookup target = some a →
    Q (body.set name (ClassBody.shared a))
  hint : ∀ {body annotations}, Q body → Q { body with annotations := annotations }

namespace Kept

variable {module : List String} {fine : FunctionText → Prop} {P : World → Prop}
variable {Q : ClassBody → Prop}

theorem isData_of_global? {name : String} {a : Attribute} (h : w.global? module name = some a) :
    a.isData = true := by
  unfold World.global? at h
  dsimp only at h
  split at h <;> cases h <;> rfl

/-- A second name for what is of the module, which is no function there. -/
theorem rename (k : Kept module fine P Q) {body : ClassBody} {name target : String} {a : Attribute}
    (hbody : Q body)
    (h : (body.attributes.lookup target).orElse (fun _ => w.global? module target) = some a) :
    Q (body.set name (ClassBody.shared a)) := by
  cases hlookup : body.attributes.lookup target with
  | some b =>
    obtain rfl : b = a := by simpa [hlookup] using h
    exact k.shared hbody hlookup
  | none =>
    have hdata : a.isData = true := isData_of_global? (by simpa [hlookup] using h)
    have hsame : ClassBody.shared a = a := by cases a <;> first | rfl | cases hdata
    rw [hsame]
    exact k.data hbody hdata

mutual

/-- By induction on the text, where a class in a body is defined before its name is set there. -/
theorem defineClass (k : Kept module fine P Q) (t : ClassText) {w w' : World} {scope : Scope}
    {c : ClassName} {s s' : Store} (hscope : scope.module = module)
    (hfine : ∀ f ∈ t.functions, fine f) (hw : P w)
    (h : (w.defineClass scope t).run s = .ok ((w', c), s')) : P w' := by
  cases t with
  | mk name bases protocol members =>
    rw [World.defineClass, run_bind_eq_ok] at h
    obtain ⟨⟨w₁, body⟩, s₁, hmembers, h⟩ := h
    have hinner : Scope.module { scope with path := scope.path ++ [name] } = module := hscope
    obtain ⟨hw₁, hbody⟩ := defineMembers k members hinner hfine hw k.start hmembers
    rw [run_bind_eq_ok] at h
    obtain ⟨w₂, s₂, hrun, h⟩ := h
    cases h
    obtain ⟨hadd, rfl⟩ := run_liftM_eq_ok hrun
    subst hscope
    exact k.addition hw₁ hbody hadd

theorem defineMembers (k : Kept module fine P Q) (ms : List MemberText) {w w' : World}
    {scope : Scope} {body body' : ClassBody} {s s' : Store} (hscope : scope.module = module)
    (hfine : ∀ f ∈ functionsOf ms, fine f) (hw : P w) (hbody : Q body)
    (h : (w.defineMembers scope body ms).run s = .ok ((w', body'), s')) : P w' ∧ Q body' := by
  cases ms with
  | nil =>
    cases h
    exact ⟨hw, hbody⟩
  | cons m rest =>
    rw [World.defineMembers, run_bind_eq_ok] at h
    obtain ⟨⟨w₁, body₁⟩, s₁, hfirst, h⟩ := h
    have hm : ∀ f ∈ m.functions, fine f := fun f hf => hfine f (List.mem_append_left _ hf)
    have hrest : ∀ f ∈ functionsOf rest, fine f := fun f hf => hfine f (List.mem_append_right _ hf)
    obtain ⟨hw₁, hbody₁⟩ := defineMember k m hscope hm hw hbody hfirst
    exact defineMembers k rest hscope hrest hw₁ hbody₁ h

theorem defineMember (k : Kept module fine P Q) (m : MemberText) {w w' : World} {scope : Scope}
    {body body' : ClassBody} {s s' : Store} (hscope : scope.module = module)
    (hfine : ∀ f ∈ m.functions, fine f) (hw : P w) (hbody : Q body)
    (h : (w.defineMember scope body m).run s = .ok ((w', body'), s')) : P w' ∧ Q body' := by
  cases m with
  | nested t =>
    rw [World.defineMember, run_bind_eq_ok] at h
    obtain ⟨⟨w₁, n⟩, s₁, hclass, h⟩ := h
    cases h
    exact ⟨defineClass k t hscope hfine hw hclass, k.data hbody rfl⟩
  | function f =>
    rw [World.defineMember, run_bind_eq_ok] at h
    obtain ⟨body₁, s₁, hfunction, h⟩ := h
    cases h
    exact ⟨hw, k.function hbody (hfine f (List.mem_singleton.mpr rfl)) hfunction⟩
  | value name r =>
    rw [World.defineMember, run_bind_eq_ok] at h
    obtain ⟨v, s₁, -, h⟩ := h
    cases h
    exact ⟨hw, k.data hbody rfl⟩
  | rename name target =>
    rw [World.defineMember] at h
    split at h
    · rename_i a ha
      cases h
      rw [hscope] at ha
      exact ⟨hw, k.rename hbody ha⟩
    · cases h
  | property =>
    cases h
    exact ⟨hw, k.data hbody rfl⟩
  | cached =>
    cases h
    exact ⟨hw, k.data hbody rfl⟩
  | hint =>
    cases h
    exact ⟨hw, k.hint hbody⟩

end

theorem setModuleEntry (k : Kept module fine P Q) {entry : String} {thing : Thing}
    {name : List String} (hw : P w) : P (w.setModuleEntry name entry thing) :=
  k.entry (w := w) rfl hw

theorem addModule (k : Kept module fine P Q) {name : List String} (hw : P w) :
    P (w.addModule name) := by
  unfold World.addModule
  split
  · exact hw
  · exact k.entry (w := w) rfl hw

theorem defineModule {m : ModuleText} (k : Kept m.name fine P Q)
    (hfine : ∀ t ∈ m.classes, ∀ f ∈ t.functions, fine f) (hw : P w)
    (h : (w.defineModule m).run s = .ok (w', s')) : P w' := by
  unfold World.defineModule at h
  dsimp only at h
  rw [run_bind_eq_ok] at h
  obtain ⟨w₁, s₁, hclasses, h⟩ := h
  have hw₁ : P w₁ := by
    refine foldlM_keeps ?_ ?_ hclasses
    · intro t ht v v' s s' hv hstep
      rw [run_bind_eq_ok] at hstep
      obtain ⟨⟨v₁, n⟩, s₁, hclass, hstep⟩ := hstep
      cases hstep
      exact k.setModuleEntry (k.defineClass t rfl (hfine t ht) hv hclass)
    · have hpackages : P ((List.range m.name.length).foldl
          (fun w i => w.addModule (m.name.take (i + 1))) w) :=
        foldl_keeps (fun v i hv => k.addModule hv) hw
      split
      · exact k.setModuleEntry hpackages
      · exact hpackages
  refine foldlM_keeps ?_ ?_ h
  · intro constant _ v v' s s' hv hstep
    rw [run_bind_eq_ok] at hstep
    obtain ⟨value, s₁, -, hstep⟩ := hstep
    cases hstep
    exact k.setModuleEntry hv
  · exact foldl_keeps (fun v f hv => k.setModuleEntry hv) hw₁

theorem defineModules {ms : List ModuleText} (k : ∀ m ∈ ms, Kept m.name fine P Q)
    (hfine : ∀ m ∈ ms, ∀ t ∈ m.classes, ∀ f ∈ t.functions, fine f) (hinitial : P .initial)
    (h : (World.defineModules ms).run s = .ok (w, s')) : P w :=
  foldlM_keeps (fun m hm _ _ _ _ hw hstep => (k m hm).defineModule (hfine m hm) hw hstep) hinitial h

end Kept

end Overloads
