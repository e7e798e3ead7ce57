import Overloads.Proofs.Member.Arity
import Overloads.Proofs.Member.Nearest
import Overloads.Proofs.Routine.Filtering
import Overloads.Proofs.Routine.Permutation

/-! Whom a routine names where it refuses a call: itself, but for methods that come in from a base. -/
namespace Overloads

variable {w : World} {c : ClassName} {hook : Option (Hook (Except Failure))} {r : Routine}
variable {members : List Member} {m k : Member} {args : List Value} {e refusal : Failure}

/-- A refusal that comes out of the choice of a member is the one given, or the hook has raised it. -/
theorem refusal_or_raised (he : e.isRefusal = true)
    (h : firstTaking w hook args refusal members = .error e) : e = refusal ∨ Raised hook e := by
  induction members with
  | nil =>
    cases h
    exact Or.inl rfl
  | cons m rest ih =>
    rcases Except.bind_eq_error.mp h with htest | ⟨taken, -, h⟩
    · exact Or.inr (raised_of_admitsAll he htest)
    · cases taken with
      | false => exact ih h
      | true =>
        rcases Except.bind_eq_error.mp h with hdelivery | ⟨delivered, -, hcall⟩
        · exact Or.inr (raised_of_delivery he hdelivery)
        · cases hcall

theorem firstTaking_of_all_reject (h : ∀ m ∈ members, m.Rejects w hook args) :
    firstTaking w hook args refusal members = .error refusal := by
  induction members with
  | nil => rfl
  | cons m rest ih =>
    obtain ⟨hfirst, hrest⟩ := List.forall_mem_cons.mp h
    rw [firstTaking_of_rejects hfirst]
    exact ih hrest

namespace Routine

/--
The refusal of a call, told of the member of the routine and of the types of all arguments. It names the
owner of the routine where no member is tried on so many arguments, and else that of the first tried.
-/
def blame (w : World) (r : Routine) (args : List Value) : Failure :=
  match r.tried args.length with
  | [] => r.refusal w args
  | first :: _ =>
    .noOverload first.owner.text r.memberName (args.map w.typeName) Failure.unrecognised

theorem dispatch_of_tried_nil {memberName name id : String}
    (h : (laidOut memberName members name id).tried args.length = []) :
    (laidOut memberName members name id).dispatch w hook args =
      .error ((laidOut memberName members name id).blame w args) := by
  rw [blame, h]
  rw [tried_laidOut] at h
  rw [dispatch_laidOut, respond, h]
  rfl

theorem dispatch_of_tried_cons {memberName name id : String} {first : Member} {rest : List Member}
    (hnames : ∀ m ∈ members, m.name = memberName)
    (h : (laidOut memberName members name id).tried args.length = first :: rest) :
    (laidOut memberName members name id).dispatch w hook args =
      firstTaking w hook args ((laidOut memberName members name id).blame w args)
        (first :: rest) := by
  rw [blame, h]
  rw [tried_laidOut] at h
  have hfirst : first ∈ candidates members args.length := h ▸ List.mem_cons_self
  have hname : first.name = memberName := hnames first (mem_candidates.mp hfirst).1
  rw [dispatch_laidOut, respond, h]
  dsimp only
  rw [hname]
  rfl

end Routine

/-- The routines of a class are laid out for members of one name. -/
theorem laidOut_of_assembles (hr : w.Assembles c r) : ∃ members name,
    r = .laidOut r.memberName members name r.identifier ∧
      ∀ m ∈ members, m ∈ w.members c ∧ m.name = r.memberName := by
  obtain ⟨selected, namePrefix, hselected, hgathers⟩ := gathers_of_assembles hr
  refine ⟨_, _, hgathers, ?_⟩
  intro m hm
  obtain ⟨hm, hname⟩ := List.mem_filter.mp hm
  exact ⟨hselected m hm, of_decide_eq_true hname⟩

/-- That every member with the name of its class is declared by the class, and by no base of it. -/
def World.OwnsItsName (w : World) (c : ClassName) : Prop :=
  ∀ m ∈ w.members c, m.name = c.simpleName → m.owner = c

/-- Members of one name have one owner: constructors the class, methods the nearest that has the name. -/
theorem owner_eq_of_name_eq (hw : w.NamesOnce) (hm : m ∈ w.members c) (hk : k ∈ w.members c)
    (hname : m.name = k.name) (howns : w.OwnsItsName c ∨ m.name ≠ c.simpleName) :
    m.owner = k.owner := by
  by_cases hown : m.name = c.simpleName
  · rcases howns with howns | hother
    · rw [howns m hm hown, howns k hk (hname ▸ hown)]
    · exact (hother hown).elim
  · have hmethod : ∀ x ∈ w.members c, x.name = m.name → x ∈ w.methods c := by
      intro x hx hsame
      rcases List.mem_append.mp hx with hconstructor | hx
      · exact (hown (hsame.symm.trans (name_of_constructor hconstructor))).elim
      · exact hx
    obtain ⟨-, a, hnearest⟩ := mem_methods hw (hmethod m hm rfl)
    obtain ⟨-, b, hnearest'⟩ := mem_methods hw (hmethod k hk hname.symm)
    rw [hname, hnearest'] at hnearest
    exact (congrArg Prod.fst (Option.some.inj hnearest)).symm

/-- What a routine tries is declared by the class that the routine names. -/
theorem owner_of_tried (hw : w.NamesOnce) (hr : w.Assembles c r)
    (howns : w.OwnsItsName c ∨ r.memberName ≠ c.simpleName) {n : Nat}
    (hm : m ∈ r.tried n) : m.owner.text = r.owner := by
  obtain ⟨members, name, hlaid, hmembers⟩ := laidOut_of_assembles hr
  rw [hlaid, Routine.tried_laidOut] at hm
  have hm := (mem_candidates.mp hm).1
  rw [hlaid, Routine.laidOut]
  cases members with
  | nil => cases hm
  | cons first rest =>
    obtain ⟨hmember, hname⟩ := hmembers m hm
    obtain ⟨hmember', hname'⟩ := hmembers first List.mem_cons_self
    have howner := owner_eq_of_name_eq hw hmember hmember' (hname.trans hname'.symm)
      (howns.imp_right fun hother => hname ▸ hother)
    simp [howner]

/--
Every refusal of a call of a routine is told as `Routine.blame` tells it, unless the hook has raised it, and
a call that every member tried rejects is refused so. But for a routine with the name of its class, where a
base declares a method of this name, that is to name the owner and the member of the routine.
-/
theorem refusals_blame_routine (w : World) (c : ClassName) (hw : w.NamesOnce)
    (hr : w.Assembles c r) (hook : Option (Hook (Except Failure))) (args : List Value) :
    (∀ e, e.isRefusal = true → r.dispatch w hook args = .error e →
      e = r.blame w args ∨ Raised hook e) ∧
    ((∀ m ∈ r.tried args.length, m.Rejects w hook args) →
      r.dispatch w hook args = .error (r.blame w args)) ∧
    (w.OwnsItsName c ∨ r.memberName ≠ c.simpleName →
      r.blame w args = .noOverload r.owner r.memberName (args.map w.typeName)
        (if (r.tried args.length).isEmpty then Failure.wrongNumber args.length
          else Failure.unrecognised)) := by
  obtain ⟨members, name, hlaid, hmembers⟩ := laidOut_of_assembles hr
  have hnames : ∀ m ∈ members, m.name = r.memberName := fun m hm => (hmembers m hm).2
  cases htried : r.tried args.length with
  | nil =>
    have hdispatch : r.dispatch w hook args = .error (r.blame w args) := by
      rw [hlaid] at htried ⊢
      exact Routine.dispatch_of_tried_nil htried
    refine ⟨?_, fun _ => hdispatch, fun _ => by rw [Routine.blame, htried]; rfl⟩
    intro e _ herror
    rw [hdispatch] at herror
    exact Or.inl (Except.error.inj herror).symm
  | cons first rest =>
    have hdispatch : r.dispatch w hook args =
        firstTaking w hook args (r.blame w args) (first :: rest) := by
      rw [hlaid] at htried ⊢
      exact Routine.dispatch_of_tried_cons hnames htried
    rw [hdispatch]
    refine ⟨fun e he herror => refusal_or_raised he herror, firstTaking_of_all_reject, ?_⟩
    intro howns
    have hfirst : first ∈ r.tried args.length := htried ▸ List.mem_cons_self
    rw [Routine.blame, htried, ← owner_of_tried hw hr howns hfirst]
    rfl

def caskClass : ClassName := ⟨["cellar"], ["Cask"]⟩

def kegClass : ClassName := ⟨["cellar"], ["Keg"]⟩

def kegFunction : Function where
  module := ["cellar"]
  path := ["Cask", "Keg"]
  role := .plain
  overloads := []
  implementation := Signature.withReceiver "self" ⟨[], none⟩
  body := .trace
  postponed := false

/-- The attributes of a class that declares a method `Keg`, or does not. -/
def kegAttributes (declares : Bool) : List (String × Attribute) :=
  if declares then [("Keg", .function .receiver kegFunction)] else []

/-- A class `Keg` below a class `Cask`, one of which declares a method `Keg`. -/
def cellar (inherited : Bool) : World where
  classes := [
    { name := kegClass
      linearization := [kegClass, caskClass, .object]
      isProtocol := false
      runtimeCheckable := false
      attributes := kegAttributes !inherited
      annotations := []
      constructorCounts := none },
    { name := caskClass
      linearization := [caskClass, .object]
      isProtocol := false
      runtimeCheckable := false
      attributes := kegAttributes inherited
      annotations := []
      constructorCounts := none }]
  modules := []

/-- The class that declares the method. -/
def kegHolder (inherited : Bool) : ClassName := if inherited then caskClass else kegClass

def kegMember (inherited : Bool) : Member where
  name := "Keg"
  kind := .method
  declared := [.reference (kegHolder inherited)]
  returns := .object
  owner := kegHolder inherited
  target := .function kegFunction none
  path := "cellar.Keg.Keg"
  varargs := none
  isStatic := false

theorem keepsBoxes_cellar (inherited : Bool) : (cellar inherited).KeepsBoxes := by
  intro p
  cases p <;> rfl

theorem own?_cellar (inherited : Bool) {name : String}
    (h : name ∈ [allocatorName, initializerName, "__signature__", "__wrapped__"]) :
    ∀ k ∈ [kegClass, caskClass], (cellar inherited).own? k name = none := by
  simp only [List.mem_cons, List.not_mem_nil, or_false] at h
  simp only [List.forall_mem_cons, List.not_mem_nil, false_implies, implies_true, and_true]
  rcases h with rfl | rfl | rfl | rfl <;> cases inherited <;> exact ⟨rfl, rfl⟩

theorem showsMaker_cellar (inherited : Bool) : (cellar inherited).ShowsMaker kegClass :=
  showsMaker_of_front (keepsBoxes_cellar inherited) [kegClass, caskClass] rfl fun k hk =>
    ⟨own?_cellar inherited (by simp) k hk, own?_cellar inherited (by simp) k hk⟩

/-- Without an allocator and an initializer the class has the constructor of the root class. -/
theorem constructors_keg (inherited : Bool) :
    (cellar inherited).constructors kegClass = [kegClass.constructorMember ⟨[], none, .object⟩] := by
  have hfunction (name : String) (h : name ∈ [allocatorName, initializerName]) :
      (cellar inherited).function? kegClass name = none :=
    function?_eq_none (keepsBoxes_cellar inherited) [kegClass, caskClass] rfl
      (own?_cellar inherited (List.mem_append_left _ h))
  have hmaker : (cellar inherited).maker? kegClass = none := by
    cases hmaker : (cellar inherited).maker? kegClass with
    | none => rfl
    | some f =>
      rcases function?_of_maker? hmaker with hf | hf
      · cases (hfunction _ (by simp)).symm.trans hf
      · cases (hfunction _ (by simp)).symm.trans hf
  have hinitializer : (cellar inherited).initializer? kegClass = none := by
    cases inherited <;> rfl
  have hcounts : (cellar inherited).constructorCounts? kegClass = none := by
    cases inherited <;> rfl
  rw [constructors_eq (by simp [hinitializer]),
    shown_classSource_of_counts (showsMaker_cellar inherited) hmaker, hcounts]
  rfl

/-- The method stands behind the constructor. -/
theorem members_keg (inherited : Bool) : (cellar inherited).members kegClass =
    [kegClass.constructorMember ⟨[], none, .object⟩, kegMember inherited] := by
  have hpublic : World.isPublic "Keg" = true := by simp [World.isPublic]
  have hvisible : (cellar inherited).visible kegClass =
      [(kegHolder inherited, "Keg", .function .receiver kegFunction)] := by
    cases inherited <;> rfl
  have hmethod : ((cellar inherited).reflectAttribute kegClass (kegHolder inherited) "Keg"
      (.function .receiver kegFunction)).members = [kegMember inherited] := rfl
  simp [World.members, constructors_keg, World.methods, World.reflectedMethods, hvisible, hpublic,
    hmethod]

/-- An integer is no receiver of the method, and the routine `Keg` of the class `Keg` refuses it. -/
theorem integer_refused (inherited : Bool) : ∃ r, (cellar inherited).Assembles kegClass r ∧
    r.memberName = "Keg" ∧ r.owner = kegClass.text ∧
    r.dispatch (m := Except Failure) (cellar inherited) none [.int 5] =
      .error (.noOverload (kegHolder inherited).text "Keg" ["int"] Failure.unrecognised) := by
  have hm : kegMember inherited ∈ (cellar inherited).members kegClass := by simp [members_keg]
  obtain ⟨r, hr, hmember, hgathers⟩ := exists_assembled hm
  have hgroup : ((cellar inherited).members kegClass).filter (·.name = r.memberName) =
      [kegClass.constructorMember ⟨[], none, .object⟩, kegMember inherited] := by
    rw [members_keg, hmember]
    rfl
  rw [Routine.Gathers, hgroup] at hgathers
  have hcandidates : candidates [kegClass.constructorMember ⟨[], none, .object⟩,
      kegMember inherited] 1 = [kegMember inherited] := by
    simp [candidates, exactly, openTo, sortedBy, Member.isVariadic, Member.parameterCount,
      ClassName.constructorMember, kegMember]
  have hrejects : (cellar inherited).isInstance (.int 5) (.reference (kegHolder inherited)) =
      .ok false := by
    cases inherited <;> rfl
  refine ⟨r, hr, hmember, ?_, ?_⟩
  · rw [hgathers]
    rfl
  · rw [hgathers, dispatch_laidOut, respond]
    simp only [List.length_cons, List.length_nil, hcandidates]
    simp [firstTaking, kegMember, Member.parameterTypes, admitsAll, admits_none, hrejects, bind,
      Except.bind]
    rfl

theorem namesOnce_cellar (inherited : Bool) : (cellar inherited).NamesOnce := by
  simp only [World.NamesOnce, ClassInfo.NamesOnce]
  cases inherited <;> decide

/-- Where the class declares the method itself, the refusal names it. -/
theorem own_keg_blamed : ∃ r, (cellar false).Assembles kegClass r ∧ r.memberName = "Keg" ∧
    ∃ reason, r.dispatch (m := Except Failure) (cellar false) none [.int 5] =
      .error (.noOverload r.owner r.memberName ["int"] reason) := by
  obtain ⟨r, hr, hmember, -, hrefused⟩ := integer_refused false
  have howns : (cellar false).OwnsItsName kegClass := by
    intro m hm _
    rw [members_keg] at hm
    simp only [List.mem_cons, List.not_mem_nil, or_false] at hm
    rcases hm with rfl | rfl <;> rfl
  obtain ⟨hrefusals, -, hnamed⟩ :=
    refusals_blame_routine (cellar false) kegClass (namesOnce_cellar false) hr none [.int 5]
  have hblamed := hnamed (Or.inl howns)
  rcases hrefusals _ rfl hrefused with hblame | ⟨f, hf, -⟩
  · exact ⟨r, hr, hmember, _, hrefused.trans (congrArg Except.error (hblame.trans hblamed))⟩
  · cases hf

/-- Where its base declares the method, the refusal names the base. -/
theorem base_blamed : ∃ r, (cellar true).Assembles kegClass r ∧ r.owner = "cellar.Keg" ∧
    r.dispatch (m := Except Failure) (cellar true) none [.int 5] =
      .error (.noOverload "cellar.Cask" "Keg" ["int"] Failure.unrecognised) := by
  obtain ⟨r, hr, -, howner, hrefused⟩ := integer_refused true
  exact ⟨r, hr, howner, hrefused⟩

end Overloads
