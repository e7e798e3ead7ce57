import Overloads.Proofs.Instance.Conversion
import Overloads.Proofs.Member.Order
import Overloads.Proofs.Routine.Delivery
import Overloads.Proofs.Routine.Guards

/-! Which calls a routine refuses, and that the order of its members has no part in it. -/
namespace Overloads

variable {w : World} {hook : Option (Hook (Except Failure))} {members others : List Member}
variable {m : Member} {args : List Value} {memberName reason : String} {v : Value} {t : TypeRef}
variable {e : Failure}

/-- That a routine refuses a call, for a reason. -/
def Routine.Refuses (w : World) (hook : Option (Hook (Except Failure))) (r : Routine)
    (args : List Value) (reason : String) : Prop :=
  ∃ owner memberName argTypes,
    r.dispatch w hook args = .error (.noOverload owner memberName argTypes reason)

/-- That two routines refuse the same calls, each for the same reason. -/
def Routine.RefusesLike (w : World) (hook : Option (Hook (Except Failure))) (r r' : Routine) :
    Prop :=
  ∀ args reason, r.Refuses w hook args reason ↔ r'.Refuses w hook args reason

/-- That a member takes every argument in its place. -/
def Member.Takes (w : World) (hook : Option (Hook (Except Failure))) (m : Member)
    (args : List Value) : Prop :=
  admitsAll w hook (args.zip (m.parameterTypes args.length)) = .ok true

/-- That a member does not take the arguments, and that to find this out succeeds. -/
def Member.Rejects (w : World) (hook : Option (Hook (Except Failure))) (m : Member)
    (args : List Value) : Prop :=
  admitsAll w hook (args.zip (m.parameterTypes args.length)) = .ok false

theorem rejects_of_not_takes (hhook : ∀ h ∈ hook, h.Total)
    (htest : ∀ t ∈ m.testedTypes, w.Testable t) (h : ¬ m.Takes w hook args) :
    m.Rejects w hook args := by
  obtain ⟨b, hb⟩ : ∃ b, admitsAll w hook (args.zip (m.parameterTypes args.length)) = .ok b := by
    apply admitsAll_answers
    rintro ⟨v, t⟩ hx
    exact admits_answers (htest t (Member.mem_testedTypes (List.of_mem_zip hx).2))
      (coerced_answers hhook v t)
  cases b with
  | false => exact hb
  | true => exact (h hb).elim

/-- That a hook fails, on some value and for some class, in a certain way. -/
def Raised (hook : Option (Hook (Except Failure))) (e : Failure) : Prop :=
  ∃ h ∈ hook, ∃ v k, h.apply v k = .error e

theorem raised_of_coerced (h : coerced hook v t = .error e) : Raised hook e := by
  cases hook with
  | none => cases h
  | some f => exact ⟨f, rfl, v, t.boxed, h⟩

/-- Of what a test runs, only the hook can raise the refusal of a call. -/
theorem raised_of_admits (he : e.isRefusal = true) (h : admits w hook v t = .error e) :
    Raised hook e := by
  rcases Except.bind_eq_error.mp h with hcoerced | ⟨u, -, htest⟩
  · exact raised_of_coerced hcoerced
  · rw [ofExcept_eq] at htest
    cases he.symm.trans (World.unrefused_isInstance u t e htest)

theorem raised_of_admitsAll {l : List (Value × TypeRef)} (he : e.isRefusal = true)
    (h : admitsAll w hook l = .error e) : Raised hook e := by
  induction l with
  | nil => cases h
  | cons x rest ih =>
    rcases Except.bind_eq_error.mp h with hfirst | ⟨b, -, hrest⟩
    · exact raised_of_admits he hfirst
    · cases b with
      | false => cases hrest
      | true => exact ih hrest

/-- Conversions raise no refusal, so of what a delivery runs only the hook can. -/
theorem raised_of_delivery (he : e.isRefusal = true) (h : m.delivery w hook args = .error e) :
    Raised hook e := by
  rw [delivery_eq_mapM] at h
  obtain ⟨⟨⟨v, t⟩, i⟩, -, hfails⟩ := exists_of_mapM_eq_error h
  rcases Except.bind_eq_error.mp hfails with hcoerced | ⟨u, -, hcast⟩
  · exact raised_of_coerced hcoerced
  · cases hc : m.castAt? i t with
    | none =>
      rw [hc] at hcast
      cases hcast
    | some c =>
      rw [hc] at hcast
      cases he.symm.trans (World.unrefused_cast w c u e hcast)

theorem unrefused_delivery (hhook : ∀ h ∈ hook, h.Total) (m : Member) (args : List Value) :
    Unrefused (m.delivery w hook args) := by
  intro e h
  cases he : e.isRefusal with
  | false => rfl
  | true =>
    obtain ⟨f, hf, v, k, hfails⟩ := raised_of_delivery he h
    obtain ⟨u, hu⟩ := hhook f hf v k
    cases hu.symm.trans hfails

theorem firstTaking_of_takes {refusal : Failure} {rest : List Member} (h : m.Takes w hook args) :
    firstTaking w hook args refusal (m :: rest) = (do return ⟨m, ← m.delivery w hook args⟩) := by
  rw [firstTaking, h]
  rfl

theorem firstTaking_of_rejects {refusal : Failure} {rest : List Member}
    (h : m.Rejects w hook args) :
    firstTaking w hook args refusal (m :: rest) = firstTaking w hook args refusal rest := by
  rw [Member.Rejects] at h
  rw [firstTaking, h]
  rfl

theorem firstTaking_of_not_takes {refusal : Failure} {rest : List Member}
    (hhook : ∀ h ∈ hook, h.Total) (htest : ∀ t ∈ m.testedTypes, w.Testable t)
    (h : ¬ m.Takes w hook args) :
    firstTaking w hook args refusal (m :: rest) = firstTaking w hook args refusal rest :=
  firstTaking_of_rejects (rejects_of_not_takes hhook htest h)

/-- Among members that can be tested, the first that takes the arguments keeps the others out. -/
theorem firstTaking_eq_refusal_iff {ms : List Member} {refusal : Failure} {owner name : String}
    {argTypes : List String} (hhook : ∀ h ∈ hook, h.Total)
    (htest : ∀ m ∈ ms, ∀ t ∈ m.testedTypes, w.Testable t) :
    firstTaking w hook args refusal ms = .error (.noOverload owner name argTypes reason) ↔
      refusal = .noOverload owner name argTypes reason ∧ ∀ m ∈ ms, ¬ m.Takes w hook args := by
  induction ms with
  | nil => simp [firstTaking, throw, throwThe, MonadExceptOf.throw]
  | cons m rest ih =>
    have hrest := ih fun k hk => htest k (List.mem_cons_of_mem m hk)
    by_cases htakes : m.Takes w hook args
    · have hdelivery := (unrefused_delivery (w := w) hhook m args).ne owner name argTypes reason
      constructor
      · intro h
        rw [firstTaking_of_takes htakes] at h
        cases hd : m.delivery w hook args with
        | ok delivered => simp [hd, bind, Except.bind, pure, Except.pure] at h
        | error e =>
          simp only [hd, bind, Except.bind, Except.error.injEq] at h
          subst h
          exact (hdelivery hd).elim
      · exact fun h => (h.2 m List.mem_cons_self htakes).elim
    · rw [firstTaking_of_not_takes hhook (htest m List.mem_cons_self) htakes, hrest]
      simp [htakes]

/--
The arguments are refused as too few or too many where no member is tried on so many, and by their
types where none of those tried takes them.
-/
theorem respond_refuses_iff (hhook : ∀ h ∈ hook, h.Total)
    (htest : ∀ m ∈ members, ∀ t ∈ m.testedTypes, w.Testable t) :
    (∃ owner name argTypes, respond w hook memberName members args =
        .error (.noOverload owner name argTypes reason)) ↔
      (reason = Failure.wrongNumber args.length ∧ ∀ m, m ∉ candidates members args.length) ∨
      (reason = Failure.unrecognised ∧ (∃ m, m ∈ candidates members args.length) ∧
        ∀ m ∈ candidates members args.length, ¬ m.Takes w hook args) := by
  have htried : ∀ m ∈ candidates members args.length, ∀ t ∈ m.testedTypes, w.Testable t :=
    fun m hm => htest m (mem_candidates.mp hm).1
  unfold respond
  cases hall : candidates members args.length with
  | nil => simp [throw, throwThe, MonadExceptOf.throw, eq_comm]
  | cons first rest =>
    rw [hall] at htried
    simp only [firstTaking_eq_refusal_iff hhook htried, Failure.noOverload.injEq]
    constructor
    · rintro ⟨owner, name, argTypes, ⟨-, -, -, hreason⟩, hnone⟩
      exact Or.inr ⟨hreason.symm, ⟨first, List.mem_cons_self⟩, hnone⟩
    · rintro (⟨-, hnone⟩ | ⟨hreason, -, hnone⟩)
      · exact (hnone first List.mem_cons_self).elim
      · exact ⟨_, _, _, ⟨rfl, rfl, rfl, hreason.symm⟩, hnone⟩

theorem refuses_laidOut_iff {name id : String} (hhook : ∀ h ∈ hook, h.Total)
    (htest : ∀ m ∈ members, ∀ t ∈ m.testedTypes, w.Testable t) :
    (Routine.laidOut memberName members name id).Refuses w hook args reason ↔
      (reason = Failure.wrongNumber args.length ∧ ∀ m, m ∉ candidates members args.length) ∨
      (reason = Failure.unrecognised ∧ (∃ m, m ∈ candidates members args.length) ∧
        ∀ m ∈ candidates members args.length, ¬ m.Takes w hook args) := by
  simp only [Routine.Refuses, dispatch_laidOut]
  exact respond_refuses_iff hhook htest

theorem mem_candidates_of_perm {n : Nat} (h : members.Perm others) :
    m ∈ candidates members n ↔ m ∈ candidates others n := by
  rw [mem_candidates, mem_candidates, h.mem_iff]

theorem refusesLike_laidOut {name id name' id' memberName' : String} (h : members.Perm others)
    (hhook : ∀ h ∈ hook, h.Total) (htest : ∀ m ∈ members, ∀ t ∈ m.testedTypes, w.Testable t) :
    (Routine.laidOut memberName members name id).RefusesLike w hook
      (.laidOut memberName' others name' id') := by
  intro args reason
  have hothers : ∀ m ∈ others, ∀ t ∈ m.testedTypes, w.Testable t :=
    fun m hm => htest m (h.mem_iff.mpr hm)
  simp only [refuses_laidOut_iff hhook htest, refuses_laidOut_iff hhook hothers,
    mem_candidates_of_perm h]

/-- Each routine of the one list has its like among those of the other. -/
theorem assembleAll_refusesLike (hperm : members.Perm others) (hhook : ∀ h ∈ hook, h.Total)
    (htest : ∀ m ∈ members, ∀ t ∈ m.testedTypes, w.Testable t) (proofMode : Bool)
    (namePrefix : String) : ∃ rs rs',
      Routine.assembleAll proofMode namePrefix members = .ok rs ∧
      Routine.assembleAll proofMode namePrefix others = .ok rs' ∧
      ∀ r ∈ rs, ∃ r' ∈ rs', r'.memberName = r.memberName ∧ r.RefusesLike w hook r' := by
  have hnames : ∀ m ∈ members, ∃ k ∈ others, k.name = m.name :=
    fun m hm => ⟨m, hperm.mem_iff.mp hm, rfl⟩
  obtain ⟨rs, rs', hrs, hrs', hcounterparts⟩ :=
    Routine.exists_counterparts hnames proofMode namePrefix
  refine ⟨rs, rs', hrs, hrs', ?_⟩
  intro r hr
  obtain ⟨hgathers, r', hr', hname, hgathers'⟩ := hcounterparts r hr
  refine ⟨r', hr', hname, ?_⟩
  rw [hgathers, hgathers', hname]
  exact refusesLike_laidOut (hperm.filter _) hhook fun m hm => htest m (List.mem_filter.mp hm).1

/--
Members in any two orders make routines that refuse the same calls, for too few or too many
arguments or for their types. So do the routines of all names under any two policies.
-/
theorem refusesLike_of_perm (hne : members ≠ []) (hperm : members.Perm others)
    (hhook : ∀ h ∈ hook, h.Total) (htest : ∀ m ∈ members, ∀ t ∈ m.testedTypes, w.Testable t)
    (proofMode : Bool) (memberName name id : String) :
    (∃ r r', Routine.assemble proofMode memberName members name id = .ok r ∧
      Routine.assemble proofMode memberName others name id = .ok r' ∧ r.RefusesLike w hook r') ∧
    ∀ (p p' : OrderPolicy) (namePrefix : String), ∃ rs rs',
      Routine.assembleAll proofMode namePrefix (p.arrange members) = .ok rs ∧
      Routine.assembleAll proofMode namePrefix (p'.arrange members) = .ok rs' ∧
      ∀ r ∈ rs, ∃ r' ∈ rs', r'.memberName = r.memberName ∧ r.RefusesLike w hook r' := by
  have hne' : others ≠ [] := by
    rintro rfl
    exact hne hperm.eq_nil
  refine ⟨⟨_, _, Routine.assemble_eq hne proofMode memberName name id,
    Routine.assemble_eq hne' proofMode memberName name id,
    refusesLike_laidOut hperm hhook htest⟩, ?_⟩
  intro p p' namePrefix
  have hpolicies : (p.arrange members).Perm (p'.arrange members) :=
    (arrange_perm p members).trans (arrange_perm p' members).symm
  apply assembleAll_refusesLike hpolicies hhook
  intro m hm
  exact htest m ((arrange_perm p members).mem_iff.mp hm)

/-- Two members for whole numbers. -/
def wholeNumbers : List Member :=
  [.tracing [.primitive .int] none, .tracing [.primitive .long] none]

theorem testable_wholeNumbers :
    ∀ m ∈ wholeNumbers, ∀ t ∈ m.testedTypes, World.empty.Testable t := by
  intro m hm t ht
  obtain ⟨p, rfl⟩ : ∃ p, t = .primitive p := by
    simp only [wholeNumbers, List.mem_cons, List.not_mem_nil, or_false] at hm
    rcases hm with rfl | rfl
    · exact ⟨.int, by simpa [Member.testedTypes, Member.tracing] using ht⟩
    · exact ⟨.long, by simpa [Member.testedTypes, Member.tracing] using ht⟩
  exact testable_of_decides World.staysOut_empty.settles (decides_primitive (fun _ => rfl) p)

/-- They refuse a text by its type, whichever comes first. -/
theorem text_refused_in_any_order :
    (∃ r r', Routine.assemble true "f" wholeNumbers "f" "f" = .ok r ∧
      Routine.assemble true "f" wholeNumbers.reverse "f" "f" = .ok r' ∧
      r.RefusesLike .empty none r' ∧ r.Refuses .empty none [.str "a"] Failure.unrecognised ∧
      r'.Refuses .empty none [.str "a"] Failure.unrecognised) ∧
    ∀ (p p' : OrderPolicy) (namePrefix : String), ∃ rs rs',
      Routine.assembleAll true namePrefix (p.arrange wholeNumbers) = .ok rs ∧
      Routine.assembleAll true namePrefix (p'.arrange wholeNumbers) = .ok rs' ∧
      ∀ r ∈ rs, ∃ r' ∈ rs', r'.memberName = r.memberName ∧ r.RefusesLike .empty none r' := by
  have hne : wholeNumbers ≠ [] := by simp [wholeNumbers]
  have hhook : ∀ h ∈ (none : Option (Hook (Except Failure))), h.Total := by simp
  obtain ⟨⟨r, r', hr, hr', hlike⟩, hpolicies⟩ := refusesLike_of_perm hne
    (List.reverse_perm wholeNumbers).symm hhook testable_wholeNumbers true "f" "f" "f"
  refine ⟨⟨r, r', hr, hr', hlike, ?_⟩, hpolicies⟩
  have hrefuses : r.Refuses .empty none [.str "a"] Failure.unrecognised := by
    rw [Routine.assemble_eq hne] at hr
    cases hr
    apply (refuses_laidOut_iff hhook testable_wholeNumbers).mpr
    refine Or.inr ⟨rfl, ⟨_, mem_candidates.mpr ⟨List.mem_cons_self, Or.inl rfl⟩⟩, ?_⟩
    intro m hm htakes
    have hm := (mem_candidates.mp hm).1
    simp only [wholeNumbers, List.mem_cons, List.not_mem_nil, or_false] at hm
    rcases hm with rfl | rfl <;> cases htakes
  exact ⟨hrefuses, (hlike _ _).mp hrefuses⟩

end Overloads
