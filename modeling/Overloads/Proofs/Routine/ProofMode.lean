import Overloads.Member.Reflection
import Overloads.Proofs.Routine.Assembly
import Overloads.Proofs.Routine.FirstTaker

/-! Proof mode has nothing to object to and changes nothing. -/
namespace Overloads

variable {members : List Member} {names : List String}

namespace Routine

theorem assembleNames_proofMode (h : ∀ n ∈ names, ∃ m ∈ members, m.name = n) (proofMode : Bool)
    (namePrefix : String) (taken : List String) :
    assembleNames proofMode namePrefix members taken names =
      assembleNames false namePrefix members taken names := by
  induction names generalizing taken with
  | nil => rfl
  | cons n rest ih =>
    obtain ⟨m, hm, hname⟩ := h n List.mem_cons_self
    have hgroup : members.filter (·.name = n) ≠ [] :=
      List.ne_nil_of_mem (List.mem_filter.mpr ⟨hm, by simp [hname]⟩)
    have hrest := ih fun k hk => h k (List.mem_cons_of_mem n hk)
    simp only [assembleNames, assemble_eq hgroup, hrest]

theorem assembleAll_proofMode (members : List Member) (proofMode : Bool) (namePrefix : String) :
    assembleAll proofMode namePrefix members = assembleAll false namePrefix members :=
  assembleNames_proofMode (fun _ hn => mem_memberNames.mp hn) proofMode namePrefix []

end Routine

variable {w : World} {a : Ambient} {reflect : Reflector} {handle : Value} {o : Options}
variable {c : ClassName} {p : OrderPolicy}

theorem membersOf_eq (hclass : w.resolveClass handle = .ok c)
    (hpolicy : a.orderPolicy o.selection.order .trust = .ok p) :
    membersOf w a reflect handle o.selection =
      .ok (p.arrange ((reflect c).filter (a.filterFor o.selection.filter))) := by
  simp [membersOf, hclass, Selection.apply, hpolicy, bind, Except.bind, Except.map]

/--
Members make one and the same routine whether it is checked or not, and the check finds no number of
arguments without a set. So a class makes the same routines under every proof mode, whatever the
filter and the policy.
-/
theorem assembled_in_any_mode :
    (∀ members ≠ [], ∀ (namePrefix memberName : String) (name id : Option String),
      ∃ r : Routine, r.verify members = .ok () ∧ ∀ proofMode,
        Routine.assembleNamed proofMode namePrefix memberName members name id = .ok r) ∧
    ∀ (w : World) (a : Ambient) (reflect : Reflector) (handle : Value) (o : Options)
      (c : ClassName) (p : OrderPolicy), w.resolveClass handle = .ok c →
      a.orderPolicy o.selection.order .trust = .ok p →
      ∃ rs, ∀ proofs, assembleClass w { a with proofs := proofs } reflect handle o = .ok rs := by
  constructor
  · intro members hne namePrefix memberName name id
    exact ⟨_, Routine.verify_laidOut, fun proofMode => Routine.assemble_eq hne proofMode _ _ _⟩
  · intro w a reflect handle o c p hclass hpolicy
    let selected := p.arrange ((reflect c).filter (a.filterFor o.selection.filter))
    obtain ⟨rs, hrs, -⟩ := Routine.assembleAll_eq selected false o.namePrefix
    refine ⟨rs, fun proofs => ?_⟩
    have hmembers : membersOf w { a with proofs := proofs } reflect handle o.selection =
        .ok selected := membersOf_eq hclass hpolicy
    rw [assembleClass, hmembers]
    exact (Routine.assembleAll_proofMode selected _ o.namePrefix).trans hrs

/-- A variadic member behind a gap, and a builtin class in sorted order. -/
theorem assembled_with_gap_in_any_mode :
    (∃ r : Routine,
      r.verify [.tracing [] none, .tracing [.object, .object] (some .object)] = .ok () ∧
      ∀ proofMode, Routine.assembleNamed proofMode "" "f"
        [.tracing [] none, .tracing [.object, .object] (some .object)] none none = .ok r) ∧
    ∃ rs, ∀ proofs, assembleClass .initial { Ambient.initial with proofs := proofs }
      World.initial.members (.type (.builtin "int")) ⟨"", ⟨none, some "sorted"⟩, false⟩ =
        .ok rs := by
  obtain ⟨hmembers, hclass⟩ := assembled_in_any_mode
  refine ⟨hmembers _ (by simp) "" "f" none none, ?_⟩
  exact hclass .initial .initial World.initial.members (.type (.builtin "int")) _ (.builtin "int")
    .sort rfl rfl

end Overloads
