import Overloads.Proofs.Routine.ProofMode

/-! What is asked for outweighs the settings in force, and a listing keeps those that it was made under. -/
namespace Overloads

variable {w : World} {a : Ambient} {reflect : Reflector} {handle : Value} {s : Selection}
variable {c : ClassName} {p : OrderPolicy} {f : MemberFilter} {name : String}

theorem ofText_text (p : OrderPolicy) : OrderPolicy.ofText p.text = .ok p := by
  cases p <;> rfl

theorem orderPolicy_some (a : Ambient) (name : String) (default : OrderPolicy) :
    a.orderPolicy (some name) default = OrderPolicy.ofText name := rfl

/-- An empty text names no policy. -/
theorem isEmpty_of_ofText (h : OrderPolicy.ofText name = .ok p) : name.isEmpty = false := by
  rw [Bool.eq_false_iff]
  intro hempty
  rw [String.isEmpty_iff.mp hempty] at h
  cases h

/-- Where nothing names a policy that does not exist, there is one to follow. -/
theorem exists_orderPolicy {asked : Option String}
    (hasked : ∀ name ∈ asked, ∃ p, OrderPolicy.ofText name = .ok p)
    (henvironment : ∀ raw ∈ a.environment,
      (Text.trim raw).isEmpty = true ∨ ∃ p, OrderPolicy.ofText (Text.trim raw) = .ok p)
    (default : OrderPolicy) : ∃ p, a.orderPolicy asked default = .ok p := by
  unfold Ambient.orderPolicy
  split
  · exact hasked _ rfl
  · exact ⟨_, rfl⟩
  · dsimp only
    split
    · exact ⟨_, rfl⟩
    · rename_i hraw
      cases hvariable : a.environment with
      | none =>
        rw [hvariable] at hraw
        exact (hraw rfl).elim
      | some raw =>
        rw [hvariable] at hraw
        exact (henvironment raw hvariable).resolve_left hraw

theorem filterFor_some (a : Ambient) (hf : f.truthy = true) : a.filterFor (some f) = f := by
  rw [Ambient.filterFor, Option.filter_some_pos hf, Option.getD_some]

/-- Whatever is asked for, the filter to follow counts as true. -/
theorem truthy_filterFor (a : Ambient) (asked : Option MemberFilter) :
    (a.filterFor asked).truthy = true := by
  have hchosen (chosen : Option MemberFilter) {other : MemberFilter} (hother : other.truthy = true) :
      ((chosen.filter (·.truthy)).getD other).truthy = true := by
    cases hc : chosen.filter (·.truthy) with
    | none => exact hother
    | some g => exact (Option.filter_eq_some_iff.mp hc).2
  exact hchosen asked (hchosen a.filter? rfl)

/-- The members that are selected by a filter and a policy. -/
def OrderPolicy.select (p : OrderPolicy) (f : MemberFilter) (members : List Member) : List Member :=
  p.arrange (members.filter f)

theorem membersOf_explicit (hf : f.truthy = true) (hname : OrderPolicy.ofText name = .ok p) :
    membersOf w a reflect handle ⟨some f, some name⟩ =
      (w.resolveClass handle).map fun c => p.select f (reflect c) := by
  cases hclass : w.resolveClass handle with
  | error e => rw [membersOf, hclass]; rfl
  | ok c =>
    rw [membersOf_eq (o := ⟨"", ⟨some f, some name⟩, false⟩) hclass hname, filterFor_some a hf]
    rfl

theorem assembleClass_explicit (hf : f.truthy = true) (hname : OrderPolicy.ofText name = .ok p)
    (namePrefix : String) (membersOnly : Bool) :
    assembleClass w a reflect handle ⟨namePrefix, ⟨some f, some name⟩, membersOnly⟩ =
      (w.resolveClass handle).bind fun c =>
        Routine.assembleAll false namePrefix (p.select f (reflect c)) := by
  rw [assembleClass, membersOf_explicit hf hname]
  cases w.resolveClass handle with
  | error e => rfl
  | ok c => exact Routine.assembleAll_proofMode _ _ namePrefix

theorem capture_explicit (hf : f.truthy = true) (hname : OrderPolicy.ofText name = .ok p) :
    MemberListing.capture w a handle ⟨some f, some name⟩ =
      (w.resolveClass handle).map fun c => ⟨c, ⟨some f, some name⟩⟩ := by
  simp only [MemberListing.capture, isEmpty_of_ofText hname, filterFor_some a hf]
  cases w.resolveClass handle <;> rfl

/-- A listing has the filter in force, and a name for the policy in force. -/
theorem exists_capture (hclass : w.resolveClass handle = .ok c)
    (hpolicy : a.orderPolicy s.order .trust = .ok p) :
    ∃ name, OrderPolicy.ofText name = .ok p ∧
      MemberListing.capture w a handle s =
        .ok ⟨c, ⟨some (a.filterFor s.filter), some name⟩⟩ := by
  cases horder : s.order with
  | none =>
    rw [horder] at hpolicy
    refine ⟨p.text, ofText_text p, ?_⟩
    rw [MemberListing.capture, horder]
    simp only [hpolicy, hclass]
    rfl
  | some name =>
    rw [horder] at hpolicy
    have hname : OrderPolicy.ofText name = .ok p := hpolicy
    refine ⟨name, hname, ?_⟩
    rw [MemberListing.capture, horder]
    simp only [isEmpty_of_ofText hname, hclass]
    rfl

theorem members_explicit (hf : f.truthy = true) (hname : OrderPolicy.ofText name = .ok p) :
    MemberListing.members a reflect ⟨c, ⟨some f, some name⟩⟩ = .ok (p.select f (reflect c)) := by
  simp only [MemberListing.members, Selection.apply, orderPolicy_some, hname, filterFor_some a hf]
  rfl

theorem descriptors_explicit (hf : f.truthy = true) (hname : OrderPolicy.ofText name = .ok p) :
    MemberListing.descriptors a reflect ⟨c, ⟨some f, some name⟩⟩ =
      .ok ((p.select f (reflect c)).map (·.descriptor)) := by
  rw [MemberListing.descriptors, members_explicit hf hname]
  rfl

end Overloads
