import Overloads.Proofs.Member.Order
import Overloads.Proofs.Routine.Insertion
import Overloads.Proofs.Routine.Namespace

/-! Members in sorted order make the same routines in whatever order they are declared. -/
namespace Overloads

variable {w : World} {hook : Option (Hook (Except Failure))} {a b : Member}
variable {ms ms' members : List Member} {args : List Value} {call : Call} {r r' : Routine}
variable {refusal refusal' : Failure} {memberName memberName' name name' id id' : String}

section Overload

variable (h : a.overload = b.overload)
include h

theorem name_of_overload : a.name = b.name := congrArg Overload.name h

theorem parameterCount_of_overload : a.parameterCount = b.parameterCount :=
  congrArg (fun o : Overload => o.declared.length) h

theorem isVariadic_of_overload : a.isVariadic = b.isVariadic :=
  congrArg (fun o : Overload => o.varargs.isSome) h

theorem parameterTypes_of_overload (n : Nat) : a.parameterTypes n = b.parameterTypes n := by
  simp only [Member.overload, Overload.mk.injEq] at h
  obtain ⟨-, hdeclared, hvarargs, -⟩ := h
  rw [Member.parameterTypes, Member.parameterTypes, hdeclared, hvarargs]

theorem delivery_of_overload (args : List Value) :
    a.delivery w hook args = b.delivery w hook args := by
  rw [Member.delivery, Member.delivery, parameterTypes_of_overload h,
    parameterCount_of_overload h]

theorem declaredSignature_of_overload :
    Routine.declaredSignature a = Routine.declaredSignature b := by
  simp only [Member.overload, Overload.mk.injEq] at h
  obtain ⟨-, hdeclared, hvarargs, hreturns⟩ := h
  rw [Routine.declaredSignature, Routine.declaredSignature, Member.signature, Member.signature,
    hdeclared, hvarargs, hreturns]

end Overload

/-- Among members of the same signatures, place by place, the same one takes the arguments. -/
theorem firstTaking_of_map_overload (h : ms.map (·.overload) = ms'.map (·.overload))
    (hcall : firstTaking w hook args refusal ms = .ok call) :
    ∃ m, m.overload = call.member.overload ∧
      firstTaking w hook args refusal' ms' = .ok ⟨m, call.args⟩ := by
  induction ms generalizing ms' with
  | nil => cases hcall
  | cons a rest ih =>
    cases ms' with
    | nil => simp at h
    | cons b rest' =>
      obtain ⟨hab, hrest⟩ := List.cons.inj h
      rw [firstTaking, parameterTypes_of_overload hab] at hcall
      rw [firstTaking]
      cases hadmits : admitsAll w hook (args.zip (b.parameterTypes args.length)) with
      | error e => simp [hadmits, bind, Except.bind] at hcall
      | ok takes =>
        cases takes with
        | false =>
          simp only [hadmits, bind, Except.bind, Bool.false_eq_true, if_false] at hcall ⊢
          exact ih hrest hcall
        | true =>
          rw [delivery_of_overload hab] at hcall
          cases hdelivery : b.delivery w hook args with
          | error e => simp [hadmits, hdelivery, bind, Except.bind] at hcall
          | ok delivered =>
            simp only [hadmits, hdelivery, bind, Except.bind, pure, Except.pure, if_true,
              Except.ok.injEq] at hcall ⊢
            subst hcall
            exact ⟨b, hab.symm, rfl⟩

theorem map_sortedBy_of_map_eq {α β : Type} {f : α → β} {key : α → Nat} {k : β → Nat}
    {l l' : List α} (hkey : ∀ a, key a = k (f a)) (h : l.map f = l'.map f) :
    (sortedBy key l).map f = (sortedBy key l').map f := by
  have hmap (l : List α) : (sortedBy key l).map f = sortedBy k (l.map f) :=
    List.map_mergeSort fun a _ b _ => by rw [hkey a, hkey b]
  rw [hmap, hmap, h]

theorem map_overload_candidates (h : ms.map (·.overload) = ms'.map (·.overload)) (n : Nat) :
    (candidates ms n).map (·.overload) = (candidates ms' n).map (·.overload) := by
  have hexactly : (exactly ms n).map (·.overload) = (exactly ms' n).map (·.overload) :=
    map_filter_of_map_eq
      (fun a b hab => by rw [parameterCount_of_overload hab, isVariadic_of_overload hab]) h
  have hopen : (openTo ms n).map (·.overload) = (openTo ms' n).map (·.overload) :=
    map_sortedBy_of_map_eq (k := fun o : Overload => o.declared.length) (fun _ => rfl)
      (map_filter_of_map_eq
        (fun a b hab => by rw [parameterCount_of_overload hab, isVariadic_of_overload hab]) h)
  rw [candidates, candidates, List.map_append, List.map_append, hexactly, hopen]

/-- That a call goes to a member of some signature, with some arguments. -/
def Routine.Calls (w : World) (hook : Option (Hook (Except Failure))) (r : Routine)
    (args : List Value) (o : Overload) (delivered : List Value) : Prop :=
  ∃ m, m.overload = o ∧ r.dispatch w hook args = .ok ⟨m, delivered⟩

theorem calls_laidOut {o : Overload} {delivered : List Value}
    (h : ms.map (·.overload) = ms'.map (·.overload))
    (hcalls : (Routine.laidOut memberName ms name id).Calls w hook args o delivered) :
    (Routine.laidOut memberName' ms' name' id').Calls w hook args o delivered := by
  obtain ⟨m, rfl, hcall⟩ := hcalls
  obtain ⟨owner, member, reason, hold⟩ := respond_eq_firstTaking w hook args memberName ms
  obtain ⟨owner', member', reason', hnew⟩ := respond_eq_firstTaking w hook args memberName' ms'
  rw [dispatch_laidOut, hold] at hcall
  obtain ⟨m', hm', hcall'⟩ := firstTaking_of_map_overload (map_overload_candidates h _) hcall
  refine ⟨m', hm', ?_⟩
  rw [dispatch_laidOut, hnew]
  exact hcall'

/-- What a routine is called, and the signatures that it lists. -/
def Routine.face (r : Routine) : String × String × String × List DeclaredSignature :=
  (r.name, r.identifier, r.memberName, r.signatures)

/-- That two lists of routines are the same for all who call them. -/
structure CalledAlike (rs rs' : List Routine) : Prop where
  faces : rs.map (·.face) = rs'.map (·.face)
  calls : ∀ r ∈ rs, ∀ r' ∈ rs', r.memberName = r'.memberName →
    ∀ w hook args o delivered, r.Calls w hook args o delivered ↔ r'.Calls w hook args o delivered

theorem calledAlike_of_map_overload (h : ms.map (·.overload) = ms'.map (·.overload))
    (proofMode : Bool) (namePrefix : String) :
    ∃ rs rs', Routine.assembleAll proofMode namePrefix ms = .ok rs ∧
      Routine.assembleAll proofMode namePrefix ms' = .ok rs' ∧ CalledAlike rs rs' := by
  obtain ⟨rs, hrs, hnames, hgathers⟩ := Routine.assembleAll_eq ms proofMode namePrefix
  obtain ⟨rs', hrs', hnames', hgathers'⟩ := Routine.assembleAll_eq ms' proofMode namePrefix
  have hgroup (memberName : String) :
      (ms.filter (·.name = memberName)).map (·.overload) =
        (ms'.filter (·.name = memberName)).map (·.overload) :=
    map_filter_of_map_eq (fun a b hab => by rw [name_of_overload hab]) h
  have hmemberNames : Routine.memberNames ms = Routine.memberNames ms' := by
    have hsame : ms.map (·.name) = ms'.map (·.name) :=
      map_eq_of_map_eq h fun _ _ _ _ => name_of_overload
    rw [Routine.memberNames, Routine.memberNames, hsame]
  have hkeys : rs.map (fun r => (r.memberName, r.identifier)) =
      rs'.map fun r => (r.memberName, r.identifier) := by
    rw [← List.zip_map', ← List.zip_map', hnames, hnames',
      Routine.identifiers_of_assembleNames hrs, Routine.identifiers_of_assembleNames hrs',
      hmemberNames]
  refine ⟨rs, rs', hrs, hrs', ?_, ?_⟩
  · refine map_eq_of_map_eq hkeys fun r hr r' hr' hkey => ?_
    obtain ⟨hname, hid⟩ : r.memberName = r'.memberName ∧ r.identifier = r'.identifier := by
      simpa using hkey
    have hsignatures : (ms.filter (·.name = r'.memberName)).map Routine.declaredSignature =
        (ms'.filter (·.name = r'.memberName)).map Routine.declaredSignature :=
      map_eq_of_map_eq (hgroup _) fun _ _ _ _ => declaredSignature_of_overload
    rw [hgathers r hr, hgathers' r' hr', hname, hid]
    simp only [Routine.face, Routine.laidOut, hsignatures]
  · intro r hr r' hr' hname w hook args o delivered
    rw [hgathers r hr, hgathers' r' hr', ← hname]
    exact ⟨calls_laidOut (hgroup _), calls_laidOut (hgroup _).symm⟩

/--
Sorted members have the same names and descriptors in whatever order they are declared, and members that
share both keep that order. So the sorted signatures, and the one that a call goes to, do not depend
on the declarations exactly where descriptors tell signatures apart, as legible and distinct texts
of types do.
-/
theorem sorted_alike_iff_described_apart (members : List Member) :
    (∀ others, others.Perm members →
      (OrderPolicy.sort.arrange others).map (·.sortKey) =
        (OrderPolicy.sort.arrange members).map (·.sortKey)) ∧
    (∀ key, (OrderPolicy.sort.arrange members).filter (·.sortKey = key) =
      members.filter (·.sortKey = key)) ∧
    ((∀ others, others.Perm members →
      (OrderPolicy.sort.arrange others).map (·.overload) =
        (OrderPolicy.sort.arrange members).map (·.overload)) ↔ DescribedApart members) ∧
    ((∀ m ∈ members, ∀ t ∈ m.testedTypes, Legible t.text) →
      (∀ m ∈ members, ∀ t ∈ m.types, ∀ k ∈ members, ∀ u ∈ k.types, t.text = u.text → t = u) →
        DescribedApart members) ∧
    (DescribedApart members → ∀ others, others.Perm members →
      ∀ (proofMode : Bool) (namePrefix : String), ∃ rs rs',
        Routine.assembleAll proofMode namePrefix (OrderPolicy.sort.arrange others) = .ok rs ∧
        Routine.assembleAll proofMode namePrefix (OrderPolicy.sort.arrange members) = .ok rs' ∧
        CalledAlike rs rs') := by
  refine ⟨fun others => map_sortKey_arrange, filter_arrange members, map_overload_arrange_iff,
    describedApart_of_legible, ?_⟩
  intro h others hperm proofMode namePrefix
  exact calledAlike_of_map_overload (map_overload_arrange_iff.mpr h others hperm) proofMode
    namePrefix

/-- Members for texts and for `long`s are sorted in one way and make the same routines. -/
theorem text_and_long_sorted_alike :
    (OrderPolicy.sort.arrange [textMember, longMember]).map (·.overload) =
      (OrderPolicy.sort.arrange [longMember, textMember]).map (·.overload) ∧
    ∃ rs rs',
      Routine.assembleAll true "" (OrderPolicy.sort.arrange [textMember, longMember]) = .ok rs ∧
      Routine.assembleAll true "" (OrderPolicy.sort.arrange [longMember, textMember]) = .ok rs' ∧
      CalledAlike rs rs' := by
  obtain ⟨-, -, hiff, hlegible, hroutines⟩ :=
    sorted_alike_iff_described_apart [longMember, textMember]
  have hperm : [textMember, longMember].Perm [longMember, textMember] := .swap ..
  have happart : DescribedApart [longMember, textMember] := hlegible (by decide) (by decide)
  exact ⟨hiff.mpr happart _ hperm, hroutines happart _ hperm true ""⟩

/-- Members for an `int` of the one kind and of the other, which share their text. -/
def integers : List Member :=
  [.tracing [.primitive .int] none, .tracing [.reference (.builtin "int")] none]

theorem arrange_integers (hmembers : members = integers ∨ members = integers.reverse) :
    OrderPolicy.sort.arrange members = members := by
  apply List.mergeSort_of_pairwise
  rcases hmembers with rfl | rfl <;> decide

/-- Members of one name make one routine. -/
theorem assembleAll_of_one_name (hnames : Routine.memberNames members = [memberName])
    (hall : ∀ m ∈ members, m.name = memberName) (proofMode : Bool) (namePrefix : String) :
    ∃ r, Routine.assembleAll proofMode namePrefix members = .ok [r] ∧
      ∀ w hook args,
        r.dispatch (m := Except Failure) w hook args = respond w hook memberName members args := by
  obtain ⟨rs, hrs, hrnames, hgathers⟩ := Routine.assembleAll_eq members proofMode namePrefix
  rw [hnames] at hrnames
  obtain ⟨r, rfl, hname⟩ := List.map_eq_singleton_iff.mp hrnames
  refine ⟨r, hrs, fun w hook args => ?_⟩
  have hgroup : members.filter (·.name = memberName) = members := by
    rw [List.filter_eq_self]
    simpa using hall
  rw [hgathers r List.mem_cons_self, dispatch_laidOut, hname, hgroup]

/-- Members for both kinds of integers have one descriptor, and the one that is declared first wins. -/
theorem integers_won_as_declared :
    integers.reverse.Perm integers ∧
    (OrderPolicy.sort.arrange integers.reverse).map (·.overload) ≠
      (OrderPolicy.sort.arrange integers).map (·.overload) ∧
    ∃ r r', Routine.assembleAll true "" (OrderPolicy.sort.arrange integers) = .ok [r] ∧
      Routine.assembleAll true "" (OrderPolicy.sort.arrange integers.reverse) = .ok [r'] ∧
      r.Calls .empty none [.boxedInt .integer 3]
        ⟨"f", [.primitive .int], none, .object⟩ [.boxedInt .integer 3] ∧
      r'.Calls .empty none [.boxedInt .integer 3]
        ⟨"f", [.reference (.builtin "int")], none, .object⟩ [.boxedInt .integer 3] := by
  rw [arrange_integers (Or.inl rfl), arrange_integers (Or.inr rfl)]
  have hnames : Routine.memberNames integers = ["f"] := by decide
  have hnames' : Routine.memberNames integers.reverse = ["f"] := by decide
  obtain ⟨r, hr, hdispatch⟩ := assembleAll_of_one_name hnames (by decide) true ""
  obtain ⟨r', hr', hdispatch'⟩ := assembleAll_of_one_name hnames' (by decide) true ""
  refine ⟨List.reverse_perm integers, by decide, r, r', hr, hr', ?_, ?_⟩
  · exact ⟨.tracing [.primitive .int] none, rfl, by rw [hdispatch]; rfl⟩
  · exact ⟨.tracing [.reference (.builtin "int")] none, rfl, by rw [hdispatch']; rfl⟩

end Overloads
