import Overloads.Proofs.Member.Order
import Overloads.Proofs.Member.Selection
import Overloads.Proofs.Routine.Arities

/-! A filter leaves the members that it keeps in their order, in a listing and in a routine. -/
namespace Overloads

variable {w : World} {a : Ambient} {reflect : Reflector} {handle : Value} {s : Selection}
variable {members : List Member} {f : MemberFilter} {n : Nat}

/-- That a list is what a filter keeps of another, so that members kept follow one another as there. -/
structure ThinnedBy (f : MemberFilter) (l l' : List Member) : Prop where
  eq : l = l'.filter f
  order : ∀ kept : List Member, (∀ m ∈ kept, f m = true) → (kept.Sublist l ↔ kept.Sublist l')

theorem thinnedBy_filter (f : MemberFilter) (l : List Member) : ThinnedBy f (l.filter f) l where
  eq := rfl
  order := by
    intro kept hkept
    constructor
    · exact fun h => h.trans List.filter_sublist
    · intro h
      have hfiltered := h.filter f
      rwa [List.filter_eq_self.mpr hkept] at hfiltered

theorem arrange_filter (p : OrderPolicy) (f : MemberFilter) (members : List Member) :
    p.arrange (members.filter f) = (p.arrange members).filter f := by
  cases p with
  | sort => exact mergeSort_filter precedes_trans precedes_total f members
  | trust => rfl

/-- The same order, with a filter that lets everything pass. -/
def Selection.unfiltered (s : Selection) : Selection := { s with filter := some .always }

/-- To filter is the same behind the order as in front of it, also where no order can be had. -/
theorem apply_eq_unfiltered (s : Selection) (a : Ambient) (members : List Member) :
    s.apply a members =
      (s.unfiltered.apply a members).map (·.filter (a.filterFor s.filter)) := by
  have hall : members.filter MemberFilter.always = members := List.filter_eq_self.mpr fun _ _ => rfl
  simp only [Selection.apply, Selection.unfiltered, filterFor_some (f := .always) a rfl, hall]
  cases a.orderPolicy s.order .trust with
  | error e => rfl
  | ok p => simp only [Except.map, arrange_filter]

theorem membersOf_eq_unfiltered (w : World) (a : Ambient) (reflect : Reflector) (handle : Value)
    (s : Selection) : membersOf w a reflect handle s =
      (membersOf w a reflect handle s.unfiltered).map
        (·.filter (a.filterFor s.filter)) := by
  unfold membersOf
  cases w.resolveClass handle with
  | error e => rfl
  | ok c => exact apply_eq_unfiltered s a (reflect c)

theorem exactly_filter (f : MemberFilter) (members : List Member) (n : Nat) :
    exactly (members.filter f) n = (exactly members n).filter f := by
  rw [exactly, exactly, filter_filter_comm]

theorem openTo_filter (f : MemberFilter) (members : List Member) (n : Nat) :
    openTo (members.filter f) n = (openTo members n).filter f := by
  rw [openTo, openTo, filter_filter_comm]
  exact mergeSort_filter (key_le_trans _) (key_le_total _) f _

theorem candidates_filter (f : MemberFilter) (members : List Member) (n : Nat) :
    candidates (members.filter f) n = (candidates members n).filter f := by
  rw [candidates, candidates, List.filter_append, exactly_filter, openTo_filter]

namespace Routine

/-- The members that a routine tries on `n` arguments, in the order in which it tries them. -/
def tried (r : Routine) (n : Nat) : List Member :=
  (r.clauseSetFor? n).elim [] fun s => s.clauses.map (·.member)

theorem tried_laidOut {memberName name id : String} (members : List Member) (n : Nat) :
    (laidOut memberName members name id).tried n = candidates members n := by
  rw [tried, clauseSetFor?_laidOut, isCovered]
  cases hnone : (candidates members n).isEmpty with
  | true => simp [List.isEmpty_iff.mp hnone]
  | false =>
    simp only [Bool.not_false, if_true, Option.elim_some]
    split
    · exact members_ofMembers _ _ _
    · exact members_ofMembers _ _ _

/-- A routine for members that a filter keeps tries what is left of those tried without it. -/
theorem tried_of_gathers {r r' : Routine} {namePrefix : String}
    (h : r.Gathers (members.filter f) namePrefix) (h' : r'.Gathers members namePrefix)
    (hname : r'.memberName = r.memberName) (n : Nat) : ThinnedBy f (r.tried n) (r'.tried n) := by
  have htried : r.tried n = (r'.tried n).filter f := by
    rw [h, h', tried_laidOut, tried_laidOut, hname, filter_filter_comm, candidates_filter]
  rw [htried]
  exact thinnedBy_filter f _

theorem assembleAll_filter (f : MemberFilter) (members : List Member) (proofMode : Bool)
    (namePrefix : String) : ∃ rs rs',
      assembleAll proofMode namePrefix (members.filter f) = .ok rs ∧
      assembleAll proofMode namePrefix members = .ok rs' ∧
      ∀ r ∈ rs, ∃ r' ∈ rs', r'.memberName = r.memberName ∧
        ∀ n, ThinnedBy f (r.tried n) (r'.tried n) := by
  have hnames : ∀ m ∈ members.filter f, ∃ k ∈ members, k.name = m.name :=
    fun m hm => ⟨m, (List.mem_filter.mp hm).1, rfl⟩
  obtain ⟨rs, rs', hrs, hrs', hcounterparts⟩ := exists_counterparts hnames proofMode namePrefix
  refine ⟨rs, rs', hrs, hrs', ?_⟩
  intro r hr
  obtain ⟨hgathers, r', hr', hname, hgathers'⟩ := hcounterparts r hr
  exact ⟨r', hr', hname, tried_of_gathers hgathers hgathers' hname⟩

end Routine

/--
To filter members and then to order them gives what is left by the filter of all of them in order, for
each policy. So the members listed for a class are those listed without a filter, thinned, and its
routines try on any number of arguments what is left of what they try without one.
-/
theorem filter_keeps_order (w : World) (a : Ambient) (reflect : Reflector) (handle : Value)
    (o : Options) :
    (∀ (p : OrderPolicy) (f : MemberFilter) (members : List Member),
      ThinnedBy f (p.arrange (members.filter f)) (p.arrange members)) ∧
    membersOf w a reflect handle o.selection =
      (membersOf w a reflect handle o.selection.unfiltered).map
        (·.filter (a.filterFor o.selection.filter)) ∧
    ∀ members, membersOf w a reflect handle o.selection.unfiltered = .ok members →
      ∃ rs rs', assembleClass w a reflect handle o = .ok rs ∧
        assembleClass w a reflect handle { o with selection := o.selection.unfiltered } = .ok rs' ∧
        ∀ r ∈ rs, ∃ r' ∈ rs', r'.memberName = r.memberName ∧
          ∀ n, ThinnedBy (a.filterFor o.selection.filter) (r.tried n) (r'.tried n) := by
  have hmembers := membersOf_eq_unfiltered w a reflect handle o.selection
  refine ⟨?_, hmembers, ?_⟩
  · intro p f members
    rw [arrange_filter]
    exact thinnedBy_filter f _
  · intro members hall
    rw [hall] at hmembers
    simp only [assembleClass, hall, hmembers]
    exact Routine.assembleAll_filter _ members a.proofMode o.namePrefix

/-- Three members that no order tells apart. -/
def tied : List Member :=
  ["a.f", "b.f", "c.f"].map fun path => { Member.tracing [.object] none with path := path }

/-- Without the second of them the first and the third are listed, and tried, one after the other. -/
theorem filter_keeps_order_of_tied :
    let s : Selection := ⟨some (.plain fun m => m.path ≠ "b.f"), some "sorted"⟩
    membersOf .initial .initial (fun _ => tied) (.type (.builtin "int")) s.unfiltered = .ok tied ∧
    (membersOf .initial .initial (fun _ => tied) (.type (.builtin "int")) s).map
      (·.map (·.path)) = .ok ["a.f", "c.f"] ∧
    ∃ rs rs',
      assembleClass .initial .initial (fun _ => tied) (.type (.builtin "int")) ⟨"", s, false⟩ =
        .ok rs ∧
      assembleClass .initial .initial (fun _ => tied) (.type (.builtin "int"))
        ⟨"", s.unfiltered, false⟩ = .ok rs' ∧
      ∀ r ∈ rs, ∃ r' ∈ rs', r'.memberName = r.memberName ∧
        ∀ n, ThinnedBy (.plain fun m => m.path ≠ "b.f") (r.tried n) (r'.tried n) := by
  intro s
  obtain ⟨-, hfiltered, hroutines⟩ := filter_keeps_order .initial .initial (fun _ => tied)
    (.type (.builtin "int")) ⟨"", s, false⟩
  have hall : membersOf .initial .initial (fun _ => tied) (.type (.builtin "int")) s.unfiltered =
      .ok tied := by
    have hsame : ∀ m ∈ tied, ∀ k ∈ tied, m.sortKey = k.sortKey := by decide
    have hsorted : tied.mergeSort Member.precedes = tied := by
      apply List.mergeSort_of_pairwise
      refine List.Pairwise.imp_of_mem (R := fun _ _ => True) ?_
        (List.pairwise_of_forall fun _ _ => trivial)
      intro m k hm hk _
      exact precedes_of_sortKey_eq (hsame m hm k hk)
    rw [membersOf_eq (c := .builtin "int") (p := .sort) (o := ⟨"", s.unfiltered, false⟩) rfl rfl]
    exact congrArg Except.ok hsorted
  refine ⟨hall, ?_, hroutines tied hall⟩
  rw [hfiltered, hall]
  rfl

end Overloads
