import Overloads.Proofs.Member.Selection
import Overloads.Proofs.Routine.Namespace

/-! Listing the members of a class and making its routines show the same members, name by name. -/
namespace Overloads

variable {members : List Member} {names : List String}

/-- Puts a member into the group of its name. A name that is new gets a group at the end. -/
def joinGroup (groups : List (String × List Member)) (m : Member) : List (String × List Member) :=
  if groups.any (·.1 = m.name) then
    groups.map fun g => if g.1 = m.name then (g.1, g.2 ++ [m]) else g
  else groups ++ [(m.name, [m])]

/-- The members by name, the names in the order in which they are first seen. -/
def groupedByName (members : List Member) : List (String × List Member) :=
  members.foldl joinGroup []

/-- Each name with the members that have it. -/
def groupsOf (members : List Member) : List (String × List Member) :=
  (Routine.memberNames members).map fun n => (n, members.filter (·.name = n))

theorem memberNames_concat (members : List Member) (m : Member) :
    Routine.memberNames (members ++ [m]) =
      if m.name ∈ members.map (·.name) then Routine.memberNames members
      else Routine.memberNames members ++ [m.name] := by
  rw [Routine.memberNames, Routine.memberNames, List.map_append, List.eraseDups_append,
    List.map_singleton]
  generalize members.map (·.name) = names
  by_cases hmem : m.name ∈ names <;> simp [List.removeAll, List.eraseDups_cons, hmem]

/-- One member more joins the group that it belongs to. -/
theorem joinGroup_groupsOf (members : List Member) (m : Member) :
    joinGroup (groupsOf members) m = groupsOf (members ++ [m]) := by
  have hany : (groupsOf members).any (·.1 = m.name) = true ↔ m.name ∈ members.map (·.name) := by
    simp [groupsOf, Routine.memberNames]
  by_cases hmem : m.name ∈ members.map (·.name)
  · rw [joinGroup, if_pos (hany.mpr hmem), groupsOf, groupsOf, memberNames_concat, if_pos hmem,
      List.map_map]
    apply List.map_congr_left
    intro n _
    by_cases hn : n = m.name
    · simp [hn]
    · simp [hn, Ne.symm hn]
  · rw [joinGroup, if_neg (mt hany.mp hmem), groupsOf, groupsOf, memberNames_concat, if_neg hmem,
      List.map_append]
    congr 1
    · apply List.map_congr_left
      intro n hn
      have hne : m.name ≠ n := by
        rintro rfl
        exact hmem (by simpa [Routine.memberNames] using hn)
      simp [hne]
    · have hnone : members.filter (·.name = m.name) = [] := by
        apply List.filter_eq_nil_iff.mpr
        intro k hk hname
        exact hmem (List.mem_map.mpr ⟨k, hk, of_decide_eq_true hname⟩)
      simp [hnone]

theorem foldl_joinGroup (front back : List Member) :
    back.foldl joinGroup (groupsOf front) = groupsOf (front ++ back) := by
  induction back generalizing front with
  | nil => simp
  | cons m rest ih =>
    rw [List.foldl_cons, joinGroup_groupsOf, ih, List.append_assoc, List.singleton_append]

theorem groupedByName_eq (members : List Member) : groupedByName members = groupsOf members :=
  foldl_joinGroup [] members

/-- Distinct names that cover some members part them. -/
theorem flatMap_filter_perm (hnames : names.Nodup) (hall : ∀ m ∈ members, m.name ∈ names) :
    (names.flatMap fun n => members.filter (·.name = n)).Perm members := by
  induction names generalizing members with
  | nil =>
    have hnone : members = [] := List.eq_nil_iff_forall_not_mem.mpr fun m hm => by simpa using hall m hm
    simp [hnone]
  | cons n rest ih =>
    obtain ⟨hnew, hrest⟩ := List.nodup_cons.mp hnames
    let others := members.filter fun m => !decide (m.name = n)
    have hothers : (rest.flatMap fun k => members.filter (·.name = k)) =
        rest.flatMap fun k => others.filter (·.name = k) := by
      rw [List.flatMap_def, List.flatMap_def]
      apply congrArg List.flatten
      apply List.map_congr_left
      intro k hk
      rw [List.filter_filter]
      apply List.filter_congr
      intro m _
      by_cases hm : m.name = k
      · have hne : k ≠ n := fun heq => hnew (heq ▸ hk)
        simp [hm, hne]
      · simp [hm]
    have hcovered : ∀ m ∈ others, m.name ∈ rest := by
      intro m hm
      obtain ⟨hmem, hne⟩ := List.mem_filter.mp hm
      exact (List.mem_cons.mp (hall m hmem)).resolve_left (by simpa using hne)
    rw [List.flatMap_cons, hothers]
    exact ((ih hrest hcovered).append_left _).trans (List.filter_append_perm _ members)

/-- Grouping loses no member and repeats none. -/
theorem groupedByName_perm (members : List Member) :
    ((groupedByName members).flatMap (·.2)).Perm members := by
  rw [groupedByName_eq, groupsOf, List.flatMap_map]
  exact flatMap_filter_perm (Routine.nodup_eraseDups _)
    fun m hm => Routine.mem_memberNames.mpr ⟨m, hm, rfl⟩

namespace Routine

variable {namePrefix : String} {rs : List Routine}

/-- Routines have the names and the signatures of the groups, in order. -/
theorem signatures_of_wellNamed (h : WellNamed members namePrefix rs) :
    rs.map (fun r => (r.memberName, r.signatures)) =
      (groupedByName members).map fun g => (g.1, g.2.map declaredSignature) := by
  have hsignatures : rs.map (fun r => (r.memberName, r.signatures)) =
      (rs.map (·.memberName)).map fun n => (n, (members.filter (·.name = n)).map declaredSignature) := by
    rw [List.map_map]
    apply List.map_congr_left
    intro r hr
    have hlaid := congrArg Routine.signatures (h.gathers r hr)
    rw [Function.comp_apply, hlaid]
    rfl
  rw [hsignatures, h.names, groupedByName_eq, groupsOf, List.map_map]
  rfl

end Routine

/--
Where all orders that are named exist, a class gives a listing and gives routines. The listing shows the
members that are selected when it is made, however often and under whatever settings it is read, and
these members, grouped by name, are those of the routines.
-/
theorem listed_as_assembled (w : World) (a : Ambient) (reflect : Reflector) (handle : Value)
    (o : Options) (c : ClassName) (hclass : w.resolveClass handle = .ok c)
    (hasked : ∀ name ∈ o.selection.order, ∃ p, OrderPolicy.ofText name = .ok p)
    (henvironment : ∀ raw ∈ a.environment,
      (Text.trim raw).isEmpty = true ∨ ∃ p, OrderPolicy.ofText (Text.trim raw) = .ok p) :
    ∃ p listing rs members,
      a.orderPolicy o.selection.order .trust = .ok p ∧
      generate w a reflect handle { o with membersOnly := true } = .ok (.listing listing) ∧
      generate w a reflect handle { o with membersOnly := false } = .ok (.routines rs) ∧
      members = p.select (a.filterFor o.selection.filter) (reflect c) ∧
      (∀ b, listing.members b reflect = .ok members) ∧
      (∀ bs : List Ambient, bs.mapM (listing.descriptors · reflect) =
        .ok (bs.map fun _ => members.map (·.descriptor))) ∧
      rs.map (fun r => (r.memberName, r.signatures)) =
        (groupedByName members).map (fun g => (g.1, g.2.map Routine.declaredSignature)) ∧
      ((groupedByName members).flatMap (·.2)).Perm members := by
  obtain ⟨p, hpolicy⟩ := exists_orderPolicy hasked henvironment .trust
  let members := p.select (a.filterFor o.selection.filter) (reflect c)
  obtain ⟨name, hname, hcapture⟩ := exists_capture (s := o.selection) hclass hpolicy
  have hmembers : membersOf w a reflect handle o.selection = .ok members :=
    membersOf_eq hclass hpolicy
  obtain ⟨rs, hrs, -⟩ := Routine.assembleAll_eq members a.proofMode o.namePrefix
  refine ⟨p, _, rs, members, hpolicy, ?_, ?_, rfl,
    fun b => members_explicit (truthy_filterFor a _) hname,
    fun bs => mapM_eq_ok fun b _ => descriptors_explicit (truthy_filterFor a _) hname,
    Routine.signatures_of_wellNamed (Routine.wellNamed_of_assembleAll hrs), groupedByName_perm _⟩
  · rw [generate, if_pos rfl]
    simp only [hcapture]
    rfl
  · rw [generate, if_neg Bool.false_ne_true, assembleClass]
    simp only [hmembers]
    exact congrArg (Except.map Generated.routines) hrs

/-- The environment asks for sorted members, in its own spelling. -/
def sortedByEnvironment : Ambient := { Ambient.initial with environment := some " Sorted " }

/-- The environment asks for an order that does not exist. -/
def shuffledByEnvironment : Ambient := { Ambient.initial with environment := some "shuffled" }

/-- Getters listed in sorted order, and the listing read where there is no order to follow. -/
theorem listed_getters :
    World.empty.resolveClass (.type .object) = .ok .object ∧
    (∀ raw ∈ sortedByEnvironment.environment,
      (Text.trim raw).isEmpty = true ∨ ∃ p, OrderPolicy.ofText (Text.trim raw) = .ok p) ∧
    ∃ listing,
      generate .empty sortedByEnvironment (fun _ => getters) (.type .object)
        ⟨"", ⟨none, none⟩, true⟩ = .ok (.listing listing) ∧
      listing.members shuffledByEnvironment (fun _ => getters) =
        .ok (OrderPolicy.sort.select .always getters) := by
  have henvironment : ∀ raw ∈ sortedByEnvironment.environment,
      (Text.trim raw).isEmpty = true ∨ ∃ p, OrderPolicy.ofText (Text.trim raw) = .ok p := by
    intro raw hraw
    cases hraw
    exact Or.inr ⟨.sort, rfl⟩
  refine ⟨rfl, henvironment, ?_⟩
  obtain ⟨p, listing, _, members, hpolicy, hlisting, -, hselected, hread, -⟩ :=
    listed_as_assembled .empty sortedByEnvironment (fun _ => getters) (.type .object)
      ⟨"", ⟨none, none⟩, false⟩ .object rfl (by simp) henvironment
  have hsorted : sortedByEnvironment.orderPolicy none .trust = .ok .sort := rfl
  cases hsorted.symm.trans hpolicy
  refine ⟨listing, hlisting, ?_⟩
  rw [hread, hselected]
  rfl

end Overloads
