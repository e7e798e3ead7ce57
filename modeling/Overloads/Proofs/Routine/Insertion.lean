import Overloads.Proofs.Routine.Permutation
import Overloads.Proofs.Routine.SingleSignature

/-! What one more member changes: a call goes to it, or ends as it does without it. -/
namespace Overloads

section Lists

variable {α : Type} {a : α} {l l' : List α} {p : α → Bool}

/-- That a list becomes another one by one more element. -/
def Gains (l : List α) (a : α) (l' : List α) : Prop :=
  ∃ front back, l = front ++ back ∧ l' = front ++ a :: back

theorem Gains.append_left (h : Gains l a l') (before : List α) :
    Gains (before ++ l) a (before ++ l') := by
  obtain ⟨front, back, rfl, rfl⟩ := h
  exact ⟨before ++ front, back, by simp, by simp⟩

theorem Gains.append_right (h : Gains l a l') (after : List α) :
    Gains (l ++ after) a (l' ++ after) := by
  obtain ⟨front, back, rfl, rfl⟩ := h
  exact ⟨front, back ++ after, by simp, by simp⟩

theorem Gains.filter (h : Gains l a l') (ha : p a = true) :
    Gains (l.filter p) a (l'.filter p) := by
  obtain ⟨front, back, rfl, rfl⟩ := h
  exact ⟨front.filter p, back.filter p, by simp, by simp [ha]⟩

theorem Gains.filter_eq (h : Gains l a l') (ha : p a = false) : l'.filter p = l.filter p := by
  obtain ⟨front, back, rfl, rfl⟩ := h
  simp [ha]

theorem Gains.mem (h : Gains l a l') {b : α} : b ∈ l' ↔ b = a ∨ b ∈ l := by
  obtain ⟨front, back, rfl, rfl⟩ := h
  simp only [List.mem_append, List.mem_cons]
  exact or_left_comm

/-- A stable sort finds a place for one more element and keeps the others in order. -/
theorem Gains.sortedBy (h : Gains l a l') (key : α → Nat) :
    Gains (sortedBy key l) a (sortedBy key l') := by
  have hks := ascending_increasing (l'.map key)
  have hl' : ∀ b ∈ l', key b ∈ ascending (l'.map key) := by
    intro b hb
    exact mem_ascending.mpr (List.mem_map_of_mem hb)
  have hl : ∀ b ∈ l, key b ∈ ascending (l'.map key) := fun b hb => hl' b (h.mem.mpr (Or.inr hb))
  rw [sortedBy_eq_flatMap hks hl, sortedBy_eq_flatMap hks hl']
  obtain ⟨below, above, hsplit⟩ := List.append_of_mem (hl' a (h.mem.mpr (Or.inl rfl)))
  rw [hsplit] at hks ⊢
  obtain ⟨-, habove, hbelow⟩ := List.pairwise_append.mp hks
  -- Only the block of its own key has the new element.
  have hother : ∀ k, k ≠ key a → l'.filter (key · = k) = l.filter (key · = k) := by
    intro k hk
    exact h.filter_eq (by simpa using hk.symm)
  have hfirst : below.flatMap (fun k => l'.filter (key · = k)) =
      below.flatMap fun k => l.filter (key · = k) := by
    apply congrArg List.flatten
    apply List.map_congr_left
    intro k hk
    exact hother k (Nat.ne_of_lt (hbelow k hk (key a) List.mem_cons_self))
  have hlast : above.flatMap (fun k => l'.filter (key · = k)) =
      above.flatMap fun k => l.filter (key · = k) := by
    apply congrArg List.flatten
    apply List.map_congr_left
    intro k hk
    exact hother k (Nat.ne_of_gt ((List.pairwise_cons.mp habove).1 k hk))
  rw [List.flatMap_append, List.flatMap_append, List.flatMap_cons, List.flatMap_cons, hfirst, hlast]
  exact ((h.filter (by simp)).append_right _).append_left _

end Lists

variable {w : World} {hook : Option (Hook (Except Failure))} {members more ms ms' : List Member}
variable {m : Member} {args : List Value} {r r' : Routine} {memberName : String} {n : Nat}

theorem Gains.candidates (h : Gains members m more) (hm : m.accepts n = true) :
    Gains (candidates members n) m (Overloads.candidates more n) := by
  unfold Overloads.candidates exactly openTo
  cases hv : m.isVariadic with
  | false =>
    have hcount : m.parameterCount = n := by simpa [Member.accepts, hv] using hm
    rw [h.filter_eq (p := fun m => m.isVariadic && decide (m.parameterCount ≤ n)) (by simp [hv])]
    exact (h.filter (by simp [hv, hcount])).append_right _
  | true =>
    have hcount : m.parameterCount ≤ n := by
      have := hm
      simp only [Member.accepts, hv, Bool.true_and, Bool.or_eq_true, decide_eq_true_eq] at this
      omega
    rw [h.filter_eq (p := fun m => !m.isVariadic && decide (m.parameterCount = n)) (by simp [hv])]
    exact ((h.filter (by simp [hv, hcount])).sortedBy _).append_left _

/-- A member that does not take so many arguments is not tried on them. -/
theorem Gains.candidates_eq (h : Gains members m more) (hm : m.accepts n = false) :
    Overloads.candidates more n = Overloads.candidates members n := by
  have hcount : m.parameterCount ≠ n := by
    rintro rfl
    simp [Member.accepts] at hm
  have hopen : (m.isVariadic && decide (m.parameterCount ≤ n)) = false := by
    simp only [Member.accepts, Bool.or_eq_false_iff] at hm
    exact hm.2
  unfold Overloads.candidates exactly openTo
  rw [h.filter_eq (p := fun m => !m.isVariadic && decide (m.parameterCount = n)) (by simp [hcount]),
    h.filter_eq (p := fun m => m.isVariadic && decide (m.parameterCount ≤ n)) hopen]

/-- One member more answers the call, or nothing changes. -/
theorem Gains.firstTaking (h : Gains ms m ms') (hhook : ∀ h ∈ hook, h.Total)
    (htest : ∀ k ∈ ms', ∀ t ∈ k.testedTypes, w.Testable t) (refusal : Failure) :
    firstTaking w hook args refusal ms' = Overloads.firstTaking w hook args refusal ms ∨
      m.Takes w hook args ∧
        Overloads.firstTaking w hook args refusal ms' =
          (do return ⟨m, ← m.delivery w hook args⟩) := by
  obtain ⟨front, back, rfl, rfl⟩ := h
  induction front with
  | nil =>
    by_cases htakes : m.Takes w hook args
    · exact Or.inr ⟨htakes, firstTaking_of_takes htakes⟩
    · exact Or.inl (firstTaking_of_not_takes hhook (htest m (by simp)) htakes)
  | cons k front ih =>
    by_cases htakes : k.Takes w hook args
    · left
      rw [List.cons_append, List.cons_append, firstTaking_of_takes htakes,
        firstTaking_of_takes htakes]
    · rw [List.cons_append, List.cons_append,
        firstTaking_of_not_takes hhook (htest k (by simp)) htakes,
        firstTaking_of_not_takes hhook (htest k (by simp)) htakes]
      exact ih fun k hk => htest k (List.mem_cons_of_mem _ hk)

/-- An answer is that of the first taker, and a refusal only tells what would be reported. -/
theorem respond_eq_firstTaking (w : World) (hook : Option (Hook (Except Failure)))
    (args : List Value) (memberName : String) (members : List Member) :
    ∃ owner name reason, respond w hook memberName members args =
      Overloads.firstTaking w hook args (.noOverload owner name (args.map w.typeName) reason)
        (candidates members args.length) := by
  unfold respond
  cases candidates members args.length with
  | nil => exact ⟨_, _, _, rfl⟩
  | cons first rest => exact ⟨_, _, _, rfl⟩

/-- What is reported of a refusal does not change which calls are refused. -/
theorem firstTaking_refusal (refusal refusal' : Failure) (ms : List Member) :
    Overloads.firstTaking w hook args refusal ms = .error refusal ∧
        Overloads.firstTaking w hook args refusal' ms = .error refusal' ∨
      Overloads.firstTaking w hook args refusal ms =
        Overloads.firstTaking w hook args refusal' ms := by
  induction ms with
  | nil => exact Or.inl ⟨rfl, rfl⟩
  | cons m rest ih =>
    simp only [Overloads.firstTaking]
    cases admitsAll w hook (args.zip (m.parameterTypes args.length)) with
    | error e => exact Or.inr rfl
    | ok b =>
      cases b with
      | true => exact Or.inr rfl
      | false => exact ih

/-- That a routine refuses a call, for whatever reason. -/
def Routine.Rejects (w : World) (hook : Option (Hook (Except Failure))) (r : Routine)
    (args : List Value) : Prop :=
  ∃ reason, r.Refuses w hook args reason

/--
That a call goes to a member: it is called, or the conversion of an argument that it takes for a
`long` or a `double` fails.
-/
inductive Routine.GoesTo (w : World) (hook : Option (Hook (Except Failure))) (r : Routine)
    (m : Member) (args : List Value) : Prop where
  | called (delivered : List Value) (h : r.dispatch w hook args = .ok ⟨m, delivered⟩)
  | unconverted (i : Nat) (v u : Value) (t : TypeRef) (c : Cast) (e : Failure)
      (hv : args[i]? = some v) (ht : (m.parameterTypes args.length)[i]? = some t)
      (hu : coerced hook v t = .ok u) (hfits : w.isInstance u t = .ok true)
      (hcast : m.castAt? i t = some c) (hfails : w.cast c u = .error e)
      (h : r.dispatch w hook args = .error e)

/-- How the answers of a routine with one member more relate to those of one without it. -/
structure Routine.ExtendedBy (w : World) (hook : Option (Hook (Except Failure))) (r : Routine)
    (m : Member) (r' : Routine) (args : List Value) : Prop where
  called : ∀ call, r.dispatch w hook args = .ok call →
    r'.dispatch w hook args = .ok call ∨ r'.GoesTo w hook m args
  refused : r.Rejects w hook args → r'.Rejects w hook args ∨ r'.GoesTo w hook m args
  failed : ∀ e, e.isRefusal = false → r.dispatch w hook args = .error e →
    r'.dispatch w hook args = .error e ∨ r'.GoesTo w hook m args

/-- A member that takes the arguments is called unless a conversion fails. -/
theorem goesTo_of_takes (htakes : m.Takes w hook args)
    (h : r.dispatch w hook args = (do return ⟨m, ← m.delivery w hook args⟩)) :
    r.GoesTo w hook m args := by
  cases hdelivery : m.delivery w hook args with
  | ok delivered =>
    rw [hdelivery] at h
    exact .called delivered h
  | error e =>
    rw [hdelivery] at h
    rw [delivery_eq_mapM] at hdelivery
    obtain ⟨⟨⟨v, t⟩, i⟩, hat, hfails⟩ := exists_of_mapM_eq_error hdelivery
    have hpair := List.mk_mem_zipIdx_iff_getElem?.mp hat
    have hadmits := admits_of_admitsAll w hook htakes _ (List.mem_of_getElem? hpair)
    obtain ⟨u, hu, hfits⟩ := coerced_of_admits w hook hadmits
    obtain ⟨hv, ht⟩ := List.getElem?_zip_eq_some.mp hpair
    simp only [Member.deliveryAt, hu] at hfails
    cases hcast : m.castAt? i t with
    | none => simp [hcast, bind, Except.bind, pure, Except.pure] at hfails
    | some c =>
      have hfails : w.cast c u = .error e := by simpa [hcast, bind, Except.bind] using hfails
      exact .unconverted i v u t c e hv ht hu hfits hcast hfails h

theorem extendedBy_laidOut {name id : String} (hhook : ∀ h ∈ hook, h.Total)
    (htest : ∀ k ∈ more, ∀ t ∈ k.testedTypes, w.Testable t) (h : Gains members m more)
    (args : List Value) : (Routine.laidOut memberName members name id).ExtendedBy w hook m
      (.laidOut memberName more name id) args := by
  generalize hr : Routine.laidOut memberName members name id = r
  generalize hr' : Routine.laidOut memberName more name id = r'
  obtain ⟨owner, member, reason, hold⟩ := respond_eq_firstTaking w hook args memberName members
  obtain ⟨owner', member', reason', hnew⟩ := respond_eq_firstTaking w hook args memberName more
  rw [← dispatch_laidOut, hr] at hold
  rw [← dispatch_laidOut, hr'] at hnew
  have hstep : r'.dispatch w hook args = firstTaking w hook args
        (.noOverload owner' member' (args.map w.typeName) reason')
        (candidates members args.length) ∨ r'.GoesTo w hook m args := by
    cases hm : m.accepts args.length with
    | false =>
      left
      rw [hnew, h.candidates_eq hm]
    | true =>
      have htried : ∀ k ∈ candidates more args.length, ∀ t ∈ k.testedTypes, w.Testable t :=
        fun k hk => htest k (mem_candidates.mp hk).1
      rcases (h.candidates hm).firstTaking hhook htried
        (.noOverload owner' member' (args.map w.typeName) reason') with hsame | ⟨htakes, hanswer⟩
      · exact Or.inl (hnew.trans hsame)
      · exact Or.inr (goesTo_of_takes htakes (hnew.trans hanswer))
  rcases firstTaking_refusal (.noOverload owner member (args.map w.typeName) reason)
    (.noOverload owner' member' (args.map w.typeName) reason')
    (candidates members args.length) with ⟨hrefused, hrefused'⟩ | hsame
  · rw [hrefused] at hold
    rw [hrefused'] at hstep
    refine ⟨?_, ?_, ?_⟩
    · intro call hcall
      rw [hold] at hcall
      cases hcall
    · intro _
      exact hstep.imp_left fun h => ⟨reason', _, _, _, h⟩
    · intro e he hfails
      rw [hold] at hfails
      cases hfails
      cases he
  · rw [← hsame, ← hold] at hstep
    refine ⟨?_, ?_, ?_⟩
    · intro call hcall
      exact hstep.imp_left fun h => h.trans hcall
    · rintro ⟨reason, owner, member, argTypes, hrefuses⟩
      exact hstep.imp_left fun h => ⟨reason, owner, member, argTypes, h.trans hrefuses⟩
    · intro e _ hfails
      exact hstep.imp_left fun h => h.trans hfails

/--
One member more, wherever it is put, never sends a call from one of the others to another of them. A
call goes to the new member, or is answered or refused as before.
-/
theorem extendedBy_of_insertion {front back : List Member} (hne : front ++ back ≠ [])
    (hhook : ∀ h ∈ hook, h.Total)
    (htest : ∀ k ∈ front ++ m :: back, ∀ t ∈ k.testedTypes, w.Testable t) (proofMode : Bool)
    (memberName name id : String) :
    ∃ r r', Routine.assemble proofMode memberName (front ++ back) name id = .ok r ∧
      Routine.assemble proofMode memberName (front ++ m :: back) name id = .ok r' ∧
      ∀ args, r.ExtendedBy w hook m r' args :=
  ⟨_, _, Routine.assemble_eq hne proofMode memberName name id,
    Routine.assemble_eq (by simp) proofMode memberName name id,
    fun args => extendedBy_laidOut hhook htest ⟨front, back, rfl, rfl⟩ args⟩

/-- A member for texts. -/
def textMember : Member := .tracing [.reference (.builtin "str")] none

/-- A member for `long`s. -/
def longMember : Member := .tracing [.primitive .long] none

theorem testable_textOrLong {w : World} (hboxes : w.KeepsBoxes) (hstays : w.StaysOut)
    (htext : w.described? (.builtin "str") = none) :
    ∀ k ∈ [] ++ longMember :: [textMember], ∀ t ∈ k.testedTypes, w.Testable t := by
  intro k hk t ht
  simp only [List.nil_append, List.mem_cons, List.not_mem_nil, or_false] at hk
  rcases hk with rfl | rfl
  · obtain rfl : t = .primitive .long := by
      simpa [longMember, Member.testedTypes, Member.tracing] using ht
    exact testable_of_decides hstays.settles (decides_primitive hboxes .long)
  · obtain rfl : t = .reference (.builtin "str") := by
      simpa [textMember, Member.testedTypes, Member.tracing] using ht
    have hne : ClassName.builtin "str" ≠ Native.protocolClass := by decide
    have hdict : w.isTypedDict (.builtin "str") = false := isTypedDict_of_native htext
    exact testable_of_decides hstays.settles
      (decides_of_canTest hboxes hdict (canTest_of_native htext hne))

theorem rejects_text {w : World} {v : Value} {name id : String} (hboxes : w.KeepsBoxes)
    (hstays : w.StaysOut) (htext : w.described? (.builtin "str") = none)
    (hv : ¬ textMember.Takes w none [v]) :
    (Routine.laidOut memberName [textMember] name id).Refuses w none [v]
      Failure.unrecognised := by
  have htest : ∀ k ∈ [textMember], ∀ t ∈ k.testedTypes, w.Testable t :=
    fun k hk => testable_textOrLong hboxes hstays htext k (List.mem_cons_of_mem _ hk)
  apply (refuses_laidOut_iff (by simp) htest).mpr
  refine Or.inr ⟨rfl, ⟨textMember, mem_candidates.mpr ⟨List.mem_cons_self, Or.inl rfl⟩⟩, ?_⟩
  intro k hk
  obtain rfl := List.mem_singleton.mp (mem_candidates.mp hk).1
  exact hv

/-- A member for `long`s takes integers, and leaves texts to the member for them. -/
theorem text_extendedBy_long :
    ∃ r r', Routine.assemble true "f" [textMember] "f" "f" = .ok r ∧
      Routine.assemble true "f" [longMember, textMember] "f" "f" = .ok r' ∧
      (∀ args, r.ExtendedBy .empty none longMember r' args) ∧
      r.Rejects .empty none [.int 1] ∧
      r'.dispatch (m := Except Failure) .empty none [.int 1] = .ok ⟨longMember, [.int 1]⟩ ∧
      r'.dispatch (m := Except Failure) .empty none [.str "a"] = .ok ⟨textMember, [.str "a"]⟩ := by
  have hne : [] ++ [textMember] ≠ [] := by simp
  have hnone : ∀ h ∈ (none : Option (Hook (Except Failure))), h.Total := by simp
  obtain ⟨r, r', hr, hr', hextended⟩ := extendedBy_of_insertion (w := .empty) hne hnone
    (testable_textOrLong (fun _ => rfl) World.staysOut_empty rfl) true "f" "f" "f"
  refine ⟨r, r', hr, hr', hextended, ?_, ?_, ?_⟩
  · cases (Routine.assemble_eq (by simp) true "f" "f" "f").symm.trans hr
    exact ⟨_, rejects_text (fun _ => rfl) World.staysOut_empty rfl nofun⟩
  · cases (Routine.assemble_eq (by simp) true "f" "f" "f").symm.trans hr'
    rw [dispatch_laidOut]
    rfl
  · cases (Routine.assemble_eq (by simp) true "f" "f" "f").symm.trans hr'
    rw [dispatch_laidOut]
    rfl

theorem long_takes_stubborn : longMember.Takes shop none [stubborn] := by
  have hadmits : admits (m := Except Failure) shop none stubborn (.primitive .long) = .ok true :=
    (admits_none stubborn).trans isInstance_stubborn
  exact admitsAll_of_admits shop none (List.forall_mem_singleton.mpr hadmits)

theorem text_leaves_stubborn : ¬ textMember.Takes shop none [stubborn] := by
  intro htakes
  have hadmits := admits_of_admitsAll shop none htakes _ List.mem_cons_self
  have hclass : shop.isInstanceOf stubborn (.builtin "str") = .ok false :=
    isInstanceOf_of_named (testsByOrder_of_native rfl (by decide)) (staysOut_shop.namedClass? stubborn)
  rw [admits_none, World.isInstance_of_isTruth isTruth_stubborn] at hadmits
  cases hclass.symm.trans hadmits

/--
The conversion of an argument can fail. A call that no other member takes is then neither refused nor
a call of the new one.
-/
theorem stubborn_neither_refused_nor_called :
    (∀ k ∈ [longMember, textMember], ∀ t ∈ k.testedTypes, shop.Testable t) ∧
    ∃ r r', Routine.assemble true "f" [textMember] "f" "f" = .ok r ∧
      Routine.assemble true "f" [longMember, textMember] "f" "f" = .ok r' ∧
      r.Rejects shop none [stubborn] ∧ ¬ r'.Rejects shop none [stubborn] ∧
      r'.dispatch (m := Except Failure) shop none [stubborn] = .error (.raised .value "no") := by
  have hfails : (Routine.laidOut "f" [longMember, textMember] "f" "f").dispatch (m := Except Failure)
      shop none [stubborn] = .error (.raised .value "no") := by
    have hcandidates : candidates [longMember, textMember] 1 = [longMember, textMember] := by
      simp [candidates, exactly, openTo, sortedBy, Member.isVariadic, Member.parameterCount,
        longMember, textMember, Member.tracing]
    rw [dispatch_laidOut, respond]
    simp only [List.length_singleton, hcandidates, firstTaking_of_takes long_takes_stubborn]
    rfl
  refine ⟨testable_textOrLong keepsBoxes_shop staysOut_shop rfl, _, _,
    Routine.assemble_eq (by simp) true "f" "f" "f", Routine.assemble_eq (by simp) true "f" "f" "f",
    ?_, ?_, hfails⟩
  · exact ⟨_, rejects_text keepsBoxes_shop staysOut_shop rfl text_leaves_stubborn⟩
  · rintro ⟨reason, owner, member, argTypes, hrefuses⟩
    rw [hfails] at hrefuses
    cases hrefuses

end Overloads
