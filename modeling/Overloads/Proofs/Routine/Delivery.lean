import Overloads.Proofs.Instance.Conversion
import Overloads.Proofs.Instance.Testing
import Overloads.Proofs.Routine.FirstTaker

/-! What arrives at a target: every argument in its place, and of the type of its parameter. -/
namespace Overloads

variable (w : World) (hook : Option (Hook (Except Failure)))
variable {members : List Member} {m : Member} {args : List Value} {t : TypeRef} {v u : Value}

theorem isInstance_of_classOf (hv : v.isObject = false) (h : w.classOf v = t.boxed) :
    w.isInstance v t = .ok true := by
  have hsame : w.isInstanceOf v t.boxed = .ok true := by simp [World.isInstanceOf, h]
  cases v with
  | bool b =>
    have hbool : t.boxed = .builtin "bool" := h.symm
    rw [hbool] at hsame
    rw [World.isInstance, hbool, World.isTruth, hsame]
    rfl
  | object _ _ _ => cases hv
  | _ => exact hsame

/-- Truth values count as integers, and still no parameter for numbers takes one. -/
theorem not_bool_of_numeric (hnumeric : w.isNumeric t.boxed = true)
    (hne : t.boxed ≠ .builtin "bool")
    (h : w.isInstance v t = .ok true) (b : Bool) : v ≠ .bool b := by
  rintro rfl
  simp [World.isInstance, World.isTruth, hnumeric, hne, bind, Except.bind, pure, Except.pure] at h

/-- The class of what a cast makes. -/
def Cast.made : Cast → ClassName
  | .int => .builtin "int"
  | .float => .builtin "float"

theorem TypeRef.boxed_of_cast? {c : Cast} (ht : t.cast? = some c) : t.boxed = c.made := by
  rcases t with p | k
  · cases p <;> cases ht <;> rfl
  · cases ht

theorem classOf_of_gives {c : Cast} (h : c.Gives u) : w.classOf u = c.made ∧ u.isObject = false := by
  cases c with
  | int =>
    obtain ⟨n, rfl⟩ := h
    exact ⟨rfl, rfl⟩
  | float =>
    obtain ⟨x, rfl⟩ := h
    exact ⟨rfl, rfl⟩

theorem admits_of_admitsAll {l : List (Value × TypeRef)} (h : admitsAll w hook l = .ok true) :
    ∀ x ∈ l, admits w hook x.1 x.2 = .ok true := by
  induction l with
  | nil => simp
  | cons x rest ih =>
    rw [admitsAll, Except.bind_eq_ok] at h
    obtain ⟨b, hb, h⟩ := h
    cases b with
    | false => cases h
    | true =>
      intro y hy
      rcases List.mem_cons.mp hy with rfl | hy
      · exact hb
      · exact ih h y hy

theorem admitsAll_of_admits {l : List (Value × TypeRef)}
    (h : ∀ x ∈ l, admits w hook x.1 x.2 = .ok true) : admitsAll w hook l = .ok true := by
  induction l with
  | nil => rfl
  | cons x rest ih =>
    obtain ⟨hfirst, hrest⟩ := List.forall_mem_cons.mp h
    rw [admitsAll, hfirst]
    exact ih hrest

theorem mem_of_firstTaking {refusal : Failure} {ms : List Member} {call : Call}
    (h : firstTaking w hook args refusal ms = .ok call) :
    call.member ∈ ms ∧
      admitsAll w hook (args.zip (call.member.parameterTypes args.length)) = .ok true ∧
      call.member.delivery w hook args = .ok call.args := by
  induction ms with
  | nil => cases h
  | cons m rest ih =>
    rw [firstTaking, Except.bind_eq_ok] at h
    obtain ⟨b, hb, h⟩ := h
    cases b with
    | false =>
      obtain ⟨hmem, htaken⟩ := ih h
      exact ⟨List.mem_cons_of_mem m hmem, htaken⟩
    | true =>
      obtain ⟨delivered, hdelivered, h⟩ := Except.bind_eq_ok.mp h
      cases h
      exact ⟨List.mem_cons_self, hb, hdelivered⟩

/-- A call is one of a candidate that takes every argument, and passes on what that one gets. -/
theorem candidate_of_respond {memberName : String} {call : Call}
    (h : respond w hook memberName members args = .ok call) :
    call.member ∈ candidates members args.length ∧
      admitsAll w hook (args.zip (call.member.parameterTypes args.length)) = .ok true ∧
      call.member.delivery w hook args = .ok call.args := by
  unfold respond at h
  split at h
  · cases h
  · rename_i first rest hall
    rw [hall]
    exact mem_of_firstTaking w hook h

theorem coerced_of_admits (h : admits w hook v t = .ok true) :
    ∃ v', coerced hook v t = .ok v' ∧ w.isInstance v' t = .ok true := by
  simpa [admits, Except.bind_eq_ok] using h

/-- The cast that the argument in place `i` goes through for a parameter of type `t`. -/
def Member.castAt? (m : Member) (i : Nat) (t : TypeRef) : Option Cast :=
  if i < m.parameterCount then t.cast? else none

/-- What the target of a member gets in place `i` for a parameter of type `t`. -/
def Member.deliveryAt (m : Member) (i : Nat) (v : Value) (t : TypeRef) : Except Failure Value := do
  let v ← coerced hook v t
  match m.castAt? i t with
  | none => return v
  | some c => w.cast c v

theorem delivery_eq_mapM : m.delivery w hook args =
    (args.zip (m.parameterTypes args.length)).zipIdx.mapM fun ((v, t), i) =>
      m.deliveryAt w hook i v t := by
  apply mapM_congr
  rintro ⟨⟨v, t⟩, i⟩ -
  by_cases hi : i < m.parameterCount
  · cases hcast : t.cast? with
    | none => simp [hi, hcast, bound, Member.deliveryAt, Member.castAt?]
    | some c => simp [hi, hcast, bound, Member.deliveryAt, Member.castAt?, ofExcept_eq]
  · simp [hi, Member.deliveryAt, Member.castAt?]

/-- Casts stay inside the class that the guard has tested for. -/
theorem isInstance_deliveryAt {i : Nat} (hadmits : admits w hook v t = .ok true)
    (h : m.deliveryAt w hook i v t = .ok u) : w.isInstance u t = .ok true := by
  obtain ⟨v', hv', hfits⟩ := coerced_of_admits w hook hadmits
  rw [Member.deliveryAt, hv'] at h
  cases hcast : m.castAt? i t with
  | none =>
    obtain rfl : v' = u := by simpa [hcast, bind, Except.bind, pure, Except.pure] using h
    exact hfits
  | some c =>
    have hc : t.cast? = some c := by
      unfold Member.castAt? at hcast
      split at hcast
      · exact hcast
      · cases hcast
    have hu : w.cast c v' = .ok u := by simpa [hcast, bind, Except.bind] using h
    obtain ⟨hclass, hobject⟩ := classOf_of_gives w (Cast.gives_of_cast hu)
    apply isInstance_of_classOf w hobject
    rw [hclass, TypeRef.boxed_of_cast? hc]

/-- That the target of `m` gets `v` in place `i`, where the call has `a` and the parameter `t`. -/
structure Arrives (m : Member) (i : Nat) (a : Value) (t : TypeRef) (v : Value) : Prop where
  made : m.deliveryAt w hook i a t = .ok v
  fits : w.isInstance v t = .ok true
  notBool : w.isNumeric t.boxed = true → t.boxed ≠ .builtin "bool" → ∀ b, v ≠ .bool b
  lossless : hook = none → match m.castAt? i t with
    | some c => w.cast c a = .ok v
    | none => v = a

theorem Arrives.of_admits {i : Nat} (hadmits : admits w hook v t = .ok true)
    (h : m.deliveryAt w hook i v t = .ok u) : Arrives w hook m i v t u where
  made := h
  fits := isInstance_deliveryAt w hook hadmits h
  notBool hnumeric hne :=
    not_bool_of_numeric w hnumeric hne (isInstance_deliveryAt w hook hadmits h)
  lossless hnone := by
    subst hnone
    cases hcast : m.castAt? i t with
    | none =>
      obtain rfl : v = u := by
        simpa [Member.deliveryAt, coerced, hcast, bind, Except.bind, pure, Except.pure] using h
      rfl
    | some c => simpa [Member.deliveryAt, coerced, hcast] using h

theorem arrives_of_delivery {delivered : List Value}
    (hall : admitsAll w hook (args.zip (m.parameterTypes args.length)) = .ok true)
    (h : m.delivery w hook args = .ok delivered) {i : Nat} (hu : delivered[i]? = some u) :
    ∃ a t, args[i]? = some a ∧ (m.parameterTypes args.length)[i]? = some t ∧
      Arrives w hook m i a t u := by
  rw [delivery_eq_mapM] at h
  obtain ⟨⟨⟨a, t⟩, j⟩, hat, hmade⟩ := mapM_getElem? h hu
  rw [List.getElem?_zipIdx, Option.map_eq_some_iff] at hat
  obtain ⟨⟨a', t'⟩, hpair, heq⟩ := hat
  simp only [Nat.zero_add, Prod.mk.injEq] at heq
  obtain ⟨⟨rfl, rfl⟩, rfl⟩ := heq
  have hadmits := admits_of_admitsAll w hook hall _ (List.mem_of_getElem? hpair)
  obtain ⟨ha, ht⟩ := List.getElem?_zip_eq_some.mp hpair
  exact ⟨a', t', ha, ht, .of_admits w hook hadmits hmade⟩

theorem length_of_delivery {delivered : List Value} (hm : m ∈ candidates members args.length)
    (h : m.delivery w hook args = .ok delivered) : delivered.length = args.length := by
  rw [Member.delivery] at h
  rw [mapM_length h, List.length_zipIdx, List.length_zip, length_parameterTypes hm, Nat.min_self]

/--
Whatever is called gets as many arguments as the call has, in order. Each fits the parameter in its
place, is no truth value where numbers are asked for, and without a hook it is the argument itself
but for casts.
-/
theorem arrives_of_dispatch (hne : members ≠ []) (proofMode : Bool) (memberName name id : String) :
    ∃ r, Routine.assemble proofMode memberName members name id = .ok r ∧
      ∀ (hook : Option (Hook (Except Failure))) (args : List Value) (call : Call),
        r.dispatch w hook args = .ok call →
          call.member ∈ members ∧ call.args.length = args.length ∧
          ∀ i v, call.args[i]? = some v → ∃ a t, args[i]? = some a ∧
            (call.member.parameterTypes args.length)[i]? = some t ∧
            Arrives w hook call.member i a t v := by
  refine ⟨_, Routine.assemble_eq hne proofMode memberName name id, ?_⟩
  intro hook args call hcall
  rw [dispatch_laidOut] at hcall
  obtain ⟨hm, hall, hdelivered⟩ := candidate_of_respond w hook hcall
  obtain ⟨hmember, -⟩ := mem_candidates.mp hm
  exact ⟨hmember, length_of_delivery w hook hm hdelivered,
    fun i v hv => arrives_of_delivery w hook hall hdelivered hv⟩

theorem long_arrives :
    ∃ r, Routine.assemble true "f" [.tracing [.primitive .long] none] "f" "f" = .ok r ∧
      r.dispatch (m := Except Failure) .empty none [.int 1] =
        .ok ⟨.tracing [.primitive .long] none, [.int 1]⟩ ∧
      Arrives .empty none (.tracing [.primitive .long] none) 0 (.int 1) (.primitive .long)
        (.int 1) := by
  have hne : [Member.tracing [.primitive .long] none] ≠ [] := by simp
  obtain ⟨r, hr, harrives⟩ := arrives_of_dispatch .empty hne true "f" "f" "f"
  have hcall : r.dispatch (m := Except Failure) .empty none [.int 1] =
      .ok ⟨.tracing [.primitive .long] none, [.int 1]⟩ := by
    rw [Routine.assemble_eq (by simp)] at hr
    cases hr
    rw [dispatch_laidOut]
    rfl
  obtain ⟨-, -, hplaces⟩ := harrives none _ _ hcall
  obtain ⟨a, t, ha, ht, hat⟩ := hplaces 0 (.int 1) rfl
  cases ha
  cases ht
  exact ⟨r, hr, hcall, hat⟩

/-- The class of truth values is below that of integers, and its parameters take truth values. -/
theorem bool_arrives_below_int :
    World.empty.isSubclass (TypeRef.primitive .boolean).boxed (.builtin "int") = true ∧
      ∃ r, Routine.assemble true "f" [.tracing [.primitive .boolean] none] "f" "f" = .ok r ∧
        r.dispatch (m := Except Failure) .empty none [.bool true] =
          .ok ⟨.tracing [.primitive .boolean] none, [.bool true]⟩ := by
  refine ⟨by decide, _, Routine.assemble_eq (by simp) true "f" "f" "f", ?_⟩
  rw [dispatch_laidOut]
  rfl

end Overloads
