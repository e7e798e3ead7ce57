import Overloads.Class.Binding
import Overloads.Class.Shape
import Overloads.Proofs.Outcome

/-! The numbers of arguments that a signature takes, and the shape that each of them meets. -/
namespace Overloads

variable {s : Signature} {shown : ShownSignature} {checkable : ClassName → ClassName}
variable {evaluate : AnnotationText → Option Annotation} {args : List Value} {n : Nat}

namespace Signature

/-- The number of positional parameters that have no default. -/
def required (s : Signature) : Nat := (s.positional.takeWhile (·.default.isNone)).length

/-- That after a positional parameter with a default come only such. -/
def DefaultsLast (s : Signature) : Prop :=
  s.positional.Pairwise fun p q => p.default.isSome → q.default.isSome

/-- That a signature has room for `n` positional arguments and misses none. -/
def Takes (s : Signature) (n : Nat) : Prop :=
  s.needsKeyword = false ∧ s.required ≤ n ∧ (n ≤ s.positional.length ∨ s.variadic?.isSome)

theorem defaults_isSome {params : List Param} :
    (defaults params).isSome ↔ ∀ p ∈ params, p.default.isSome := isSome_mapM

/-- What is left after `n` parameters has defaults only if those without are among them. -/
theorem defaults_drop_iff {params : List Param}
    (h : params.Pairwise fun p q => p.default.isSome → q.default.isSome) :
    (∀ p ∈ params.drop n, p.default.isSome) ↔
      (params.takeWhile (·.default.isNone)).length ≤ n := by
  induction params generalizing n with
  | nil => simp
  | cons p rest ih =>
    obtain ⟨hp, hrest⟩ := List.pairwise_cons.mp h
    cases hd : p.default with
    | none =>
      cases n with
      | zero => simp [hd]
      | succ n => simpa [hd] using ih hrest
    | some v =>
      have hall : ∀ q ∈ p :: rest, q.default.isSome := by
        intro q hq
        rcases List.mem_cons.mp hq with rfl | hq
        · simp [hd]
        · exact hp q hq (by simp [hd])
      simpa [hd] using fun q hq => hall q (List.mem_of_mem_drop hq)

/-- Binding fails for the number of arguments only. -/
theorem bind_isSome_iff (hs : s.DefaultsLast) : (s.bind args).isSome ↔ s.Takes args.length := by
  have hdefaults := defaults_drop_iff (n := args.length) hs
  rw [← defaults_isSome] at hdefaults
  rw [Takes, required, ← hdefaults, bind]
  cases hkeyword : s.needsKeyword with
  | true => simp
  | false =>
    cases hv : s.variadic? with
    | some p => simp [Option.isSome_bind]
    | none =>
      rcases Nat.lt_or_ge s.positional.length args.length with hlt | hle
      · have : ¬ args.length ≤ s.positional.length := by omega
        simp [hlt, this]
      · have : ¬ s.positional.length < args.length := by omega
        simp [hle, this, Option.isSome_bind]

end Signature

/-- How a parameter appears to reflection. -/
def Param.shownBy (evaluate : AnnotationText → Option Annotation) (p : Param) : ShownParam where
  kind := p.kind
  hasDefault := p.default.isSome
  hint := (p.hint.elim (some .missing) evaluate).getD .missing

theorem Signature.params_of_shownWith (h : s.shownWith evaluate = some shown) :
    shown.params = s.params.map (·.shownBy evaluate) := by
  unfold Signature.shownWith at h
  simp only [Option.bind_eq_bind, Option.bind_eq_some_iff] at h
  obtain ⟨params, hparams, returns, -, h⟩ := h
  cases h
  apply map_of_mapM _ hparams
  intro p q hq
  obtain ⟨hint, hhint, hq⟩ := Option.bind_eq_some_iff.mp hq
  cases hq
  cases hp : p.hint with
  | none => simp_all [Param.shownBy]
  | some a => simp_all [Param.shownBy]

theorem Signature.mem_evaluationOrder {p : Param} (h : p ∈ s.params) : p ∈ s.evaluationOrder := by
  have hkind : p ∈ s.params.filter (·.kind = p.kind) := List.mem_filter.mpr ⟨h, by simp⟩
  unfold Signature.evaluationOrder
  cases hp : p.kind <;> simp [h, hp]

theorem Signature.exists_shownWith (hparams : ∀ p ∈ s.params, ∀ a ∈ p.hint, (evaluate a).isSome)
    (hreturns : ∀ a ∈ s.returns, (evaluate a).isSome) :
    ∃ shown, s.shownWith evaluate = some shown := by
  apply Option.isSome_iff_exists.mp
  unfold Signature.shownWith
  apply isSome_bind_of
  · apply isSome_mapM.mpr
    intro p hp
    apply isSome_bind_of
    · cases hhint : p.hint with
      | none => rfl
      | some a => exact hparams p hp a hhint
    · intro hint _
      rfl
  · intro params _
    apply isSome_bind_of
    · cases hret : s.returns with
      | none => rfl
      | some a => exact hreturns a hret
    · intro returns _
      rfl

/-- Where every annotation evaluates there is a signature to see. -/
theorem Signature.shown?_of_fault? {postponed : Bool} (h : s.fault? postponed = none) :
    ∃ shown, s.shown? postponed = some shown ∧
      shown.params = s.params.map (·.shownBy fun a => (a.resolve postponed).toOption) := by
  have hresolves : ∀ a ∈ s.evaluationOrder.filterMap (·.hint) ++ s.returns.toList,
      (a.resolve postponed).toOption.isSome := by
    intro a ha
    have hnone := List.findSome?_eq_none_iff.mp h a ha
    cases hr : a.resolve postponed with
    | ok b => rfl
    | error e => simp [hr] at hnone
  obtain ⟨shown, hshown⟩ : ∃ shown,
      s.shownWith (fun a => (a.resolve postponed).toOption) = some shown := by
    apply exists_shownWith
    · intro p hp a ha
      apply hresolves a
      exact List.mem_append_left _ (List.mem_filterMap.mpr ⟨p, mem_evaluationOrder hp, ha⟩)
    · intro a ha
      exact hresolves a (List.mem_append_right _ (Option.mem_toList.mpr ha))
  refine ⟨shown, ?_, params_of_shownWith hshown⟩
  rw [Signature.shown?, h]
  exact hshown

/-- Whatever evaluates the annotations, reflection sees the parameters as they are. -/
theorem Signature.params_of_shown? {postponed : Bool} (h : s.shown? postponed = some shown) :
    ∃ evaluate, shown.params = s.params.map (·.shownBy evaluate) := by
  unfold Signature.shown? at h
  split at h
  · cases h
  · exact ⟨_, params_of_shownWith h⟩
  · exact ⟨_, params_of_shownWith h⟩

namespace ShownSignature

/-- The number of positional parameters that have no default. -/
def required (s : ShownSignature) : Nat := (s.positional.takeWhile (!·.hasDefault)).length

/-- That a signature as reflection sees it takes `n` positional arguments. -/
def Takes (s : ShownSignature) (n : Nat) : Prop :=
  s.needsKeyword = false ∧ s.required ≤ n ∧ (n ≤ s.positional.length ∨ s.variadic?.isSome)

variable (h : shown.params = s.params.map (·.shownBy evaluate))
include h

theorem needsKeyword_eq : shown.needsKeyword = s.needsKeyword := by
  simp only [needsKeyword, Signature.needsKeyword, h, List.any_map]
  congr 1
  funext p
  simp [Param.shownBy]

theorem positional_eq : shown.positional = s.positional.map (·.shownBy evaluate) := by
  rw [positional, Signature.positional, h, List.filter_map]
  rfl

theorem variadic?_eq : shown.variadic? = s.variadic?.map (·.shownBy evaluate) := by
  rw [variadic?, Signature.variadic?, h, List.find?_map]
  rfl

theorem required_eq : shown.required = s.required := by
  rw [required, Signature.required, positional_eq h, List.takeWhile_map, List.length_map]
  congr 2
  funext p
  simp [Param.shownBy]

theorem takes_iff : shown.Takes n ↔ s.Takes n := by
  simp only [Takes, Signature.Takes, needsKeyword_eq h, required_eq h, positional_eq h,
    variadic?_eq h, List.length_map, Option.isSome_map]

end ShownSignature

/-- Whether a shape takes `n` arguments. -/
def Shape.accepts (shape : Shape) (n : Nat) : Bool :=
  shape.params.length = n || (shape.varargs.isSome && shape.params.length ≤ n)

namespace ShownSignature

/-- The types of the positional parameters. -/
def declared (s : ShownSignature) (checkable : ClassName → ClassName) : List TypeRef :=
  s.positional.map (·.hint.type checkable)

@[simp] theorem length_declared : (shown.declared checkable).length = shown.positional.length := by
  simp [declared]

/-- The shape with the first `count` parameters only. -/
def cut (s : ShownSignature) (checkable : ClassName → ClassName) (count : Nat) : Shape :=
  ⟨(s.declared checkable).take count, none, s.returns.type checkable⟩

/-- The shape with all parameters. -/
def whole (s : ShownSignature) (checkable : ClassName → ClassName) : Shape :=
  ⟨s.declared checkable, s.variadic?.map (·.hint.type checkable), s.returns.type checkable⟩

/-- The shape that `n` arguments meet. -/
def shapeAt (s : ShownSignature) (checkable : ClassName → ClassName) (n : Nat) : Shape :=
  if n < s.positional.length then s.cut checkable n else s.whole checkable

theorem shapes_eq (h : shown.needsKeyword = false) : shown.shapes checkable =
    (List.range' shown.required (shown.positional.length - shown.required)).map
      (shown.cut checkable) ++ [shown.whole checkable] := by
  simp [shapes, h, declared, required, cut, whole]

theorem accepts_cut {count : Nat} (h : count < shown.positional.length) :
    (shown.cut checkable count).accepts n = (count == n) := by
  simp [Shape.accepts, cut, Nat.min_eq_left (Nat.le_of_lt h), Bool.beq_eq_decide_eq]

theorem accepts_whole : (shown.whole checkable).accepts n = true ↔
    shown.positional.length = n ∨ shown.variadic?.isSome ∧ shown.positional.length ≤ n := by
  simp [Shape.accepts, whole]

theorem filter_cut : ((List.range' shown.required (shown.positional.length - shown.required)).map
      (shown.cut checkable)).filter (·.accepts n) =
    if shown.required ≤ n ∧ n < shown.positional.length then [shown.cut checkable n] else [] := by
  have hcount : (List.range' shown.required (shown.positional.length - shown.required)).filter
      ((·.accepts n) ∘ shown.cut checkable) =
      (List.range' shown.required (shown.positional.length - shown.required)).filter (· == n) := by
    apply List.filter_congr
    intro count hmem
    apply accepts_cut
    have := List.mem_range'_1.mp hmem
    omega
  rw [List.filter_map, hcount, List.filter_beq, List.count_range_1']
  split <;> split <;> first | rfl | omega

/-- One shape and no other takes the arguments, unless there are too few or too many of them. -/
theorem filter_shapes_of_takes (h : shown.Takes n) :
    (shown.shapes checkable).filter (·.accepts n) = [shown.shapeAt checkable n] := by
  obtain ⟨hkeyword, hrequired, hroom⟩ := h
  rw [shapes_eq hkeyword, List.filter_append, filter_cut, shapeAt]
  rcases Nat.lt_or_ge n shown.positional.length with hlt | hge
  · have hwhole : ¬ (shown.whole checkable).accepts n = true := by
      rw [accepts_whole]
      omega
    simp [hrequired, hlt, hwhole]
  · have hlt : ¬ n < shown.positional.length := by omega
    have hwhole : (shown.whole checkable).accepts n = true := by
      rw [accepts_whole]
      exact hroom.imp (by omega) fun hv => ⟨hv, hge⟩
    simp [hlt, hwhole]

theorem filter_shapes_of_not_takes (h : ¬ shown.Takes n) :
    (shown.shapes checkable).filter (·.accepts n) = [] := by
  cases hkeyword : shown.needsKeyword with
  | true => simp [shapes, hkeyword]
  | false =>
    have hle : shown.required ≤ shown.positional.length := (List.takeWhile_sublist _).length_le
    have hcut : ¬ (shown.required ≤ n ∧ n < shown.positional.length) :=
      fun hn => h ⟨hkeyword, hn.1, Or.inl (Nat.le_of_lt hn.2)⟩
    have hwhole : ¬ (shown.whole checkable).accepts n = true := by
      rw [accepts_whole]
      rintro (rfl | ⟨hv, hn⟩)
      · exact h ⟨hkeyword, hle, Or.inl (Nat.le_refl _)⟩
      · exact h ⟨hkeyword, Nat.le_trans hle hn, Or.inr hv⟩
    rw [shapes_eq hkeyword, List.filter_append, filter_cut]
    simp [hcut, hwhole]

end ShownSignature

end Overloads
