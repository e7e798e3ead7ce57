import Overloads.Member.Reflection
import Overloads.Proofs.Class.Counting
import Overloads.Proofs.Class.WellFormed

/-! What the shapes of a signature take binds to its parameters, with and without a receiver. -/
namespace Overloads

variable {s : Signature} {shown bound : ShownSignature} {shape : Shape} {n : Nat}
variable {checkable : ClassName → ClassName} {counts : List Nat} {postponed : Bool}

/-- That any `n` positional arguments bind to the parameters. -/
def Signature.Binds (s : Signature) (n : Nat) : Prop :=
  ∀ args : List Value, args.length = n → ∃ values, s.bind args = some values

theorem Signature.binds_of_takes (hs : s.DefaultsLast) (h : s.Takes n) : s.Binds n := by
  rintro args rfl
  exact Option.isSome_iff_exists.mp ((Signature.bind_isSome_iff hs).mpr h)

theorem takes_of_mem_shapes (h : shape ∈ shown.shapes checkable) (hn : shape.accepts n = true) :
    shown.Takes n := by
  by_cases htakes : shown.Takes n
  · exact htakes
  · have hmem : shape ∈ (shown.shapes checkable).filter (·.accepts n) :=
      List.mem_filter.mpr ⟨h, hn⟩
    rw [ShownSignature.filter_shapes_of_not_takes htakes] at hmem
    cases hmem

/-- That among parameters of these kinds one can get the first positional argument. -/
def TakesFirst (kinds : List ParamKind) : Prop :=
  (∃ k ∈ kinds.head?, k.isPositional = true) ∨ .variadic ∈ kinds

namespace ShownSignature

theorem variadic?_isSome_iff : shown.variadic?.isSome ↔ .variadic ∈ shown.params.map (·.kind) := by
  simp only [variadic?, List.find?_isSome, List.mem_map, decide_eq_true_eq]

/-- An argument in front is taken beside those that are taken without the receiver. -/
theorem takes_succ (hfirst : TakesFirst (shown.params.map (·.kind)))
    (h : shown.withoutReceiver.Takes n) : shown.Takes (n + 1) := by
  obtain ⟨params, returns⟩ := shown
  cases params with
  | nil => rcases hfirst with ⟨k, hk, -⟩ | hv <;> simp at *
  | cons p rest =>
    cases hp : p.kind.isPositional with
    | true =>
      have hrest : (⟨rest, returns⟩ : ShownSignature).Takes n := by
        simpa [withoutReceiver, hp] using h
      obtain ⟨hkeyword, hrequired, hroom⟩ := hrest
      have hkinds : p.kind ≠ .keywordOnly ∧ p.kind ≠ .variadic := by
        constructor <;> intro hk <;> simp [hk, ParamKind.isPositional] at hp
      refine ⟨?_, ?_, ?_⟩
      · simpa [needsKeyword, hkinds.1] using hkeyword
      · cases hd : p.hasDefault with
        | true => simp [required, positional, hp, hd]
        | false =>
          simp only [required, positional] at hrequired
          simp [required, positional, hp, hd]
          omega
      · simpa [positional, hp, variadic?, hkinds.2] using hroom
    | false =>
      have hv : (⟨p :: rest, returns⟩ : ShownSignature).variadic?.isSome := by
        rw [variadic?_isSome_iff]
        rcases hfirst with ⟨k, hk, hpositional⟩ | hv
        · obtain rfl : p.kind = k := by simpa using hk
          simp [hp] at hpositional
        · exact hv
      have hsame : (⟨p :: rest, returns⟩ : ShownSignature).Takes n := by
        simpa [withoutReceiver, hp] using h
      obtain ⟨hkeyword, hrequired, -⟩ := hsame
      exact ⟨hkeyword, Nat.le_succ_of_le hrequired, Or.inr hv⟩

/-- A signature whose first argument can be fixed can take it, and loses it like a receiver. -/
theorem bound?_eq_some (h : shown.bound? = some bound) :
    bound = shown.withoutReceiver ∧ TakesFirst (shown.params.map (·.kind)) := by
  obtain ⟨params, returns⟩ := shown
  cases params with
  | nil => cases h
  | cons p rest =>
    simp only [bound?] at h
    cases hp : p.kind <;> rw [hp] at h <;> cases h
    all_goals simp [withoutReceiver, hp, ParamKind.isPositional, TakesFirst]

end ShownSignature

section Shown

variable (hs : s.DefaultsLast) (hshown : s.shown? postponed = some shown)
include hs hshown

theorem binds_of_shapes (hshape : shape ∈ shown.shapes checkable)
    (hn : shape.accepts n = true) : s.Binds n := by
  obtain ⟨evaluate, hparams⟩ := Signature.params_of_shown? hshown
  apply Signature.binds_of_takes hs
  rw [← ShownSignature.takes_iff hparams]
  exact takes_of_mem_shapes hshape hn

theorem binds_succ_of_shapes (hfirst : TakesFirst (s.params.map (·.kind)))
    (hshape : shape ∈ shown.withoutReceiver.shapes checkable) (hn : shape.accepts n = true) :
    s.Binds (n + 1) := by
  obtain ⟨evaluate, hparams⟩ := Signature.params_of_shown? hshown
  have hkinds : shown.params.map (·.kind) = s.params.map (·.kind) := by
    rw [hparams, List.map_map]
    rfl
  apply Signature.binds_of_takes hs
  rw [← ShownSignature.takes_iff hparams]
  exact ShownSignature.takes_succ (hkinds ▸ hfirst) (takes_of_mem_shapes hshape hn)

theorem binds_succ_of_bound (hbound : shown.bound? = some bound)
    (hshape : shape ∈ bound.shapes checkable) (hn : shape.accepts n = true) : s.Binds (n + 1) := by
  obtain ⟨evaluate, hparams⟩ := Signature.params_of_shown? hshown
  obtain ⟨rfl, hfirst⟩ := ShownSignature.bound?_eq_some hbound
  apply Signature.binds_of_takes hs
  rw [← ShownSignature.takes_iff hparams]
  exact ShownSignature.takes_succ hfirst (takes_of_mem_shapes hshape hn)

end Shown

/-- Positional parameters from a number on optional take all numbers of arguments between. -/
theorem takes_untyped {least most : Nat} (hle : least ≤ most)
    (h : (ShownSignature.untyped least most).Takes n) : least ≤ n ∧ n ≤ most := by
  have hpositional : (ShownSignature.untyped least most).positional =
      (ShownSignature.untyped least most).params := by
    simp [ShownSignature.positional, ShownSignature.untyped, ParamKind.isPositional]
  have hvariadic : (ShownSignature.untyped least most).variadic? = none := by
    simp [ShownSignature.variadic?, ShownSignature.untyped]
  have hrequired : least ≤ (ShownSignature.untyped least most).required := by
    obtain ⟨more, rfl⟩ := Nat.exists_eq_add_of_le hle
    rw [ShownSignature.required, hpositional, ShownSignature.untyped, List.takeWhile_map,
      List.length_map, List.range_add, List.takeWhile_append_of_pos (by simp),
      List.length_append, List.length_range]
    exact Nat.le_add_right _ _
  obtain ⟨-, hleast, hmost⟩ := h
  rw [hpositional, hvariadic] at hmost
  simp [ShownSignature.untyped] at hmost
  omega

theorem mem_of_takes_counts (hcounts : Contiguous counts)
    (h : (Attribute.countsSignature counts).Takes n) : n ∈ counts := by
  obtain ⟨hleast, hmost⟩ := takes_untyped hcounts.1 h
  exact hcounts.2 n hmost hleast

end Overloads
