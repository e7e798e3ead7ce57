import Overloads.Failure

/-! Computations that do not fail the way a routine refuses a call. -/
namespace Overloads

variable {α β : Type} {x : Except Failure α} {f : α → Except Failure β}

/-- Whether a failure is the refusal of a call. -/
@[simp] def Failure.isRefusal : Failure → Bool
  | .noOverload _ _ _ _ => true
  | _ => false

/-- That a computation, should it fail, does not fail as a routine does that refuses a call. -/
def Unrefused (x : Except Failure α) : Prop := ∀ e, x = .error e → e.isRefusal = false

theorem Unrefused.ne (h : Unrefused x) (owner memberName : String) (argTypes : List String)
    (reason : String) : x ≠ .error (.noOverload owner memberName argTypes reason) := by
  intro hx
  cases h _ hx

@[simp] theorem unrefused_ok (a : α) : Unrefused (.ok a : Except Failure α) := by
  simp [Unrefused]

@[simp] theorem unrefused_pure (a : α) : Unrefused (pure a : Except Failure α) := unrefused_ok a

@[simp] theorem unrefused_error {e : Failure} :
    Unrefused (.error e : Except Failure α) ↔ e.isRefusal = false := by
  simp [Unrefused]

@[simp] theorem unrefused_throw {e : Failure} :
    Unrefused (throw e : Except Failure α) ↔ e.isRefusal = false := unrefused_error

@[simp] theorem unrefused_bind :
    Unrefused (x >>= f) ↔ Unrefused x ∧ ∀ a, x = .ok a → Unrefused (f a) := by
  cases x <;> simp [bind, Except.bind]

@[simp] theorem unrefused_map {g : α → β} : Unrefused (x.map g) ↔ Unrefused x := by
  cases x <;> simp [Except.map]

@[simp] theorem unrefused_fmap {g : α → β} : Unrefused (g <$> x) ↔ Unrefused x := unrefused_map

@[simp] theorem unrefused_ite {c : Prop} [Decidable c] {y : Except Failure α} :
    Unrefused (if c then x else y) ↔ (c → Unrefused x) ∧ (¬ c → Unrefused y) := by
  by_cases h : c <;> simp [h]

@[simp] theorem unrefused_elim {o : Option α} {y : Except Failure β} :
    Unrefused (o.elim y f) ↔ (o = none → Unrefused y) ∧ ∀ a, o = some a → Unrefused (f a) := by
  cases o <;> simp

theorem unrefused_mapM {l : List α} (h : ∀ a ∈ l, Unrefused (f a)) : Unrefused (l.mapM f) := by
  induction l with
  | nil => exact unrefused_ok _
  | cons a rest ih =>
    have hrest := ih fun b hb => h b (List.mem_cons_of_mem a hb)
    simp [h a List.mem_cons_self, hrest]

theorem unrefused_foldlM {g : β → α → Except Failure β} (h : ∀ b a, Unrefused (g b a))
    (l : List α) (b : β) : Unrefused (l.foldlM g b) := by
  induction l generalizing b with
  | nil => exact unrefused_ok b
  | cons a rest ih => simp [h, ih]

end Overloads
