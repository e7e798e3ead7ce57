import Overloads.Failure

/-! Computations that can fail: when they succeed, and with what. -/
namespace Overloads

variable {ε α β : Type}

theorem Except.bind_eq_ok {x : Except ε α} {f : α → Except ε β} {b : β} :
    x >>= f = .ok b ↔ ∃ a, x = .ok a ∧ f a = .ok b := by
  cases x <;> simp [bind, Except.bind]

theorem Except.bind_eq_error {x : Except ε α} {f : α → Except ε β} {e : ε} :
    x >>= f = .error e ↔ x = .error e ∨ ∃ a, x = .ok a ∧ f a = .error e := by
  cases x <;> simp [bind, Except.bind]

theorem Except.map_eq_ok {x : Except ε α} {f : α → β} {b : β} :
    x.map f = .ok b ↔ ∃ a, x = .ok a ∧ f a = b := by
  cases x <;> simp [Except.map]

theorem Except.map_eq_error {x : Except ε α} {f : α → β} {e : ε} :
    x.map f = .error e ↔ x = .error e := by
  cases x <;> simp [Except.map]

theorem Except.exists_of_isOk {x : Except ε α} (h : x.isOk) : ∃ a, x = .ok a := by
  cases x with
  | ok a => exact ⟨a, rfl⟩
  | error e => cases h

theorem Except.eq_ok_of_toOption {x : Except ε α} {a : α} (h : x.toOption = some a) :
    x = .ok a := by
  cases x with
  | ok b => exact congrArg Except.ok (Option.some.inj h)
  | error e => cases h

/-- What a computation fails with, if it does. -/
def Except.error? : Except ε α → Option ε
  | .ok _ => none
  | .error e => some e

theorem Except.error?_eq_some {x : Except ε α} {e : ε} : Except.error? x = some e ↔ x = .error e := by
  cases x <;> simp [Except.error?]

@[simp] theorem ofExcept_eq (x : Except Failure α) :
    (MonadExcept.ofExcept x : Except Failure α) = x := by
  cases x <;> rfl

theorem mapM_eq_ok {f : α → Except ε β} {g : α → β} {l : List α}
    (h : ∀ a ∈ l, f a = .ok (g a)) : l.mapM f = .ok (l.map g) := by
  induction l with
  | nil => rfl
  | cons a rest ih =>
    rw [List.mapM_cons, h a List.mem_cons_self, ih fun b hb => h b (List.mem_cons_of_mem a hb)]
    rfl

theorem forM_eq_ok {f : α → Except ε PUnit} {l : List α}
    (h : ∀ a ∈ l, f a = .ok ()) : l.forM f = .ok () := by
  induction l with
  | nil => rfl
  | cons a rest ih =>
    have hrest := ih fun b hb => h b (List.mem_cons_of_mem a hb)
    simp only [List.forM, h a List.mem_cons_self, hrest, bind, Except.bind]

theorem eq_ok_of_forM {f : α → Except ε PUnit} {l : List α} (h : l.forM f = .ok ()) :
    ∀ a ∈ l, f a = .ok () := by
  induction l with
  | nil => simp
  | cons a rest ih =>
    obtain ⟨_, ha, hrest⟩ := Except.bind_eq_ok.mp h
    intro b hb
    rcases List.mem_cons.mp hb with rfl | hb
    · exact ha
    · exact ih hrest b hb

theorem mapM_length {f : α → Except ε β} {l : List α} {l' : List β}
    (h : l.mapM f = .ok l') : l'.length = l.length := by
  induction l generalizing l' with
  | nil =>
    cases h
    rfl
  | cons a rest ih =>
    rw [List.mapM_cons, Except.bind_eq_ok] at h
    obtain ⟨b, -, h⟩ := h
    obtain ⟨rest', hrest, h⟩ := Except.bind_eq_ok.mp h
    cases h
    simp [ih hrest]

/-- What a successful traversal made of the items, place by place. -/
theorem mapM_getElem? {f : α → Except ε β} {l : List α} {l' : List β}
    (h : l.mapM f = .ok l') {i : Nat} {b : β} (hb : l'[i]? = some b) :
    ∃ a, l[i]? = some a ∧ f a = .ok b := by
  induction l generalizing l' i with
  | nil =>
    cases h
    simp at hb
  | cons a rest ih =>
    rw [List.mapM_cons, Except.bind_eq_ok] at h
    obtain ⟨b', hfirst, h⟩ := h
    obtain ⟨rest', hrest, h⟩ := Except.bind_eq_ok.mp h
    cases h
    cases i with
    | zero =>
      simp only [List.getElem?_cons_zero, Option.some.injEq] at hb
      subst hb
      exact ⟨a, rfl, hfirst⟩
    | succ i =>
      simp only [List.getElem?_cons_succ] at hb ⊢
      exact ih hrest hb

/-- A traversal that fails does so at some item. -/
theorem exists_of_mapM_eq_error {f : α → Except ε β} {l : List α} {e : ε}
    (h : l.mapM f = .error e) : ∃ a ∈ l, f a = .error e := by
  induction l with
  | nil => cases h
  | cons a rest ih =>
    rw [List.mapM_cons] at h
    cases ha : f a with
    | error e' =>
      simp only [ha, bind, Except.bind, Except.error.injEq] at h
      subst h
      exact ⟨a, List.mem_cons_self, ha⟩
    | ok b =>
      cases hrest : rest.mapM f with
      | error e' =>
        simp only [ha, hrest, bind, Except.bind, Except.error.injEq] at h
        subst h
        obtain ⟨a', ha', hfails⟩ := ih hrest
        exact ⟨a', List.mem_cons_of_mem a ha', hfails⟩
      | ok rest' => simp [ha, hrest, bind, Except.bind, pure, Except.pure] at h

/-- A traversal succeeds exactly where it meets no item that fails, wherever that stands. -/
theorem mapM_answers_iff {f : α → Except ε β} {l : List α} :
    (∃ l', l.mapM f = .ok l') ↔ ∀ a ∈ l, ∀ e, f a ≠ .error e := by
  constructor
  · rintro ⟨l', hl'⟩ a ha e hfails
    obtain ⟨i, hi⟩ := List.getElem?_of_mem ha
    have hlt : i < l'.length := by
      rw [mapM_length hl']
      exact (List.getElem?_eq_some_iff.mp hi).1
    obtain ⟨a', ha', hb⟩ := mapM_getElem? hl' (List.getElem?_eq_getElem hlt)
    cases hi.symm.trans ha'
    cases hb.symm.trans hfails
  · intro h
    cases hl : l.mapM f with
    | ok l' => exact ⟨l', rfl⟩
    | error e =>
      obtain ⟨a, ha, hfails⟩ := exists_of_mapM_eq_error hl
      exact (h a ha e hfails).elim

theorem exists_of_forM_eq_error {f : α → Except ε Unit} {l : List α} {e : ε}
    (h : l.forM f = .error e) : ∃ a ∈ l, f a = .error e := by
  induction l with
  | nil => cases h
  | cons a rest ih =>
    rcases Except.bind_eq_error.mp h with ha | ⟨-, -, hrest⟩
    · exact ⟨a, List.mem_cons_self, ha⟩
    · obtain ⟨b, hb, hfails⟩ := ih hrest
      exact ⟨b, List.mem_cons_of_mem a hb, hfails⟩

/-- A search that fails does so at some item. -/
theorem exists_of_anyM_eq_error {p : α → Except ε Bool} {l : List α} {e : ε}
    (h : l.anyM p = .error e) : ∃ a ∈ l, p a = .error e := by
  induction l with
  | nil => cases h
  | cons a rest ih =>
    rcases Except.bind_eq_error.mp h with ha | ⟨b, -, hrest⟩
    · exact ⟨a, List.mem_cons_self, ha⟩
    · cases b with
      | true => cases hrest
      | false =>
        obtain ⟨a', ha', hfails⟩ := ih hrest
        exact ⟨a', List.mem_cons_of_mem a ha', hfails⟩

theorem exists_of_allM_eq_error {p : α → Except ε Bool} {l : List α} {e : ε}
    (h : l.allM p = .error e) : ∃ a ∈ l, p a = .error e := by
  induction l with
  | nil => cases h
  | cons a rest ih =>
    rcases Except.bind_eq_error.mp h with ha | ⟨b, -, hrest⟩
    · exact ⟨a, List.mem_cons_self, ha⟩
    · cases b with
      | false => cases hrest
      | true =>
        obtain ⟨a', ha', hfails⟩ := ih hrest
        exact ⟨a', List.mem_cons_of_mem a ha', hfails⟩
theorem isSome_bind_of {o : Option α} {f : α → Option β} (ho : o.isSome)
    (hf : ∀ a, o = some a → (f a).isSome) : (o >>= f).isSome := by
  obtain ⟨a, rfl⟩ := Option.isSome_iff_exists.mp ho
  exact hf a rfl

theorem isSome_mapM {f : α → Option β} {l : List α} :
    (l.mapM f).isSome ↔ ∀ a ∈ l, (f a).isSome := by
  induction l with
  | nil => simp
  | cons a rest ih =>
    cases ha : f a with
    | none => simp [ha]
    | some b =>
      have hrest : ((a :: rest).mapM f).isSome = (rest.mapM f).isSome := by
        cases h : rest.mapM f <;> simp [ha, h]
      rw [hrest, ih]
      simp [ha]

/-- A traversal that gives something gives what it gives item by item. -/
theorem map_of_mapM {f : α → Option β} {g : α → β} {l : List α} {l' : List β}
    (hf : ∀ a b, f a = some b → b = g a) (h : l.mapM f = some l') : l' = l.map g := by
  induction l generalizing l' with
  | nil =>
    cases h
    rfl
  | cons a rest ih =>
    simp only [List.mapM_cons, Option.bind_eq_bind, Option.bind_eq_some_iff] at h
    obtain ⟨b, hb, rest', hrest, h⟩ := h
    cases h
    rw [List.map_cons, hf a b hb, ih hrest]

end Overloads
