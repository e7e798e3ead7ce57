import Overloads.Hook.Recording
import Overloads.Proofs.Member.Testability
import Overloads.Proofs.Routine.FirstTaker
import Overloads.Proofs.Source.Meaning

/-! The code for a routine does what the routine does, clause by clause. -/
namespace Overloads.Source

variable {M : Type → Type} [Monad M] [MonadExcept Failure M] [LawfulMonad M]
variable {w : World} {names : Names M} {hook : Option (Hook M)} {path : Option String}
variable {members : List Member} {args : List Value} {c : Clause} {t : TypeRef}
variable {around : Surroundings M} {own : Shadows M}

/-- That nothing happens behind an error. -/
class LawfulThrow (M : Type → Type) [Monad M] [MonadExcept Failure M] : Prop where
  throw_bind {α β : Type} (e : Failure) (f : α → M β) : (throw e >>= f) = throw e

instance : LawfulThrow (Except Failure) where
  throw_bind _ _ := rfl

instance : LawfulThrow Recording where
  throw_bind _ _ := rfl

/-- That paths stand for what they were written for: the hook, and types and targets of members. -/
structure Names.Denotes (names : Names M) (hook : Option (Hook M)) (path : Option String)
    (members : List Member) : Prop where
  hooks : hook.map (·.path) = path.map .ok
  hook : ∀ h p, hook = some h → path = some p → names.hook? p = some h.apply
  types : ∀ m ∈ members, ∀ t ∈ m.testedTypes, names.type? t.boxed.text = some t.boxed
  targets : ∀ m ∈ members, names.target? m.path = some m.target

omit [LawfulMonad M] in
@[simp] theorem known_some {α : Type} (name : String) (a : α) :
    known (M := M) name (some a) = pure a := rfl

omit [LawfulMonad M] in
theorem convert_eq (hown : ∀ b, own b = none) (k : Cast) (v : Value) :
    Builtin.convert w own k v = MonadExcept.ofExcept (w.cast k v) := by
  rw [Builtin.convert, hown]

omit [LawfulMonad M] in
theorem count_eq (hown : ∀ b, own b = none) : Builtin.count own args = pure args.length := by
  rw [Builtin.count, hown]

theorem eval_coercedBy (hd : names.Denotes hook path members)
    (ht : names.type? t.boxed.text = some t.boxed) (item : Option Value) (e : Expr) :
    (coercedBy path e t).eval w names own args item = (do
      let v ← e.eval w names own args item
      coerced hook v t) := by
  have hhooks := hd.hooks
  cases path with
  | none =>
    obtain rfl : hook = none := by simpa using hhooks
    simp [coercedBy, coerced]
  | some p =>
    cases hook with
    | none => simp at hhooks
    | some h =>
      have hh := hd.hook h p rfl rfl
      simp [coercedBy, coerced, Expr.eval, hh, ht]

/-- A test asks what a guard asks. -/
theorem isInstance_coercedBy (hd : names.Denotes hook path members)
    (ht : names.type? t.boxed.text = some t.boxed) (item : Option Value) (e : Expr) :
    (coercedBy path e t).isInstance w names own args item t.boxed.text = (do
      let v ← e.eval w names own args item
      admits w hook v t) := by
  have hboxed : ∀ v, w.isInstance v (.reference t.boxed) = w.isInstance v t := fun _ => rfl
  simp [Expr.isInstance, eval_coercedBy hd ht, ht, admits, hboxed]

/-- What is passed is what a clause binds. -/
theorem eval_castFor (hown : ∀ b, own b = none) (hd : names.Denotes hook path members)
    (ht : names.type? t.boxed.text = some t.boxed) (e : Expr) :
    (castFor t (coercedBy path e t)).eval w names own args none = (do
      let v ← e.eval w names own args none
      Overloads.bound w hook v t) := by
  cases hcast : t.cast? with
  | none => simp [castFor, hcast, eval_coercedBy hd ht, Overloads.bound]
  | some k =>
    simp [castFor, hcast, Expr.eval, eval_coercedBy hd ht, Overloads.bound, convert_eq hown]

omit [MonadExcept Failure M] in
theorem allHold_append {α : Type} (ask : α → M Bool) (xs ys : List α) :
    allHold ask (xs ++ ys) = (do if ← allHold ask xs then allHold ask ys else pure false) := by
  induction xs with
  | nil => simp [allHold]
  | cons x rest ih =>
    simp only [List.cons_append, allHold, bind_assoc]
    congr 1
    funext b
    cases b <;> simp [ih]

omit [MonadExcept Failure M] [LawfulMonad M] in
theorem allHold_map {α β : Type} (ask : β → M Bool) (f : α → β) (l : List α) :
    allHold ask (l.map f) = allHold (fun a => ask (f a)) l := by
  induction l with
  | nil => rfl
  | cons a rest ih => simp only [List.map_cons, allHold, ih]

omit [LawfulMonad M] in
theorem admitsAll_eq_allHold (l : List (Value × TypeRef)) :
    admitsAll w hook l = allHold (fun x => admits w hook x.1 x.2) l := by
  induction l with
  | nil => rfl
  | cons x rest ih =>
    simp only [admitsAll, allHold, ih]

omit [LawfulMonad M] in
theorem eval_argument {k : Nat} (hk : k < args.length) (item : Option Value) :
    (Expr.argument k).eval w names own args item = pure (args[k]) := by
  simp [Expr.eval, hk]

/-- The tests from place `k` on ask about the arguments from there on. -/
theorem allHold_arguments (hd : names.Denotes hook path members) {ts : List TypeRef}
    (hts : ∀ t ∈ ts, names.type? t.boxed.text = some t.boxed) {k : Nat}
    (hk : k + ts.length ≤ args.length) :
    allHold (·.eval w names around own args) (ts.mapIdx fun i t =>
        Test.isInstance (coercedBy path (.argument (i + k)) t) t.boxed.text) =
      admitsAll w hook ((args.drop k).zip ts) := by
  induction ts generalizing k with
  | nil => simp [allHold, admitsAll]
  | cons t rest ih =>
    simp only [List.length_cons] at hk
    have hlt : k < args.length := by omega
    have hnext := ih (fun t ht => hts t (List.mem_cons_of_mem _ ht)) (k := k + 1) (by omega)
    have hplace : ∀ i, i + 1 + k = i + (k + 1) := by omega
    rw [List.drop_eq_getElem_cons hlt, List.zip_cons_cons, List.mapIdx_cons]
    simp only [allHold, admitsAll, hplace, hnext, Test.eval_isInstance, Nat.zero_add,
      isInstance_coercedBy hd (hts t List.mem_cons_self), eval_argument hlt, pure_bind]

/-- What is passed from place `k` on is bound to the arguments from there on. -/
theorem mapM_arguments (hown : ∀ b, own b = none) (hd : names.Denotes hook path members) {ts : List TypeRef}
    (hts : ∀ t ∈ ts, names.type? t.boxed.text = some t.boxed) {k : Nat}
    (hk : k + ts.length ≤ args.length) :
    (ts.mapIdx fun i t => Passed.one (castFor t (coercedBy path (.argument (i + k)) t))).mapM
        (·.eval w names own args) =
      (do
        let vs ← ((args.drop k).zip ts).mapM fun (v, t) => Overloads.bound w hook v t
        return vs.map ([·])) := by
  induction ts generalizing k with
  | nil => simp
  | cons t rest ih =>
    simp only [List.length_cons] at hk
    have hlt : k < args.length := by omega
    have hnext := ih (fun t ht => hts t (List.mem_cons_of_mem _ ht)) (k := k + 1) (by omega)
    have hplace : ∀ i, i + 1 + k = i + (k + 1) := by omega
    rw [List.drop_eq_getElem_cons hlt, List.zip_cons_cons, List.mapIdx_cons, List.mapM_cons,
      List.mapM_cons]
    simp only [hplace, hnext, Passed.eval_one, Nat.zero_add,
      eval_castFor hown hd (hts t List.mem_cons_self), eval_argument hlt, pure_bind, bind_assoc]
    simp

theorem zip_take {α β : Type} (l : List α) {ts : List β} {n : Nat} (h : ts.length ≤ n) :
    (l.take n).zip ts = l.zip ts := by
  induction l generalizing ts n with
  | nil => simp
  | cons a rest ih =>
    cases ts with
    | nil => simp
    | cons t ts =>
      obtain ⟨n, rfl⟩ : ∃ k, n = k + 1 := ⟨n - 1, by simp at h; omega⟩
      simp only [List.length_cons, Nat.add_le_add_iff_right] at h
      simp [ih h]

/-- That a clause of some members has an argument for each of its types among `count` arguments. -/
structure Fits (members : List Member) (count : Nat) (c : Clause) : Prop where
  member : c.member ∈ members
  guard : c.guardTypes.length = c.arity
  reached : c.arity ≤ count
  passed : c.member.parameterCount ≤ count
  open_of_tail : c.tail = true → c.member.isVariadic = true

omit [MonadExcept Failure M] [LawfulMonad M] in
/-- Where nothing is called in the place of `all`, the tests are asked one by one. -/
theorem conjunction_eq (hown : ∀ b, own b = none) {α : Type} (ask : α → M Bool) (l : List α) :
    Builtin.conjunction around own (l.map ask) = allHold ask l := by
  rw [Builtin.conjunction, hown]
  exact allHold_map id ask l

theorem eval_guardTests (hown : ∀ b, own b = none) (hd : names.Denotes hook path members)
    (hc : Fits members args.length c) (hguarded : c.guarded = true) :
    allHold (·.eval w names around own args) (guardTests path c) = c.accepts w hook args := by
  have htypes : ∀ t ∈ c.guardTypes, names.type? t.boxed.text = some t.boxed :=
    fun t ht => hd.types _ hc.member t (Member.mem_testedTypes ht)
  have hreached : 0 + c.guardTypes.length ≤ args.length := by
    rw [Nat.zero_add, hc.guard]
    exact hc.reached
  have hleading :=
    @allHold_arguments _ _ _ _ w names hook path members args around own hd _ htypes 0 hreached
  have hzip : (args.take c.arity).zip c.guardTypes = args.zip c.guardTypes :=
    zip_take args (Nat.le_of_eq hc.guard)
  simp only [Nat.add_zero, List.drop_zero] at hleading
  cases htail : c.tail with
  | false =>
    simp only [guardTests, htail, Bool.false_eq_true, if_false, hleading, Clause.accepts, hguarded,
      Bool.not_true, hzip]
    exact (ite_bind_self _).symm
  | true =>
    obtain ⟨element, helement⟩ := Option.isSome_iff_exists.mp (hc.open_of_tail htail)
    have hknown : names.type? element.boxed.text = some element.boxed :=
      hd.types _ hc.member element (by simp [Member.testedTypes, helement])
    have hfurther : (fun v => (coercedBy path .item element).isInstance w names own args (some v)
        element.boxed.text) = fun v => admits w hook v element := by
      funext v
      simp [isInstance_coercedBy hd hknown, Expr.eval]
    simp only [guardTests, htail, if_true, helement, Option.getD_some, allHold_append, hleading,
      Clause.accepts, hguarded, Bool.not_true, Bool.false_eq_true, if_false, hzip, allHold,
      Test.eval_allInstances, conjunction_eq hown, hfurther, Clause.elementType, admitsAll_eq_allHold,
      allHold_map, ite_bind_self]

/-- What a call leaves to be done. -/
def reached (call : Call) : Target × List Value := (call.member.target, call.args)

theorem eval_invocation (hown : ∀ b, own b = none) (hd : names.Denotes hook path members)
    (hc : Fits members args.length c) :
    (invocation path c).eval w names own args = (do return reached (← c.call w hook args)) := by
  have htarget := hd.targets _ hc.member
  have htypes : ∀ t ∈ c.member.declared, names.type? t.boxed.text = some t.boxed :=
    fun t ht => hd.types _ hc.member t (List.mem_append_left _ ht)
  have hcount : 0 + c.member.declared.length ≤ args.length := by
    rw [Nat.zero_add]
    exact hc.passed
  have hleading := mapM_arguments (w := w) hown hd htypes hcount
  have hzip : (args.take c.member.parameterCount).zip c.member.declared =
      args.zip c.member.declared :=
    zip_take args (Nat.le_refl _)
  have hflatten : ∀ vs : List Value, (vs.map fun v => [v]).flatten = vs :=
    fun vs => List.flatMap_singleton' vs
  simp only [Nat.add_zero, List.drop_zero] at hleading
  cases hvarargs : c.member.varargs with
  | none =>
    simp [Invocation.eval, invocation, Clause.call, reached, htarget, hvarargs, hleading, hzip,
      hflatten]
  | some element =>
    have hknown : names.type? element.boxed.text = some element.boxed :=
      hd.types _ hc.member element (by simp [Member.testedTypes, hvarargs])
    cases path with
    | none =>
      obtain rfl : hook = none := by simpa using hd.hooks
      have hrest : ∀ vs : List Value,
          vs.mapM (fun v => coerced (m := M) none v element) = pure vs := by
        intro vs
        have hmap := List.mapM_pure (m := M) (l := vs) (f := fun v => v)
        rwa [List.map_id'] at hmap
      simp [Invocation.eval, invocation, Clause.call, reached, htarget, hvarargs, hleading, hzip,
        hflatten, hrest]
    | some p =>
      have hitem : (fun v => (coercedBy (some p) .item element).eval w names own args (some v)) =
          fun v => coerced hook v element := by
        funext v
        simp [eval_coercedBy hd hknown, Expr.eval]
      simp [Invocation.eval, invocation, Clause.call, reached, htarget, hvarargs, hleading, hzip,
        hflatten, hitem]

variable [LawfulThrow M]

theorem runBranches_eq (hown : ∀ b, own b = none) (hd : names.Denotes hook path members)
    (s : ClauseSet) {cs : List Clause} (hcs : ∀ c ∈ cs, Fits members args.length c) :
    runBranches w names around own args
        ((ending path { s with clauses := cs }).eval w names own args)
        ((cs.takeWhile (·.guarded)).map fun c => (guardTests path c, invocation path c)) =
      (do return reached (← ClauseSet.dispatch.first w hook s args cs)) := by
  induction cs with
  | nil => exact (LawfulThrow.throw_bind _ _).symm
  | cons c rest ih =>
    have hc := hcs c List.mem_cons_self
    cases hguarded : c.guarded with
    | false =>
      simp [runBranches, ending, hguarded, Ending.eval, eval_invocation hown hd hc,
        ClauseSet.dispatch.first, Clause.accepts]
    | true =>
      have hrest := ih fun k hk => hcs k (List.mem_cons_of_mem c hk)
      have hending : ending path { s with clauses := c :: rest } =
          ending path { s with clauses := rest } := by
        simp [ending, hguarded]
      rw [hending, List.takeWhile_cons_of_pos hguarded, List.map_cons]
      simp only [runBranches, hrest, eval_guardTests hown hd hc hguarded, eval_invocation hown hd hc,
        ClauseSet.dispatch.first, bind_assoc]
      congr 1
      funext b
      cases b <;> simp

/-- The code for a clause set does what the set does. -/
theorem run_block (hown : ∀ b, own b = none) (hd : names.Denotes hook path members)
    {s : ClauseSet} (hs : ∀ c ∈ s.clauses, Fits members args.length c) :
    (block path s).run w names around own args = (do return reached (← s.dispatch w hook args)) :=
  runBranches_eq hown hd s hs

variable {memberName name id : String} {n : Nat}

/-- The first set that accepts a number of arguments is the one that is looked up. -/
theorem find?_accepts_laidOut : (Routine.laidOut memberName members name id).clauseSets.find?
      (·.accepts n) = (Routine.laidOut memberName members name id).clauseSetFor? n := by
  have hfixed : (fixedSetsFrom members 0).find? (·.accepts n) =
      (fixedSetsFrom members 0).find? fun s => !s.tail && s.arity = n := by
    have hsame : (fun s : ClauseSet => s.accepts n) ∘ fixedSet members =
        (fun s : ClauseSet => !s.tail && decide (s.arity = n)) ∘ fixedSet members := by
      funext k
      exact decide_eq_decide.mpr eq_comm
    rw [fixedSetsFrom, List.find?_map, List.find?_map, hsame]
  have hnone : (tailSets members).find? (fun s => !s.tail && s.arity = n) = none := by
    rw [tailSets]
    split <;> simp [ClauseSet.ofMembers]
  have htail : (tailSets members).find? (·.accepts n) =
      (Routine.laidOut memberName members name id).tail?.filter (·.accepts n) := by
    rw [Routine.tail?_laidOut, tailSets]
    split
    · rfl
    · simp [List.find?_singleton, Option.filter]
  rw [Routine.clauseSetFor?, ← htail, Routine.laidOut, List.find?_append, List.find?_append, hnone,
    hfixed, Option.or_none]
  cases (fixedSetsFrom members 0).find? fun s => !s.tail && s.arity = n <;> rfl

theorem fits_laidOut {s : ClauseSet}
    (h : (Routine.laidOut memberName members name id).clauseSetFor? n = some s) :
    ∀ c ∈ s.clauses, Fits members n c := by
  rw [Routine.clauseSetFor?_laidOut] at h
  split at h
  · intro c hc
    rcases Nat.lt_or_ge (widest members) n with hlt | hle
    · rw [if_neg (by omega), candidates_of_widest_lt hlt] at h
      cases h
      obtain ⟨m, hm, rfl⟩ := List.mem_map.mp hc
      obtain ⟨hmember, hv, hcount⟩ := mem_openTo.mp hm
      exact {
        member := hmember
        guard := length_parameterTypes (List.mem_append_right _ hm)
        reached := Nat.le_of_lt hlt
        passed := by
          have hpassed : m.parameterCount ≤ n := by omega
          exact hpassed
        open_of_tail := fun _ => hv }
    · rw [if_pos hle] at h
      cases h
      obtain ⟨m, hm, rfl⟩ := List.mem_map.mp hc
      obtain ⟨hmember, hcount⟩ := mem_candidates.mp hm
      exact {
        member := hmember
        guard := length_parameterTypes hm
        reached := Nat.le_refl _
        passed := by
          have hpassed : m.parameterCount ≤ n := by omega
          exact hpassed
        open_of_tail := by
          intro htail
          cases htail }
  · cases h

omit [LawfulThrow M] in
/-- Where the arguments are counted, the first block for their number ends the call. -/
theorem runBlocks_eq (hown : ∀ b, own b = none) (d : Definition) (blocks : List Block) :
    d.runBlocks w names around own args blocks =
      match blocks.find? (·.takes args.length) with
      | some b => b.run w names around own args
      | none => throw (.noOverload d.owner d.memberName (args.map w.typeName)
          (Failure.wrongNumber args.length)) := by
  induction blocks with
  | nil => simp [Definition.runBlocks, count_eq hown]
  | cons b rest ih =>
    rw [Definition.runBlocks, count_eq hown, pure_bind, ih, List.find?_cons]
    cases b.takes args.length <;> rfl

/-- The code for an assembled routine does what the routine does, if it hides no builtin function. -/
theorem run_definition (hid : ∀ b : Builtin, b.name ≠ id) (hd : names.Denotes hook path members)
    (documented : Option (Option Int)) (room : Nat) :
    (definition path documented (Routine.laidOut memberName members name id)).run w names around
        (room + 1) args =
      (do
        let call ← (Routine.laidOut memberName members name id).dispatch w hook args
        return reached call) := by
  have hown (self : List Value → M Value) (b : Builtin) :
      shadowedBy (definition path documented (Routine.laidOut memberName members name id)).name self
        b = none := if_neg (hid b)
  have hfind :
      (definition path documented (Routine.laidOut memberName members name id)).blocks.find?
        (·.takes args.length) =
      ((Routine.laidOut memberName members name id).clauseSetFor? args.length).map
        (block path) := by
    rw [← find?_accepts_laidOut]
    exact List.find?_map
  rw [Definition.run, runBlocks_eq (hown _), hfind, Routine.dispatch]
  cases hset : (Routine.laidOut memberName members name id).clauseSetFor? args.length with
  | none => exact (LawfulThrow.throw_bind _ _).symm
  | some s => exact run_block (hown _) hd (fits_laidOut hset)

omit [LawfulMonad M] in
/-- A function named `len` calls itself without end, whatever it was written for. -/
theorem run_of_len {d : Definition} (hlen : d.name = "len") (room : Nat) (args : List Value) :
    d.run w names around room args = throw .tooDeep := by
  induction room generalizing args with
  | zero => rfl
  | succ room ih =>
    have hself (vs : List Value) : around.follow (d.run w names around room) vs = throw .tooDeep := by
      rw [Surroundings.follow, ih, LawfulThrow.throw_bind]
    have hcount : Builtin.count (shadowedBy d.name (around.follow (d.run w names around room)))
        args = throw .tooDeep := by
      have hname : Builtin.len.name = d.name := hlen.symm
      rw [Builtin.count, shadowedBy, if_pos hname]
      simp only [hself, LawfulThrow.throw_bind]
    rw [Definition.run]
    cases d.blocks with
    | nil => rw [Definition.runBlocks, hcount, LawfulThrow.throw_bind]
    | cons b rest => rw [Definition.runBlocks, hcount, LawfulThrow.throw_bind]

end Overloads.Source
