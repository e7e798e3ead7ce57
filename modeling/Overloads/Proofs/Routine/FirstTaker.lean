import Overloads.Routine.Dispatch
import Overloads.Proofs.Routine.Assembly

/-! Dispatch without clause sets: the first candidate that takes every argument answers the call. -/
namespace Overloads

variable {M : Type → Type} [Monad M] [MonadExcept Failure M]
variable (w : World) (hook : Option (Hook M))
variable {members : List Member} {m : Member} {args : List Value} {n : Nat} {t : TypeRef}

/-- What the target of a member gets: every argument coerced, those of declared parameters cast. -/
def Member.delivery (m : Member) (args : List Value) : M (List Value) :=
  (args.zip (m.parameterTypes args.length)).zipIdx.mapM fun ((v, t), i) =>
    if i < m.parameterCount then bound w hook v t else coerced hook v t

/-- A member that reports how it is called. -/
def Member.tracing (declared : List TypeRef) (varargs : Option TypeRef) : Member where
  name := "f"
  kind := .method
  declared := declared
  returns := .object
  owner := .object
  target := .scripted "f" .trace
  path := "object.f"
  varargs := varargs
  isStatic := true

/-- The call of the first member that takes every argument. -/
def firstTaking (args : List Value) (refusal : Failure) : List Member → M Call
  | [] => throw refusal
  | m :: rest => do
    if ← admitsAll w hook (args.zip (m.parameterTypes args.length)) then
      return ⟨m, ← m.delivery w hook args⟩
    else firstTaking args refusal rest

/-- The call that answers the arguments, found without clause sets. -/
def respond (memberName : String) (members : List Member) (args : List Value) : M Call :=
  let failure (owner memberName reason : String) : Failure :=
    .noOverload owner memberName (args.map w.typeName) reason
  match candidates members args.length with
  | [] =>
    throw (failure ((members.head?.map (·.owner.text)).getD "") memberName
      (Failure.wrongNumber args.length))
  | first :: rest =>
    firstTaking w hook args (failure first.owner.text first.name Failure.unrecognised)
      (first :: rest)

/-- Beyond the declared types a variadic member has the same type again and again. -/
theorem Member.parameterTypes_split {k : Nat} (ht : m.varargs = some t) (hk : m.parameterCount ≤ k)
    (hn : k ≤ n) : m.parameterTypes n = m.parameterTypes k ++ List.replicate (n - k) t := by
  have hcount : n - m.declared.length = (k - m.declared.length) + (n - k) := by
    simp only [parameterCount] at hk
    omega
  simp only [parameterTypes, ht, parameterCount] at hk ⊢
  rw [List.take_of_length_le hk, List.take_of_length_le (Nat.le_trans hk hn), hcount,
    ← List.replicate_append_replicate, List.append_assoc]

theorem Member.parameterTypes_eq_declared (ht : m.varargs = some t) (hn : m.parameterCount ≤ n) :
    m.parameterTypes n = m.declared ++ List.replicate (n - m.parameterCount) t := by
  rw [parameterTypes_split ht (Nat.le_refl _) hn]
  simp [parameterTypes, parameterCount, ht]

theorem length_parameterTypes (hm : m ∈ candidates members n) :
    (m.parameterTypes n).length = n := by
  obtain ⟨-, hcount⟩ := mem_candidates.mp hm
  cases hv : m.varargs with
  | none =>
    obtain rfl : m.parameterCount = n := by simpa [Member.isVariadic, hv] using hcount
    rw [Member.parameterTypes_length_of_fixed hv, Member.parameterCount]
  | some t =>
    have hle : m.parameterCount ≤ n := by omega
    rw [Member.parameterTypes_eq_declared hv hle]
    simp only [Member.parameterCount, List.length_append, List.length_replicate] at hle ⊢
    omega

theorem zip_replicate (args : List Value) (t : TypeRef) :
    args.zip (List.replicate args.length t) = args.map (·, t) := by
  induction args with
  | nil => rfl
  | cons v rest ih => simpa [List.replicate_succ] using ih

/-- The arguments beside their types, cut where the first `k` types end. -/
theorem zip_parameterTypes {k : Nat} (ht : m.varargs = some t) (hk : m.parameterCount ≤ k)
    (hargs : k ≤ args.length) : args.zip (m.parameterTypes args.length) =
      (args.take k).zip (m.parameterTypes k) ++ (args.drop k).map (·, t) := by
  have hlength : (args.take k).length = (m.parameterTypes k).length := by
    rw [List.length_take, Nat.min_eq_left hargs, Member.parameterTypes_eq_declared ht hk]
    simp only [Member.parameterCount, List.length_append, List.length_replicate] at hk ⊢
    omega
  have hrest : (args.drop k).length = args.length - k := List.length_drop
  calc args.zip (m.parameterTypes args.length)
      = (args.take k ++ args.drop k).zip
          (m.parameterTypes k ++ List.replicate (args.length - k) t) := by
        rw [List.take_append_drop, Member.parameterTypes_split ht hk hargs]
    _ = (args.take k).zip (m.parameterTypes k) ++
          (args.drop k).zip (List.replicate (args.drop k).length t) := by
        rw [List.zip_append hlength, hrest]
    _ = (args.take k).zip (m.parameterTypes k) ++ (args.drop k).map (·, t) := by
        rw [zip_replicate]

variable [LawfulMonad M]

omit [MonadExcept Failure M] in
theorem ite_bind_self (x : M Bool) : (do if ← x then pure true else pure false) = x := by
  have h : (fun b : Bool => if b = true then (pure true : M Bool) else pure false) = pure := by
    funext b
    cases b <;> rfl
  rw [h, bind_pure]

theorem admitsAll_append (xs ys : List (Value × TypeRef)) :
    admitsAll w hook (xs ++ ys) = (do
      if ← admitsAll w hook xs then admitsAll w hook ys else pure false) := by
  induction xs with
  | nil => simp [admitsAll]
  | cons x rest ih =>
    obtain ⟨v, t⟩ := x
    simp only [List.cons_append, admitsAll, bind_assoc]
    congr 1
    funext b
    cases b <;> simp [ih]

/-- The clause of a set for exactly `n` arguments tests all of them. -/
theorem accepts_ofMembers_fixed {k : Nat} (hargs : args.length = n) :
    Clause.accepts w hook ⟨m, n, false, false || !(n = 0 && k = 1)⟩ args =
      admitsAll w hook (args.zip (m.parameterTypes args.length)) := by
  subst hargs
  simp only [Clause.accepts, Clause.guardTypes, List.take_length, Bool.false_eq_true, if_false,
    Bool.false_or]
  split
  · -- Only without arguments a guard is left out, and then it tests nothing.
    rename_i h
    have hnone : args = [] := by simp at h; exact h.1
    simp [hnone, admitsAll]
  · exact ite_bind_self _

/-- The clause of a set that is open at its end tests what follows its arity too. -/
theorem accepts_ofMembers_tail {k : Nat} (ht : m.varargs = some t) (hk : m.parameterCount ≤ k)
    (hargs : k ≤ args.length) :
    Clause.accepts w hook ⟨m, k, true, true⟩ args =
      admitsAll w hook (args.zip (m.parameterTypes args.length)) := by
  rw [zip_parameterTypes ht hk hargs, admitsAll_append]
  simp [Clause.accepts, Clause.guardTypes, Clause.elementType, ht]

omit [MonadExcept Failure M] in
theorem mapM_congr {α β : Type} {f g : α → M β} {l : List α} (h : ∀ a ∈ l, f a = g a) :
    l.mapM f = l.mapM g := by
  induction l with
  | nil => rfl
  | cons a rest ih =>
    rw [List.mapM_cons, List.mapM_cons, h a List.mem_cons_self,
      ih fun b hb => h b (List.mem_cons_of_mem a hb)]

omit [MonadExcept Failure M] in
/-- Places do not matter where they all fall on one side. -/
theorem mapM_zipIdx {α β : Type} {f : α × Nat → M β} {g : α → M β} {l : List α} {k : Nat}
    (h : ∀ a i, k ≤ i → i < k + l.length → f (a, i) = g a) : (l.zipIdx k).mapM f = l.mapM g := by
  have hmap := List.mapM_map (m := M) (f := Prod.fst) (g := g) (l := l.zipIdx k)
  rw [List.zipIdx_map_fst] at hmap
  rw [hmap]
  apply mapM_congr
  rintro ⟨a, i⟩ hi
  obtain ⟨hk, hlt, -⟩ := List.mem_zipIdx hi
  exact h a i hk hlt

theorem delivery_of_fixed (hv : m.varargs = none) (hall : m.parameterCount = args.length) :
    m.delivery w hook args = (args.zip m.declared).mapM fun (v, t) => bound w hook v t := by
  rw [Member.delivery, ← hall, Member.parameterTypes_length_of_fixed hv]
  apply mapM_zipIdx
  intro x i _ hi
  have : i < m.parameterCount := by
    simp only [List.length_zip, Member.parameterCount] at hi ⊢
    omega
  simp [this]

theorem delivery_of_variadic (hv : m.varargs = some t) (hle : m.parameterCount ≤ args.length) :
    m.delivery w hook args = (do
      let leading ← ((args.take m.parameterCount).zip m.declared).mapM fun (v, t) =>
        bound w hook v t
      let further ← (args.drop m.parameterCount).mapM (coerced hook · t)
      return leading ++ further) := by
  have hdeclared : m.parameterTypes m.parameterCount = m.declared := by
    rw [Member.parameterTypes_eq_declared hv (Nat.le_refl _)]
    simp
  have hlength : ((args.take m.parameterCount).zip m.declared).length = m.parameterCount := by
    simp only [List.length_zip, List.length_take, Member.parameterCount] at hle ⊢
    omega
  have hleading : (((args.take m.parameterCount).zip m.declared).zipIdx 0).mapM
      (fun ((v, t), i) => if i < m.parameterCount then bound w hook v t else coerced hook v t) =
        ((args.take m.parameterCount).zip m.declared).mapM fun (v, t) => bound w hook v t := by
    apply mapM_zipIdx
    intro x i _ hi
    have : i < m.parameterCount := by omega
    simp [this]
  have hfurther : (((args.drop m.parameterCount).map (·, t)).zipIdx (0 + m.parameterCount)).mapM
      (fun ((v, t), i) => if i < m.parameterCount then bound w hook v t else coerced hook v t) =
        (args.drop m.parameterCount).mapM (coerced hook · t) := by
    rw [mapM_zipIdx (g := fun (v, t) => coerced hook v t), List.mapM_map]
    · rfl
    · intro x i hi _
      have : ¬ i < m.parameterCount := by omega
      simp [this]
  rw [Member.delivery, zip_parameterTypes hv (Nat.le_refl _) hle, hdeclared, List.zipIdx_append,
    List.mapM_append, hlength, hleading, hfurther]

/-- What a clause passes on is what its member gets without clauses. -/
theorem call_eq (hm : m ∈ candidates members args.length) {k : Nat} {tail guarded : Bool} :
    Clause.call w hook ⟨m, k, tail, guarded⟩ args =
      (do return ⟨m, ← m.delivery w hook args⟩) := by
  obtain ⟨-, hcount⟩ := mem_candidates.mp hm
  cases hv : m.varargs with
  | none =>
    have hall : m.parameterCount = args.length := by simpa [Member.isVariadic, hv] using hcount
    simp [Clause.call, delivery_of_fixed w hook hv hall, hv, hall]
  | some t =>
    have hle : m.parameterCount ≤ args.length := by omega
    simp [Clause.call, delivery_of_variadic w hook hv hle, hv]

omit [LawfulMonad M] in
/-- Clauses that test and call as their members do without clauses make the same choice. -/
theorem dispatch_first_eq (s : ClauseSet) {ms : List Member} {clause : Member → Clause}
    (haccepts : ∀ m ∈ ms, (clause m).accepts w hook args =
      admitsAll w hook (args.zip (m.parameterTypes args.length)))
    (hcall : ∀ m ∈ ms, (clause m).call w hook args = (do return ⟨m, ← m.delivery w hook args⟩)) :
    ClauseSet.dispatch.first w hook s args (ms.map clause) =
      firstTaking w hook args (s.refusal w args) ms := by
  induction ms with
  | nil => rfl
  | cons m rest ih =>
    have hrest := ih (fun k hk => haccepts k (List.mem_cons_of_mem m hk))
      fun k hk => hcall k (List.mem_cons_of_mem m hk)
    simp only [List.map_cons, ClauseSet.dispatch.first, firstTaking, hrest,
      haccepts m List.mem_cons_self, hcall m List.mem_cons_self]

omit [Monad M] [MonadExcept Failure M] [LawfulMonad M] in
theorem ClauseSet.refusal_ofMembers {k : Nat} {tail : Bool} (rest : List Member) :
    (ClauseSet.ofMembers k tail (m :: rest)).refusal w args =
      .noOverload m.owner.text m.name (args.map w.typeName) Failure.unrecognised := rfl

theorem dispatch_fixedSet (hargs : args.length = n) : (fixedSet members n).dispatch w hook args =
    firstTaking w hook args ((fixedSet members n).refusal w args) (candidates members n) := by
  subst hargs
  exact dispatch_first_eq w hook _ (fun m _ => accepts_ofMembers_fixed w hook rfl)
    fun m hm => call_eq w hook hm

theorem dispatch_tailSet (hargs : widest members < args.length) :
    (ClauseSet.ofMembers (widest members) true (candidates members args.length)).dispatch w hook
        args =
      firstTaking w hook args
        ((ClauseSet.ofMembers (widest members) true (candidates members args.length)).refusal w
          args)
        (candidates members args.length) := by
  apply dispatch_first_eq w hook
  · intro m hm
    rw [candidates_of_widest_lt hargs] at hm
    obtain ⟨-, hv, hcount⟩ := mem_openTo.mp hm
    obtain ⟨t, ht⟩ := Option.isSome_iff_exists.mp hv
    simpa using accepts_ofMembers_tail w hook ht hcount (Nat.le_of_lt hargs)
  · exact fun m hm => call_eq w hook hm

theorem dispatch_laidOut {memberName name id : String} :
    (Routine.laidOut memberName members name id).dispatch w hook args =
      respond w hook memberName members args := by
  rw [Routine.dispatch, Routine.clauseSetFor?_laidOut, isCovered, respond]
  cases hall : candidates members args.length with
  | nil => simp [Routine.refusal, Routine.laidOut]
  | cons first rest =>
    rcases Nat.lt_or_ge (widest members) args.length with hlt | hle
    · have hn : ¬ args.length ≤ widest members := by omega
      have htail := dispatch_tailSet w hook hlt
      rw [hall, ClauseSet.refusal_ofMembers] at htail
      simpa [hn] using htail
    · have hfixed : (fixedSet members args.length).dispatch w hook args = _ :=
        dispatch_fixedSet w hook rfl
      rw [fixedSet, hall, ClauseSet.refusal_ofMembers] at hfixed
      simpa [hle, fixedSet, hall] using hfixed

/--
Members always make a routine, and whatever the hook does on the way, the routine answers a call as
the first candidate that takes every argument does.
-/
theorem dispatch_eq_respond (hne : members ≠ []) (proofMode : Bool) (memberName name id : String) :
    ∃ r, Routine.assemble proofMode memberName members name id = .ok r ∧
      ∀ (hook : Option (Hook M)) (args : List Value),
        r.dispatch w hook args = respond w hook memberName members args :=
  ⟨_, Routine.assemble_eq hne proofMode memberName name id, fun hook _ => dispatch_laidOut w hook⟩

/-- Of a member for an `int` and one for any number of `long`s, only the second takes an integer. -/
theorem dispatch_of_plain_integer :
    ∃ r, Routine.assemble true "f" [.tracing [.primitive .int] none,
        .tracing [] (some (.primitive .long))] "f" "f" = .ok r ∧
      r.dispatch (m := Except Failure) .empty none [.int 1] =
        .ok ⟨.tracing [] (some (.primitive .long)), [.int 1]⟩ := by
  have hne :
      [Member.tracing [.primitive .int] none, .tracing [] (some (.primitive .long))] ≠ [] := by
    simp
  obtain ⟨r, hr, hcall⟩ := dispatch_eq_respond (M := Except Failure) .empty hne true "f" "f" "f"
  refine ⟨r, hr, ?_⟩
  have hcandidates : candidates [.tracing [.primitive .int] none,
      .tracing [] (some (.primitive .long))] 1 =
        [.tracing [.primitive .int] none, .tracing [] (some (.primitive .long))] := by
    simp [candidates, exactly, openTo, sortedBy, Member.tracing, Member.isVariadic,
      Member.parameterCount]
  rw [hcall, respond]
  simp only [List.length_cons, List.length_nil, hcandidates]
  rfl

end Overloads
