import Overloads.Proofs.Pattern.Readers

/-!
A text is read within a longer one as it is read by itself. The induction is on the fuel of the three readers
that call each other; each of them is followed step by step.
-/
namespace Overloads.Pattern

open Reader

variable {e : Frame} {k : Outlook} {lossy : Bool} {c d : Cursor} {α β γ δ : Type}
variable {φ : α → β} {a : Reader α} {b : Reader β}

/-- Flags for the whole expression are none that can be kept. -/
theorem followsAt_of_flags (hflags : c.flags ≠ []) (b' : Reader β)
    (h : FollowsAt e (e.kept true) φ a b' c) : FollowsAt e (e.kept lossy) φ a b c := by
  intro hfits v d hok
  obtain ⟨hfits', hgrows, -⟩ := h hfits v d hok
  refine ⟨hfits', hgrows, fun hk => (hflags ?_).elim⟩
  exact (Frame.Keeps.of_grows hk hgrows).flags

theorem kept_names : ∀ d, (e.kept lossy).holds d → e.Keeps false d :=
  fun _ h => Frame.Keeps.strict h

/-- The contexts of a sequence and of the same sequence in the longer text. -/
structure SameContext (x y : Context) (c : Cursor) : Prop where
  verbose : y.verbose = x.verbose
  top : y.top = false
  flags : x.top → x.verbose → c.flags ≠ []

theorem SameContext.of_grows {x y : Context} (h : SameContext x y c) (hgrows : c.Grows d) :
    SameContext x y d where
  verbose := h.verbose
  top := h.top
  flags := by
    intro htop hverbose hnil
    exact h.flags htop hverbose (List.prefix_nil.mp (hnil ▸ hgrows.flags))

theorem Escaped.node_shift (x : Escaped) : (x.shift e.shift).node = x.node.shift e.shift := by
  cases x <;> rfl

/-- Parentheses may be nested too deeply in the longer text only. -/
theorem followsAt_room {p q : Prop} [Decidable p] [Decidable q] {fault : Fault} {deep : Reader α}
    {deep' : Reader β} (hdeep : deep.run c = .error fault)
    (hdeep' : deep'.run (e.embed c) = .error .tooDeep) (h : FollowsAt e k φ a b c) :
    FollowsAt e k φ (if p then deep else a) (if q then deep' else b) c := by
  split
  · exact followsAt_of_error hdeep
  · intro hfits v d hok
    obtain ⟨hfits', hgrows, hfollows⟩ := h hfits v d hok
    refine ⟨hfits', hgrows, fun hk => ?_⟩
    split
    · exact .inl hdeep'
    · exact hfollows hk

/-- What all readers of expressions do within a fuel. -/
structure FollowsWithin (e : Frame) (fuel : Nat) : Prop where
  alternatives : ∀ {lossy : Bool} {x y : Context} {read : List (List Node)} {fuel' : Nat} {c : Cursor},
    fuel ≤ fuel' → SameContext x y c → (x.verbose → lossy) →
      FollowsAt e (e.kept lossy) (shiftAll e.shift) (alternatives x read fuel)
        (alternatives y (read.map (shiftAll e.shift)) fuel') c
  sequence : ∀ {lossy : Bool} {x y : Context} {read : List Node} {fuel' : Nat} {c : Cursor},
    fuel ≤ fuel' → SameContext x y c → (x.verbose → lossy) →
      FollowsAt e (e.kept lossy) (shiftAll e.shift) (sequence x read fuel)
        (sequence y (shiftAll e.shift read) fuel') c
  parenthesized : ∀ {lossy : Bool} {x y : Context} {opened opened' : Nat} {o : Opening} {fuel' : Nat}
      {c : Cursor}, fuel ≤ fuel' → y.verbose = x.verbose →
      FollowsAt e (e.kept lossy) (Node.shift e.shift) (parenthesized x opened o fuel)
        (parenthesized y opened' (o.shift e.shift) fuel') c

theorem followsWithin_zero : FollowsWithin e 0 where
  alternatives _ _ _ := followsAt_fail
  sequence _ _ _ := followsAt_fail
  parenthesized _ _ := followsAt_fail

variable {fuel fuel' : Nat} {x y : Context}

/-- The flags for the whole expression decide about its other alternatives. -/
theorem followsAt_isVerbose_bind {f : Bool → Reader α}
    (h : FollowsAt e k φ (f (c.flags.contains .verbose)) b c) :
    FollowsAt e k φ (isVerbose >>= f) b c := h

theorem followsAt_alternatives_succ (he : e.Sound) (ih : FollowsWithin e fuel)
    {read : List (List Node)} (hfuel : fuel + 1 ≤ fuel') (hxy : SameContext x y c)
    (hlossy : x.verbose → lossy) :
    FollowsAt e (e.kept lossy) (shiftAll e.shift) (alternatives x read (fuel + 1))
      (alternatives y (read.map (shiftAll e.shift)) fuel') c := by
  obtain ⟨fuel', rfl⟩ : ∃ n, fuel' = n + 1 := ⟨fuel' - 1, by omega⟩
  have hle : fuel ≤ fuel' := by omega
  refine followsAt_bind_of_grows (ih.sequence hle ⟨hxy.verbose, hxy.top, hxy.flags⟩ hlossy)
    fun nodes d _ hgrows => ?_
  refine followsAt_bind_of_grows (follows_accept he (by decide) d) fun more d' _ hgrows' => ?_
  have hxy' := hxy.of_grows (hgrows.trans hgrows')
  have hread : read.map (shiftAll e.shift) ++ [shiftAll e.shift nodes] =
      (read ++ [nodes]).map (shiftAll e.shift) := by simp
  rw [hread]
  refine followsAt_ite (fun _ => ?_) fun _ => followsAt_pure Node.choice_shift
  dsimp only
  have hinner : ¬ y.top = true := by simp [hxy.top]
  rw [if_neg hinner]
  -- Of a whole text the flags decide how its other alternatives are read; the longer text keeps its way.
  by_cases htop : x.top
  · rw [if_pos htop]
    refine followsAt_isVerbose_bind ?_
    by_cases hflags : d'.flags = []
    · have hverbose : x.verbose = false :=
        Bool.eq_false_iff.mpr fun hverbose => hxy'.flags htop hverbose hflags
      refine ih.alternatives hle ⟨?_, hxy.top, ?_⟩ ?_
      · simp [hflags, hxy.verbose, hverbose]
      · simp [hflags]
      · simp [hflags]
    · refine followsAt_of_flags hflags (alternatives
        { x with verbose := d'.flags.contains .verbose, top := false }
        ((read ++ [nodes]).map (shiftAll e.shift)) fuel) ?_
      exact ih.alternatives (Nat.le_refl _) ⟨rfl, rfl, fun _ _ => hflags⟩ fun _ => rfl
  · rw [if_neg htop]
    exact ih.alternatives hle ⟨hxy.verbose, hxy.top, fun h => (htop h).elim⟩ hlossy

/-- No escape that comes next is a number. -/
theorem between_of_firstToken {text : List Char} {ch : Char}
    (h : firstToken text = some (.escape ch)) (hnone : hasNumberedEscape text = false) :
    ('1' ≤ ch && ch ≤ '9') = false := by
  unfold firstToken at h
  split at h
  · cases h
  · cases h
    rw [hasNumberedEscape, Bool.or_eq_false_iff] at hnone
    exact hnone.1
  · cases h

/-- A sequence goes on behind an expression that is like the one in the longer text. -/
theorem followsAt_more (ih : FollowsWithin e fuel) (hle : fuel ≤ fuel') (hxy : SameContext x y c)
    (hlossy : x.verbose → lossy) {read : List Node} (n : Node) :
    FollowsAt e (e.kept lossy) (shiftAll e.shift) (sequence x (read ++ [n]) fuel)
      (sequence y (shiftAll e.shift read ++ [n.shift e.shift]) fuel') c := by
  have hread : shiftAll e.shift read ++ [n.shift e.shift] = shiftAll e.shift (read ++ [n]) := by
    rw [shiftAll_append, shiftAll, shiftAll]
  rw [hread]
  exact ih.sequence hle hxy hlossy

/-- A sequence from behind an opening parenthesis on. -/
def sequenceFrom (x : Context) (opened : Nat) (read : List Node) (o : Opening) (fuel : Nat) :
    Reader (List Node) := do
  match o with
  | .comment => sequence x read fuel
  | .global =>
    if !x.first || !read.isEmpty then
      failAt "global flags not at the start of the expression" opened
    sequence { x with verbose := ← isVerbose } read fuel
  | o => sequence x (read ++ [← parenthesized x opened o fuel]) fuel

theorem followsAt_sequenceFrom (ih : FollowsWithin e fuel) (hle : fuel ≤ fuel')
    (hxy : SameContext x y c) (hlossy : x.verbose → lossy) {opened opened' : Nat} {read : List Node}
    {o : Opening} (hglobal : o = .global → c.flags ≠ []) :
    FollowsAt e (e.kept lossy) (shiftAll e.shift) (sequenceFrom x opened read o fuel)
      (sequenceFrom y opened' (shiftAll e.shift read) (o.shift e.shift) fuel') c := by
  have hgroup (o : Opening) : FollowsAt e (e.kept lossy) (shiftAll e.shift)
      (do sequence x (read ++ [← parenthesized x opened o fuel]) fuel)
      (do sequence y (shiftAll e.shift read ++
        [← parenthesized y opened' (o.shift e.shift) fuel']) fuel') c :=
    followsAt_bind_of_grows (ih.parenthesized hle hxy.verbose) fun n _ _ hgrows =>
      followsAt_more ih hle (hxy.of_grows hgrows) hlossy n
  cases o with
  | comment => exact ih.sequence hle hxy hlossy
  | global =>
    -- Flags for the whole expression are none that can be kept, so that the longer text does not matter.
    have hflags := hglobal rfl
    refine followsAt_of_flags hflags (sequence
      { x with verbose := c.flags.contains .verbose, top := false } (shiftAll e.shift read) fuel) ?_
    unfold sequenceFrom
    dsimp only
    split
    · exact followsAt_of_error rfl
    · refine followsAt_isVerbose_bind ?_
      exact ih.sequence (Nat.le_refl _) ⟨rfl, rfl, fun _ _ => hflags⟩ fun _ => rfl
  | _ => exact hgroup _

theorem followsAt_sequence_succ (he : e.Sound) (ih : FollowsWithin e fuel)
    {read : List Node} (hfuel : fuel + 1 ≤ fuel') (hxy : SameContext x y c)
    (hlossy : x.verbose → lossy) :
    FollowsAt e (e.kept lossy) (shiftAll e.shift) (sequence x read (fuel + 1))
      (sequence y (shiftAll e.shift read) fuel') c := by
  obtain ⟨fuel', rfl⟩ : ∃ n, fuel' = n + 1 := ⟨fuel' - 1, by omega⟩
  have hle : fuel ≤ fuel' := by omega
  have hmore (n : Node) (d : Cursor) (hgrows : c.Grows d) :
      FollowsAt e (e.kept lossy) (shiftAll e.shift) (sequence x (read ++ [n]) fuel)
        (sequence y (shiftAll e.shift read ++ [n.shift e.shift]) fuel') d :=
    followsAt_more ih hle (hxy.of_grows hgrows) hlossy n
  refine followsAt_of_fits fun hfits => followsAt_peek_bind he (fun hrest o ho => ?_) fun t ht => ?_
  · have hended : (o = none || o = some (.plain '|') || o = some (.plain ')')) = true := by
      rcases ho with rfl | rfl <;> rfl
    rw [if_pos hended]
    exact followsAt_pure rfl
  refine followsAt_ite (fun _ => followsAt_pure rfl) fun _ => ?_
  refine followsAt_get_bind (followsAt_pass he ht ?_)
  have hpass := c.grows_pass t
  cases t with
  | escape ch =>
    have hch := hfits.numbers.imp_right (between_of_firstToken ht)
    refine followsAt_bind_of_grows (followsAt_escape he hch) fun v d _ hgrows => ?_
    rw [Escaped.node_shift]
    exact hmore _ d (hpass.trans hgrows)
  | plain ch =>
    dsimp only
    rw [hxy.verbose]
    refine followsAt_ite (fun _ => ih.sequence hle (hxy.of_grows hpass) hlossy) fun _ => ?_
    refine followsAt_ite (fun hcomment => ?_) fun _ => ?_
    · have hverbose : x.verbose := (Bool.and_eq_true_iff.mp hcomment).1
      have hleft (d : Cursor) (hd : (e.kept lossy).holds d) : d.rest ≠ [] := hd.rest (hlossy hverbose)
      refine followsAt_get_bind (followsAt_bind_of_grows
        (followsAt_skipLine he hleft (Nat.lt_succ_self _) ?_) fun _ d _ hgrows => ?_)
      · simp [Frame.embed]
      · exact ih.sequence hle (hxy.of_grows (hpass.trans hgrows)) hlossy
    split
    · exact followsAt_bind_of_grows (followsAt_readSet he) fun n d _ hgrows =>
        hmore n d (hpass.trans hgrows)
    · exact hmore _ _ hpass
    · exact hmore _ _ hpass
    · exact hmore _ _ hpass
    · exact followsAt_bind_of_grows (followsAt_opening he kept_names) fun o d hopen hgrows =>
        followsAt_sequenceFrom ih hle (hxy.of_grows (hpass.trans hgrows)) hlossy
          (yields_opening o d hopen)
    · refine followsAt_ite (fun _ => ?_) fun _ => hmore _ _ hpass
      refine followsAt_bind_of_grows (followsAt_bounds he _) fun limits d _ hgrows => ?_
      cases limits with
      | none => exact hmore _ _ (hpass.trans hgrows)
      | some limits =>
        obtain ⟨least, most⟩ := limits
        refine followsAt_bind_of_grows (followsAt_repeatLast he) fun read' d' _ hgrows' => ?_
        exact ih.sequence hle (hxy.of_grows ((hpass.trans hgrows).trans hgrows')) hlossy

/-- What is read in parentheses cannot end where the text does. -/
theorem followsAt_nested {ψ : γ → δ} {f : α → Reader γ} {g : β → Reader δ}
    (ha : FollowsAt e (e.kept true) φ a b c)
    (hend : ∀ v d, d.rest = [] → ∃ fault, (f v).run d = .error fault)
    (hf : ∀ v d, c.Grows d → FollowsAt e (e.kept lossy) ψ (f v) (g (φ v)) d) :
    FollowsAt e (e.kept lossy) ψ (a >>= f) (b >>= g) c :=
  followsAt_bind_of_end ha (fun _ hrest hd => { hd with rest := fun _ => hrest }) hend
    fun v d _ hgrows => hf v d hgrows

theorem run_close_bind_of_nil {opened : Nat} {f : PUnit → Reader α} (h : c.rest = []) :
    ∃ fault, (close opened >>= f).run c = .error fault := by
  obtain ⟨fault, hfault⟩ := run_close_of_nil opened h
  exact ⟨fault, by rw [StateT.run_bind, hfault]; rfl⟩

theorem run_accept_of_nil {ch : Char} (h : c.rest = []) : (accept ch).run c = .ok (false, c) := by
  rw [accept, run_peek_bind, h]
  rfl

/--
In a look-behind it is kept which groups are before it. Whatever was kept so before is kept again behind the
look-behind.
-/
theorem followsAt_within {ψ : γ → δ} {f : α → Reader γ} {g : β → Reader δ} {whole : Reader γ}
    {whole' : Reader δ} {outside : Option Nat}
    (hrun : whole.run c =
      (a >>= fun v => modify (fun s => { s with outside := c.outside }) >>= fun _ => f v).run
        { c with outside := outside })
    (hrun' : whole'.run (e.embed c) =
      (b >>= fun v =>
        modify (fun s => { s with outside := c.outside.map (moved e.shift) }) >>= fun _ => g v).run
        (e.embed { c with outside := outside }))
    (ha : FollowsAt e (e.kept true) φ a b { c with outside := outside })
    (hend : ∀ v d, d.rest = [] → ∃ fault, (f v).run d = .error fault)
    (hf : ∀ v d, FollowsAt e (e.kept lossy) ψ (f v) (g (φ v)) d) :
    FollowsAt e (e.kept lossy) ψ whole whole' c := by
  intro hfits v d hok
  rw [hrun] at hok
  obtain ⟨w, c', hw, hv⟩ := run_bind_eq_ok.mp hok
  change (f w).run { c' with outside := c.outside } = .ok (v, d) at hv
  obtain ⟨hfits', hgrows, hreaches⟩ := ha ⟨hfits.rest, hfits.groupCount, hfits.widths, hfits.numbers⟩ w c' hw
  have hbehind : c.Grows { c' with outside := c.outside } :=
    ⟨hgrows.rest, hgrows.flags, hgrows.names, hgrows.awaited, hgrows.groupCount, rfl⟩
  obtain ⟨hfits'', hgrows', hreaches'⟩ := hf w { c' with outside := c.outside }
    ⟨hfits'.rest, hfits'.groupCount, hfits'.widths, hfits'.numbers⟩ v d hv
  refine ⟨hfits'', hbehind.trans hgrows', fun hd => ?_⟩
  have hrest : c'.rest ≠ [] := by
    intro hnil
    obtain ⟨fault, hfault⟩ := hend w { c' with outside := c.outside } hnil
    rw [hfault] at hv
    cases hv
  have hkept : e.Keeps lossy c' :=
    let h := hd.of_grows hgrows'
    ⟨h.flags, h.awaited, h.names, h.rest⟩
  unfold Reaches
  rw [hrun']
  exact (hreaches { hkept with rest := fun _ => hrest }).bind (hreaches' hd)

/-- The end of a look-behind. -/
def endBehind (negated : Bool) (opened : Nat) (body : List Node) : Reader Node := do
  close opened
  return .behind negated (width (← get).widths body) body

theorem followsAt_endBehind (he : e.Sound) (negated : Bool) (opened opened' : Nat)
    (body : List Node) (c : Cursor) : FollowsAt e k (Node.shift e.shift) (endBehind negated opened body)
      (endBehind negated opened' (shiftAll e.shift body)) c := by
  refine followsAt_bind (followsAt_close he) fun _ d _ => followsAt_get_bind (followsAt_pure ?_)
  rw [width_shift (lookup_embed he)]
  rfl

/-- A look-behind, behind its opening. -/
def lookBehind (inner : Context) (negated : Bool) (opened fuel : Nat) : Reader Node := do
  let outside := (← get).outside
  if outside.isNone then modify fun s => { s with outside := some s.groupCount }
  let body ← alternatives inner [] fuel
  modify fun s => { s with outside := outside }
  endBehind negated opened body

theorem run_lookBehind {inner : Context} {negated : Bool} {opened fuel : Nat} :
    (lookBehind inner negated opened fuel).run c =
      (alternatives inner [] fuel >>= fun body =>
        modify (fun s => { s with outside := c.outside }) >>= fun _ => endBehind negated opened body).run
        { c with outside := c.outside.or (some c.groupCount) } := by
  obtain ⟨rest, position, flags, groupCount, names, widths, outside, awaited⟩ := c
  cases outside <;> rfl

theorem followsAt_lookBehind (he : e.Sound) (ih : FollowsWithin e fuel) (hle : fuel ≤ fuel')
    {verbose verbose' negated : Bool} {room room' opened opened' : Nat} (hverbose : verbose' = verbose) :
    FollowsAt e (e.kept lossy) (Node.shift e.shift)
      (lookBehind ⟨verbose, false, false, room⟩ negated opened fuel)
      (lookBehind ⟨verbose', false, false, room'⟩ negated opened' fuel') c := by
  have hinner (d : Cursor) : FollowsAt e (e.kept true) (shiftAll e.shift)
      (alternatives ⟨verbose, false, false, room⟩ [] fuel)
      (alternatives ⟨verbose', false, false, room'⟩ [] fuel') d :=
    ih.alternatives hle ⟨hverbose, rfl, nofun⟩ fun _ => rfl
  refine followsAt_within run_lookBehind ?_ (hinner _)
    (fun body d hrest => run_close_bind_of_nil hrest) (followsAt_endBehind he negated opened opened')
  rw [run_lookBehind]
  simp only [Frame.embed, Option.map_or, Option.map_some]

/-- The answer of an expression in parentheses that ends with alternatives. -/
theorem followsAt_body (he : e.Sound) (ih : FollowsWithin e fuel) (hle : fuel ≤ fuel')
    {verbose verbose' : Bool} {room room' opened opened' : Nat} (hverbose : verbose' = verbose)
    {ψ : γ → δ} {f : List Node → Reader γ} {g : List Node → Reader δ}
    (hf : ∀ body d, c.Grows d → FollowsAt e (e.kept lossy) ψ (f body) (g (shiftAll e.shift body)) d) :
    FollowsAt e (e.kept lossy) ψ
      (alternatives ⟨verbose, false, false, room⟩ [] fuel >>= fun body =>
        close opened >>= fun _ => f body)
      (alternatives ⟨verbose', false, false, room'⟩ [] fuel' >>= fun body =>
        close opened' >>= fun _ => g body) c := by
  refine followsAt_nested (ih.alternatives hle ⟨hverbose, rfl, nofun⟩ fun _ => rfl)
    (fun body d hrest => run_close_bind_of_nil hrest) fun body d hgrows => ?_
  exact followsAt_bind_of_grows (followsAt_close he) fun _ d' _ hgrows' =>
    hf body d' (hgrows.trans hgrows')

theorem followsAt_parenthesized_succ (he : e.Sound) (ih : FollowsWithin e fuel)
    {opened opened' : Nat} {o : Opening} (hfuel : fuel + 1 ≤ fuel') (hxy : y.verbose = x.verbose) :
    FollowsAt e (e.kept lossy) (Node.shift e.shift) (parenthesized x opened o (fuel + 1))
      (parenthesized y opened' (o.shift e.shift) fuel') c := by
  obtain ⟨fuel', rfl⟩ : ∃ n, fuel' = n + 1 := ⟨fuel' - 1, by omega⟩
  have hle : fuel ≤ fuel' := by omega
  refine followsAt_of_fits fun hfits => followsAt_room rfl rfl ?_
  cases o with
  | capture name =>
    refine followsAt_bind_of_grows (followsAt_openGroup kept_names name) fun n d hopen _ => ?_
    obtain ⟨rfl, hcount⟩ := groupCount_of_openGroup hopen
    refine followsAt_body he ih hle hxy fun body d' hgrows => ?_
    have hclosed : c.groupCount < d'.groupCount := by
      have hle' := hgrows.groupCount
      omega
    exact followsAt_bind (followsAt_closeGroup he hfits.groupCount hclosed) fun _ d'' _ =>
      followsAt_pure rfl
  | plain added removed =>
    dsimp only [Opening.shift]
    rw [hxy]
    exact followsAt_body he ih hle rfl fun body d _ => followsAt_pure rfl
  | atomic => exact followsAt_body he ih hle hxy fun body d _ => followsAt_pure rfl
  | ahead negated => exact followsAt_body he ih hle hxy fun body d _ => followsAt_pure rfl
  | behind negated => exact followsAt_lookBehind he ih hle hxy
  | condition group =>
    have hclose (yes no : List Node) (d : Cursor) : FollowsAt e (e.kept lossy) (Node.shift e.shift)
        (do close opened; return .conditional group yes no)
        (do close opened'
            return .conditional (moved e.shift group) (shiftAll e.shift yes) (shiftAll e.shift no)) d :=
      followsAt_bind (followsAt_close he) fun _ d _ => followsAt_pure rfl
    have hbranch (d : Cursor) : FollowsAt e (e.kept true) (shiftAll e.shift)
        (sequence ⟨x.verbose, false, false, x.room - groupRoom⟩ [] fuel)
        (sequence ⟨y.verbose, false, false, y.room - groupRoom⟩ [] fuel') d :=
      ih.sequence hle ⟨hxy, rfl, nofun⟩ fun _ => rfl
    refine followsAt_nested (hbranch c) (fun yes d hrest => ?_) fun yes d _ => ?_
    · rw [StateT.run_bind, run_accept_of_nil hrest]
      exact run_close_bind_of_nil (f := fun _ => pure (Node.conditional group yes [])) hrest
    refine followsAt_bind (follows_accept he (by decide) d) fun more d _ => ?_
    refine followsAt_ite (fun _ => ?_) fun _ => hclose yes [] d
    refine followsAt_nested (hbranch d) (fun no d hrest => ?_) fun no d _ => ?_
    · rw [run_peek_bind, hrest]
      exact run_close_bind_of_nil (f := fun _ => pure (Node.conditional group yes no)) hrest
    refine followsAt_peek_bind he (fun hrest o ho => ?_) fun t ht => ?_
    · have hended : o ≠ some (.plain '|') := by rcases ho with rfl | rfl <;> simp
      rw [if_neg (by simp), if_neg hended]
      exact hclose yes no d
    · exact followsAt_ite (fun _ => followsAt_of_error rfl) fun _ => hclose yes no d
  | expression n => exact followsAt_pure rfl
  | comment => exact followsAt_pure rfl
  | global => exact followsAt_pure rfl

theorem followsWithin (he : e.Sound) (fuel : Nat) : FollowsWithin e fuel := by
  induction fuel with
  | zero => exact followsWithin_zero
  | succ fuel ih =>
    exact ⟨followsAt_alternatives_succ he ih, followsAt_sequence_succ he ih,
      followsAt_parenthesized_succ he ih⟩

end Overloads.Pattern
