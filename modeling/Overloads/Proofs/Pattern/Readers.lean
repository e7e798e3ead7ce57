import Overloads.Proofs.Pattern.Embedding

/-! Escapes, sets, repetitions and the beginnings of groups are read alike within a longer text. -/
namespace Overloads.Pattern

open Reader

variable {e : Frame} {k : Outlook} {c d : Cursor}

/-! Escapes. -/

/-- What an escape stands for behind `k` groups. -/
def Reader.Escaped.shift (k : Nat) : Escaped → Escaped
  | .backreference number => .backreference (moved k number)
  | x => x

theorem followsAt_hexCode (he : e.Sound) (letter : Char) (count : Nat) :
    FollowsAt e k id (hexCode letter count) (hexCode letter count) c := by
  refine followsAt_bind (followsAt_takeWhile he (by decide) (.inl rfl)) fun ds d _ => ?_
  refine followsAt_ite (fun _ => followsAt_of_error rfl) fun _ => ?_
  exact followsAt_ite (fun _ => followsAt_of_error rfl) fun _ => followsAt_pure rfl

theorem followsAt_namedCode (he : e.Sound) : FollowsAt e k id namedCode namedCode c := by
  refine followsAt_bind (follows_accept he (by decide) c) fun opened d _ => ?_
  refine followsAt_ite (fun _ => followsAt_of_error rfl) fun _ => ?_
  refine followsAt_bind (followsAt_nameUntil he) fun name d _ => ?_
  dsimp only [id]
  split
  · exact followsAt_pure rfl
  · exact followsAt_fail

theorem followsAt_octalCode (ds : List Char) :
    FollowsAt e k id (octalCode ds) (octalCode ds) c :=
  followsAt_ite (fun _ => followsAt_fail) fun _ => followsAt_pure rfl

theorem followsAt_otherCode (he : e.Sound) (ch : Char) :
    FollowsAt e k id (otherCode ch) (otherCode ch) c := by
  unfold otherCode
  split
  · exact followsAt_hexCode he _ _
  · exact followsAt_hexCode he _ _
  · exact followsAt_hexCode he _ _
  · exact followsAt_namedCode he
  · exact followsAt_ite (fun _ => followsAt_of_error rfl) fun _ => followsAt_pure rfl

theorem followsAt_setEscape (he : e.Sound) (ch : Char) :
    FollowsAt e k id (setEscape ch) (setEscape ch) c := by
  unfold setEscape
  split
  · exact followsAt_pure rfl
  · exact followsAt_pure rfl
  · refine followsAt_ite (fun _ => ?_) fun _ => followsAt_ite (fun _ => followsAt_of_error rfl) fun _ => ?_
    · refine followsAt_bind (followsAt_takeWhile he (by decide) (.inl rfl)) fun ds d _ => ?_
      exact followsAt_bind (followsAt_octalCode _) fun n d _ => followsAt_pure rfl
    · exact followsAt_bind (followsAt_otherCode he ch) fun n d _ => followsAt_pure rfl

/-- Without groups in front a number refers to the same group. -/
theorem followsAt_groupReference (he : e.Sound) (hshift : e.shift = 0) (ds : List Char) :
    FollowsAt e k (Escaped.shift e.shift) (groupReference ds) (groupReference ds) c := by
  have hmoved (n : Nat) : moved e.shift n = n := by rw [hshift, moved_zero]
  refine followsAt_get_bind ?_
  have hcount : (e.embed c).groupCount = c.groupCount := hmoved c.groupCount
  rw [hcount]
  refine followsAt_ite (fun _ => followsAt_fail) fun _ => ?_
  have hclosed := followsAt_isClosed (k := k) (c := c) he (number 10 ds)
  rw [hmoved] at hclosed
  refine followsAt_bind hclosed fun closed d _ => ?_
  refine followsAt_ite (fun _ => followsAt_fail) fun _ => ?_
  have hcheck := followsAt_checkLookBehind (k := k) (c := d) he (number 10 ds)
  rw [hmoved] at hcheck
  refine followsAt_bind hcheck fun _ d _ => followsAt_pure ?_
  rw [Escaped.shift, hmoved]

theorem followsAt_digitEscape (he : e.Sound) (hshift : e.shift = 0) (ch : Char) :
    FollowsAt e k (Escaped.shift e.shift) (digitEscape ch) (digitEscape ch) c := by
  refine followsAt_bind (followsAt_takeWhile he (by decide) (.inl rfl)) fun ds d _ => ?_
  dsimp only [id]
  split
  · refine followsAt_ite (fun _ => ?_) fun _ => followsAt_groupReference he hshift _
    refine followsAt_bind (followsAt_takeWhile he (by decide) (.inl rfl)) fun es d _ => ?_
    dsimp only [id]
    split
    · exact followsAt_bind (followsAt_octalCode _) fun n d _ => followsAt_pure rfl
    · exact followsAt_groupReference he hshift _
  · exact followsAt_groupReference he hshift _

theorem between_of_isDigit {ch : Char} (hdigit : ch.isDigit) (hzero : ch ≠ '0') :
    ('1' ≤ ch && ch ≤ '9') = true := by
  have hne : ch.toNat ≠ 48 := fun h => hzero (Char.toNat_inj.mp h)
  simp only [Char.isDigit, Bool.and_eq_true, decide_eq_true_eq, Char.le_def, UInt32.le_iff_toNat_le,
    ge_iff_le] at hdigit ⊢
  have hval : ch.val.toNat = ch.toNat := rfl
  have hone : '1'.val.toNat = 49 := rfl
  have hnine : '9'.val.toNat = 57 := rfl
  have hlow : '0'.val.toNat = 48 := rfl
  omega

theorem followsAt_escape (he : e.Sound) {ch : Char}
    (hch : e.shift = 0 ∨ ('1' ≤ ch && ch ≤ '9') = false) :
    FollowsAt e k (Escaped.shift e.shift) (escape ch) (escape ch) c := by
  unfold escape
  split
  · exact followsAt_pure rfl
  · exact followsAt_pure rfl
  · exact followsAt_pure rfl
  · refine followsAt_ite (fun _ => ?_) fun hzero => followsAt_ite (fun hdigit => ?_) fun _ => ?_
    · refine followsAt_bind (followsAt_takeWhile he (by decide) (.inl rfl)) fun ds d _ => ?_
      exact followsAt_pure rfl
    · refine followsAt_digitEscape he (hch.resolve_right fun hother => ?_) ch
      rw [between_of_isDigit hdigit hzero] at hother
      cases hother
    · exact followsAt_bind (followsAt_otherCode he ch) fun n d _ => followsAt_pure rfl

/-! Flags. -/

theorem followsAt_notAFlag {α β : Type} {φ : α → β} {b : Reader β} {t : Token} {missing : String} :
    FollowsAt e k φ (notAFlag t missing) b c := followsAt_of_error rfl

theorem followsAt_addedFlags (he : e.Sound) {added : Flags} {ch : Char} {fuel fuel' : Nat}
    (h : fuel ≤ fuel') :
    FollowsAt e k id (addedFlags added ch fuel) (addedFlags added ch fuel') c := by
  induction fuel generalizing c added ch fuel' with
  | zero => exact followsAt_fail
  | succ fuel ih =>
    obtain ⟨fuel', rfl⟩ : ∃ n, fuel' = n + 1 := ⟨fuel' - 1, by omega⟩
    unfold addedFlags
    split
    · exact followsAt_fail
    · refine followsAt_ite (fun _ => followsAt_of_error rfl) fun _ => ?_
      refine followsAt_next_bind_of_error he (fun _ => ⟨_, rfl⟩) fun t ht => ?_
      cases t with
      | escape d => exact followsAt_notAFlag
      | plain d =>
        refine followsAt_ite (fun _ => followsAt_pure rfl) fun _ => ?_
        exact followsAt_ite (fun _ => ih (by omega)) fun _ => followsAt_notAFlag

theorem followsAt_removedFlags (he : e.Sound) {removed : Flags} {ch : Char} {fuel fuel' : Nat}
    (h : fuel ≤ fuel') :
    FollowsAt e k id (removedFlags removed ch fuel) (removedFlags removed ch fuel') c := by
  induction fuel generalizing c removed ch fuel' with
  | zero => exact followsAt_fail
  | succ fuel ih =>
    obtain ⟨fuel', rfl⟩ : ∃ n, fuel' = n + 1 := ⟨fuel' - 1, by omega⟩
    unfold removedFlags
    split
    · refine followsAt_next_bind_of_error he (fun _ => ⟨_, rfl⟩) fun t ht => ?_
      split
      · contradiction
      · exact followsAt_pure rfl
      next heq =>
        cases heq
        cases t with
        | escape d => exact followsAt_notAFlag
        | plain d => exact followsAt_ite (fun _ => ih (by omega)) fun _ => followsAt_notAFlag
    · exact followsAt_fail

theorem followsAt_addFlags (added : Flags) :
    FollowsAt e k id (modify fun s : Cursor => { s with flags := s.flags ++ added } : Reader PUnit)
      (modify fun s : Cursor => { s with flags := s.flags ++ added }) c :=
  followsAt_modify (fun h => ⟨h.rest, h.groupCount, h.widths, h.numbers⟩)
    { Cursor.Grows.refl c with flags := List.prefix_append _ _ } rfl

/-- Flags that are turned on and off at once are none. -/
def endFlags (added removed : Flags) : Reader (Option (Flags × Flags)) := do
  if removed.contains .template then fail "bad inline flags: cannot turn off global flag" 1
  if added.any removed.contains then fail "bad inline flags: flag turned on and off" 1
  return some (added, removed)

theorem followsAt_inlineFlags (he : e.Sound) (ch : Char) :
    FollowsAt e k id (inlineFlags ch) (inlineFlags ch) c := by
  refine followsAt_get_bind ?_
  have hfuel : c.rest.length + 1 ≤ (e.embed c).rest.length + 1 := by simp [Frame.embed]
  refine followsAt_ite_bind
    (followsAt_ite (fun _ => followsAt_pure rfl) fun _ => followsAt_addedFlags he hfuel) fun x d => ?_
  obtain ⟨added, last⟩ := x
  refine followsAt_ite (fun _ => ?_) fun _ => followsAt_ite (fun _ => followsAt_of_error rfl) fun _ => ?_
  · exact followsAt_bind (followsAt_addFlags added) fun _ d _ => followsAt_pure rfl
  have hbehind (removed : Flags) (d : Cursor) : FollowsAt e k id
      (endFlags added removed) (endFlags added removed) d :=
    followsAt_ite (fun _ => followsAt_of_error rfl) fun _ =>
      followsAt_ite (fun _ => followsAt_of_error rfl) fun _ => followsAt_pure rfl
  refine followsAt_ite (fun _ => hbehind [] d) fun _ => ?_
  refine followsAt_next_bind_of_error he (fun _ => ⟨_, rfl⟩) fun t ht => ?_
  cases t with
  | escape d => exact followsAt_of_error rfl
  | plain ch =>
    refine followsAt_ite (fun _ => ?_) fun _ => followsAt_of_error rfl
    exact followsAt_bind (followsAt_removedFlags he hfuel) fun removed d _ => hbehind removed d

/-! Sets. -/

theorem followsAt_setItem (he : e.Sound) (t : Token) :
    FollowsAt e k id (setItem t) (setItem t) c := by
  cases t with
  | plain ch => exact followsAt_pure rfl
  | escape ch => exact followsAt_setEscape he ch

theorem followsAt_setRange {low high : Escaped} {lowToken highToken : Token} :
    FollowsAt e k id (setRange low high lowToken highToken) (setRange low high lowToken highToken)
      c := by
  unfold setRange
  dsimp only
  split
  · exact followsAt_ite (fun _ => followsAt_fail) fun _ => followsAt_pure rfl
  · exact followsAt_fail

theorem followsAt_setItems (he : e.Sound) {opened opened' : Nat} {items : List SetItem}
    {fuel fuel' : Nat} (h : fuel ≤ fuel') :
    FollowsAt e k id (setItems opened items fuel) (setItems opened' items fuel') c := by
  induction fuel generalizing c items fuel' with
  | zero => exact followsAt_failAt
  | succ fuel ih =>
    obtain ⟨fuel', rfl⟩ : ∃ n, fuel' = n + 1 := ⟨fuel' - 1, by omega⟩
    refine followsAt_next_bind_of_error he (fun _ => ⟨_, rfl⟩) fun t ht => ?_
    refine followsAt_ite (fun _ => followsAt_pure rfl) fun _ => ?_
    refine followsAt_bind (followsAt_setItem he t) fun low d _ => ?_
    refine followsAt_bind (follows_accept he (by decide) d) fun ranged d _ => ?_
    refine followsAt_ite (fun _ => ?_) fun _ => ih (by omega)
    refine followsAt_next_bind_of_error he (fun _ => ⟨_, rfl⟩) fun u hu => ?_
    refine followsAt_ite (fun _ => followsAt_pure rfl) fun _ => ?_
    refine followsAt_bind (followsAt_setItem he u) fun high d _ => ?_
    exact followsAt_bind followsAt_setRange fun range d _ => ih (by omega)

theorem followsAt_readSet (he : e.Sound) :
    FollowsAt e k (Node.shift e.shift) readSet readSet c := by
  refine followsAt_get_bind ?_
  refine followsAt_bind (follows_accept he (by decide) c) fun negated d _ => ?_
  refine followsAt_get_bind ?_
  have hfuel : d.rest.length + 1 ≤ (e.embed d).rest.length + 1 := by simp [Frame.embed]
  refine followsAt_bind (followsAt_setItems he hfuel) fun items d _ => ?_
  dsimp only [id]
  split <;> exact followsAt_pure rfl

/-! Repetitions. -/

/-- The digits of the two bounds, and whether the bounds are closed. -/
def limits : Reader (List Char × List Char × Bool) := do
  let low ← digits
  let high ← if ← accept ',' then digits else pure low
  return (low, high, ← accept '\x7d')

/-- What the digits of the bounds say. -/
def boundsOf (position : Nat) (low high : List Char) : Reader (Option (Nat × Option Nat)) := do
  let least := number 10 low
  if repetitionLimit ≤ least then throw .repetitionTooLarge
  if high.isEmpty then return some (least, none)
  let most := number 10 high
  if repetitionLimit ≤ most then throw .repetitionTooLarge
  if most < least then failAt "min repeat greater than max repeat" position
  return some (least, some most)

/-- Without a closing brace the cursor goes back. -/
def closedBounds : Reader (Option (Nat × Option Nat)) := do
  let here ← get
  let (low, high, closed) ← limits
  if !closed then
    set here
    return none
  boundsOf here.position low high

theorem bounds_eq (sign : Char) : bounds sign =
    if sign = '?' then pure (some (0, some 1)) else if sign = '*' then pure (some (0, none))
    else if sign = '+' then pure (some (1, none))
    else peek >>= fun o => if o = some (.plain '\x7d') then pure none else closedBounds := by
  unfold bounds
  split
  · rfl
  · rfl
  · rfl
  next h1 h2 h3 =>
    rw [if_neg h1, if_neg h2, if_neg h3]
    simp only [closedBounds, limits, bind_assoc]
    congr 1
    funext o
    split
    · rfl
    · congr 1
      funext here
      congr 1
      funext low
      congr 1
      funext comma
      split
      · simp only [bind_assoc, pure_bind]
        rfl
      · simp only [bind_assoc, pure_bind]
        rfl

theorem followsAt_limits (he : e.Sound) : FollowsAt e k id limits limits c := by
  refine followsAt_bind (followsAt_digits he) fun low d _ => ?_
  refine followsAt_bind (follows_accept he (by decide) d) fun comma d _ => ?_
  refine followsAt_ite_bind
    (followsAt_ite (fun _ => followsAt_digits he) fun _ => followsAt_pure rfl) fun high d => ?_
  exact followsAt_bind (follows_accept he (by decide) d) fun closed d _ => followsAt_pure rfl

theorem followsAt_boundsOf {position position' : Nat} {low high : List Char} :
    FollowsAt e k id (boundsOf position low high) (boundsOf position' low high) c := by
  refine followsAt_ite (fun _ => followsAt_of_error rfl) fun _ => ?_
  refine followsAt_ite (fun _ => followsAt_pure rfl) fun _ => ?_
  refine followsAt_ite (fun _ => followsAt_of_error rfl) fun _ => ?_
  exact followsAt_ite (fun _ => followsAt_of_error rfl) fun _ => followsAt_pure rfl

theorem followsAt_closedBounds (he : e.Sound) : FollowsAt e k id closedBounds closedBounds c := by
  intro hfits v d hok
  -- The digits are read alike whatever is known of what comes behind them.
  have hlimits := followsAt_limits (k := .any) (c := c) he hfits
  have hrun (c : Cursor) : closedBounds.run c = limits.run c >>= fun x =>
      if !x.1.2.2 then .ok (none, c) else (boundsOf c.position x.1.1 x.1.2.1).run x.2 := by
    unfold closedBounds
    rw [StateT.run_bind, StateT.run_get, pure_bind, StateT.run_bind]
    congr 1
    funext x
    obtain ⟨⟨low, high, closed⟩, c'⟩ := x
    cases closed <;> rfl
  rw [hrun] at hok
  unfold Reaches
  rw [hrun]
  obtain ⟨⟨⟨low, high, closed⟩, c'⟩, hread, hv⟩ := Except.bind_eq_ok.mp hok
  obtain ⟨hfits', hgrows, hfollows⟩ := hlimits _ _ hread
  cases closed with
  | false =>
    cases hv
    refine ⟨hfits, .refl c, fun _ => ?_⟩
    rcases hfollows trivial with hdeep | hb
    · exact .inl (by rw [hdeep]; rfl)
    · exact .inr (by rw [hb]; rfl)
  | true =>
    obtain ⟨hfits'', hgrows', hends⟩ := followsAt_boundsOf (k := k) hfits' v d hv
    refine ⟨hfits'', hgrows.trans hgrows', fun hk => ?_⟩
    rcases hfollows trivial with hdeep | hb
    · exact .inl (by rw [hdeep]; rfl)
    · rw [hb]
      exact hends hk

theorem followsAt_bounds (he : e.Sound) (sign : Char) :
    FollowsAt e k id (bounds sign) (bounds sign) c := by
  rw [bounds_eq]
  refine followsAt_ite (fun _ => followsAt_pure rfl) fun _ => ?_
  refine followsAt_ite (fun _ => followsAt_pure rfl) fun _ => ?_
  refine followsAt_ite (fun _ => followsAt_pure rfl) fun _ => ?_
  refine followsAt_peek_bind he (fun hrest o ho => ?_) fun t ht => ?_
  · have hopen : o ≠ some (.plain '\x7d') := by rcases ho with rfl | rfl <;> simp
    rw [if_neg (by simp), if_neg hopen]
    exact followsAt_closedBounds he
  · exact followsAt_ite (fun _ => followsAt_pure rfl) fun _ => followsAt_closedBounds he

theorem followsAt_readGreed (he : e.Sound) : FollowsAt e k id readGreed readGreed c := by
  refine followsAt_bind (follows_accept he (by decide) c) fun lazy d _ => ?_
  refine followsAt_ite (fun _ => followsAt_pure rfl) fun _ => ?_
  refine followsAt_bind (follows_accept he (by decide) d) fun possessive d _ => ?_
  exact followsAt_ite (fun _ => followsAt_pure rfl) fun _ => followsAt_pure rfl

theorem followsAt_repeatLast (he : e.Sound) {read : List Node} {least : Nat} {most : Option Nat}
    {position position' : Nat} :
    FollowsAt e k (shiftAll e.shift) (repeatLast read least most position)
      (repeatLast (shiftAll e.shift read) least most position') c := by
  have hlast : (shiftAll e.shift read).getLast? = read.getLast?.map (Node.shift e.shift) := by
    rw [shiftAll_eq_map, List.getLast?_map]
  unfold repeatLast
  rw [hlast]
  cases read.getLast? with
  | none => exact followsAt_failAt
  | some n =>
    have hrepeat : FollowsAt e k (shiftAll e.shift)
        (do return read.dropLast ++ [.repetition (← readGreed) least most [n]])
        (do return (shiftAll e.shift read).dropLast ++
          [.repetition (← readGreed) least most [n.shift e.shift]]) c := by
      refine followsAt_bind (followsAt_readGreed he) fun greed d _ => followsAt_pure ?_
      simp [shiftAll_eq_map, Node.shift, List.map_dropLast]
    cases n with
    | anchor a => exact followsAt_failAt
    | repetition greed least most body => exact followsAt_failAt
    | _ => exact hrepeat

/-! Groups. -/

theorem run_openGroup_of_taken {name : List Char} {old : Nat}
    (h : c.names.lookup (String.ofList name) = some old) :
    ∃ fault, (openGroup (some name)).run c = .error fault := by
  simp only [openGroup, StateT.run_bind, StateT.run_get, StateT.run_set, pure_bind, h]
  exact ⟨_, rfl⟩

theorem run_openGroup_of_new {name : List Char} (h : c.names.lookup (String.ofList name) = none) :
    (openGroup (some name)).run c = .ok (c.groupCount,
      { c with
        groupCount := c.groupCount + 1
        names := (String.ofList name, c.groupCount) :: c.names }) := by
  simp only [openGroup, StateT.run_bind, StateT.run_get, StateT.run_set, pure_bind, h]
  rfl

theorem groupCount_of_openGroup {name : Option (List Char)} {n : Nat}
    (h : (openGroup name).run c = .ok (n, d)) : n = c.groupCount ∧ d.groupCount = n + 1 := by
  cases name with
  | none =>
    cases h
    exact ⟨rfl, rfl⟩
  | some name =>
    cases hnew : c.names.lookup (String.ofList name) with
    | none =>
      rw [run_openGroup_of_new hnew] at h
      cases h
      exact ⟨rfl, rfl⟩
    | some old =>
      obtain ⟨fault, hfault⟩ := run_openGroup_of_taken hnew
      rw [hfault] at h
      cases h

theorem followsAt_openGroup (hk : ∀ d, k.holds d → e.Keeps false d) (name : Option (List Char)) :
    FollowsAt e k (moved e.shift) (openGroup name) (openGroup name) c := by
  intro hfits v d hok
  have hcount : moved e.shift c.groupCount + 1 = moved e.shift (c.groupCount + 1) :=
    (moved_succ hfits.groupCount).symm
  have hwidths : ∀ g ∈ c.widths, 0 < g.1 ∧ g.1 < c.groupCount + 1 := fun g hg =>
    ⟨(hfits.widths g hg).1, Nat.lt_succ_of_lt (hfits.widths g hg).2⟩
  cases name with
  | none =>
    cases hok
    refine ⟨⟨hfits.rest, Nat.succ_pos _, hwidths, hfits.numbers⟩,
      { Cursor.Grows.refl c with groupCount := Nat.le_succ _ }, fun _ => .inr ?_⟩
    simp only [Frame.embed, ← hcount]
    rfl
  | some name =>
    cases hnew : c.names.lookup (String.ofList name) with
    | some old =>
      obtain ⟨fault, hfault⟩ := run_openGroup_of_taken hnew
      rw [hfault] at hok
      cases hok
    | none =>
      rw [run_openGroup_of_new hnew] at hok
      cases hok
      refine ⟨⟨hfits.rest, Nat.succ_pos _, hwidths, hfits.numbers⟩,
        { Cursor.Grows.refl c with
          groupCount := Nat.le_succ _, names := List.suffix_cons _ _ }, fun hd => .inr ?_⟩
      have hfront : e.names.lookup (String.ofList name) = none :=
        (hk _ hd).names (String.ofList name, c.groupCount) List.mem_cons_self
      have hnone : (e.embed c).names.lookup (String.ofList name) = none := by
        rw [Frame.embed, List.lookup_append, lookup_map_snd, hnew, hfront]
        rfl
      rw [run_openGroup_of_new hnone]
      simp only [Frame.embed, ← hcount, List.map_cons, List.cons_append]

theorem followsAt_closeGroup (he : e.Sound) {n : Nat} {body : List Node} (hpos : 0 < n)
    (hlt : n < c.groupCount) :
    FollowsAt e k id (closeGroup n body) (closeGroup (moved e.shift n) (shiftAll e.shift body)) c := by
  refine followsAt_modify (fun h => ⟨h.rest, h.groupCount, fun g hg => ?_, h.numbers⟩)
    { Cursor.Grows.refl c with rest := List.suffix_refl _ } ?_
  · rcases List.mem_cons.mp hg with rfl | hg
    · exact ⟨hpos, hlt⟩
    · exact h.widths g hg
  · have hwidth : width (e.embed c).widths (shiftAll e.shift body) = width c.widths body :=
      width_shift (lookup_embed he) body
    simp only [hwidth]
    rfl

theorem followsAt_groupName (he : e.Sound) (terminator : Char) :
    FollowsAt e k id (groupName terminator) (groupName terminator) c := by
  refine followsAt_bind (followsAt_nameUntil he) fun name d _ => ?_
  exact followsAt_ite (fun _ => followsAt_of_error rfl) fun _ => followsAt_pure rfl

theorem followsAt_numberOfName (name : List Char) :
    FollowsAt e k (moved e.shift) (numberOfName name) (numberOfName name) c := by
  refine followsAt_get_bind ?_
  cases hname : c.names.lookup (String.ofList name) with
  | none => exact followsAt_fail
  | some n =>
    have hembed : (e.embed c).names.lookup (String.ofList name) = some (moved e.shift n) := by
      rw [Frame.embed, List.lookup_append, lookup_map_snd, hname]
      rfl
    rw [hembed]
    exact followsAt_pure rfl

theorem followsAt_namedReference (he : e.Sound) :
    FollowsAt e k (Node.shift e.shift) namedReference namedReference c := by
  refine followsAt_bind (followsAt_groupName he ')') fun name d _ => ?_
  refine followsAt_bind (followsAt_numberOfName name) fun n d _ => ?_
  refine followsAt_bind (followsAt_isClosed he n) fun closed d _ => ?_
  refine followsAt_ite (fun _ => followsAt_of_error rfl) fun _ => ?_
  exact followsAt_bind (followsAt_checkLookBehind he n) fun _ d _ => followsAt_pure rfl

theorem followsAt_skipComment (he : e.Sound) {opened opened' : Nat} {fuel fuel' : Nat}
    (h : fuel ≤ fuel') :
    FollowsAt e k id (skipComment opened fuel) (skipComment opened' fuel') c := by
  induction fuel generalizing c fuel' with
  | zero => exact followsAt_failAt
  | succ fuel ih =>
    obtain ⟨fuel', rfl⟩ : ∃ n, fuel' = n + 1 := ⟨fuel' - 1, by omega⟩
    refine followsAt_next_bind_of_error he (fun _ => ⟨_, rfl⟩) fun t ht => ?_
    exact followsAt_ite (fun _ => followsAt_pure rfl) fun _ => ih (by omega)

/-- The rest of a line is read alike where some of the text is left behind it. -/
theorem followsAt_skipLine (he : e.Sound) (hk : ∀ d, k.holds d → d.rest ≠ []) {fuel fuel' : Nat}
    (hfuel : c.rest.length < fuel) (h : fuel ≤ fuel') :
    FollowsAt e k id (skipLine fuel) (skipLine fuel') c := by
  induction fuel generalizing c fuel' with
  | zero => exact absurd hfuel (Nat.not_lt_zero _)
  | succ fuel ih =>
    obtain ⟨fuel', rfl⟩ : ∃ n, fuel' = n + 1 := ⟨fuel' - 1, by omega⟩
    refine followsAt_of_fits fun hfits => ?_
    refine followsAt_next_bind he (fun hrest v d hok => ?_) fun t ht => ?_
    · cases hok
      exact ⟨hfits, .refl c, fun hd => hk c hd hrest⟩
    · have hlength := hfits.length_pass ht
      exact followsAt_ite (fun _ => followsAt_pure rfl) fun _ => ih (by omega) (by omega)

theorem close_eq (opened : Nat) : close opened = peek >>= fun o =>
    if o = some (.plain ')') then next >>= fun _ => pure () else failAt unterminated opened := by
  simp only [close, accept, bind_assoc]
  congr 1
  funext o
  split
  · simp only [bind_assoc, pure_bind]
    rfl
  · rfl

/-- The end of the text closes nothing. -/
theorem run_close_of_nil (opened : Nat) (h : c.rest = []) :
    ∃ fault, (close opened).run c = .error fault := by
  rw [close_eq, run_peek_bind, h]
  exact ⟨_, rfl⟩

theorem followsAt_close (he : e.Sound) {opened opened' : Nat} :
    FollowsAt e k id (close opened) (close opened') c := by
  rw [close_eq, close_eq]
  refine followsAt_peek_bind he (fun hrest o ho => followsAt_failAt) fun t ht => ?_
  refine followsAt_ite (fun _ => ?_) fun _ => followsAt_failAt
  exact followsAt_pass he ht (followsAt_pure rfl)

/-- The group that a condition asks for by name; one asked for by number is waited for. -/
theorem followsAt_conditionGroup (he : e.Sound) (hk : ∀ d, k.holds d → e.Keeps false d) :
    FollowsAt e k (moved e.shift) conditionGroup conditionGroup c := by
  refine followsAt_bind (followsAt_nameUntil he) fun name d _ => ?_
  have hcheck (n : Nat) (d : Cursor) : FollowsAt e k (moved e.shift)
      (checkLookBehind n >>= fun _ => pure n)
      (checkLookBehind (moved e.shift n) >>= fun _ => pure (moved e.shift n)) d :=
    followsAt_bind (followsAt_checkLookBehind he n) fun _ d _ => followsAt_pure rfl
  refine followsAt_ite (fun _ => ?_) fun _ => ?_
  · exact followsAt_bind (followsAt_numberOfName name) fun n d _ => hcheck n d
  · dsimp only [id]
    split
    · exact followsAt_of_error rfl
    next n _ _ =>
      refine followsAt_ite (fun _ => followsAt_of_error rfl) fun _ => ?_
      refine followsAt_modify_bind_of_not (fun h => ⟨h.rest, h.groupCount, h.widths, h.numbers⟩)
        { Cursor.Grows.refl d with awaited := List.prefix_append _ _ } (fun hd => ?_) (hcheck n _)
      simpa using (hk _ hd).awaited
    · exact followsAt_of_error rfl

/-- What stands behind an opening parenthesis, behind `k` groups. -/
def Reader.Opening.shift (k : Nat) : Opening → Opening
  | .condition group => .condition (moved k group)
  | .expression n => .expression (n.shift k)
  | o => o

theorem followsAt_opening (he : e.Sound) (hk : ∀ d, k.holds d → e.Keeps false d)
    {opened opened' : Nat} :
    FollowsAt e k (Opening.shift e.shift) (opening opened) (opening opened') c := by
  refine followsAt_bind (follows_accept he (by decide) c) fun marked d _ => ?_
  refine followsAt_ite (fun _ => followsAt_pure rfl) fun _ => ?_
  refine followsAt_next_bind_of_error he (fun _ => ⟨_, rfl⟩) fun t ht => ?_
  dsimp only
  split
  · refine followsAt_bind (follows_accept he (by decide) _) fun named d _ => ?_
    refine followsAt_ite (fun _ => ?_) fun _ => ?_
    · exact followsAt_bind (followsAt_groupName he '>') fun name d _ => followsAt_pure rfl
    refine followsAt_bind (follows_accept he (by decide) _) fun referring d _ => ?_
    refine followsAt_ite (fun _ => ?_) fun _ => ?_
    · exact followsAt_bind (followsAt_namedReference he) fun n d _ => followsAt_pure rfl
    · exact followsAt_next_bind_of_error he (fun _ => ⟨_, rfl⟩) fun u hu => followsAt_of_error rfl
  · exact followsAt_pure rfl
  · refine followsAt_get_bind ?_
    refine followsAt_bind (followsAt_skipComment he ?_) fun _ d _ => followsAt_pure rfl
    simp [Frame.embed]
  · exact followsAt_pure rfl
  · exact followsAt_pure rfl
  · refine followsAt_next_bind_of_error he (fun _ => ⟨_, rfl⟩) fun u hu => ?_
    refine followsAt_ite (fun _ => followsAt_pure rfl) fun _ => ?_
    exact followsAt_ite (fun _ => followsAt_pure rfl) fun _ => followsAt_of_error rfl
  · exact followsAt_bind (followsAt_conditionGroup he hk) fun n d _ => followsAt_pure rfl
  · exact followsAt_pure rfl
  · refine followsAt_ite (fun _ => ?_) fun _ => followsAt_of_error rfl
    refine followsAt_bind (followsAt_inlineFlags he _) fun flags d _ => ?_
    cases flags <;> exact followsAt_pure rfl
  · exact followsAt_of_error rfl

/-! Flags for the whole expression. -/

/-- What holds of every answer of a reader and of the cursor behind it. -/
def Yields {α : Type} (P : α → Cursor → Prop) (a : Reader α) (c : Cursor) : Prop :=
  ∀ v d, a.run c = .ok (v, d) → P v d

section Yields

variable {α β : Type} {P : α → Cursor → Prop} {Q : β → Cursor → Prop} {a a' : Reader α}
variable {f : α → Reader β}

theorem yields_pure {v : α} (h : P v c) : Yields P (pure v) c := by
  rintro _ _ ⟨⟩
  exact h

theorem yields_of_error {fault : Fault} (h : a.run c = .error fault) : Yields P a c := by
  intro v d hok
  rw [h] at hok
  cases hok

theorem yields_bind (hf : ∀ v d, a.run c = .ok (v, d) → Yields Q (f v) d) : Yields Q (a >>= f) c := by
  intro v d hok
  obtain ⟨w, c', hw, hv⟩ := run_bind_eq_ok.mp hok
  exact hf w c' hw v d hv

theorem yields_ite {p : Prop} [Decidable p] (ha : p → Yields P a c) (ha' : ¬ p → Yields P a' c) :
    Yields P (if p then a else a') c := by
  split
  next h => exact ha h
  next h => exact ha' h

theorem yields_ite_bind {p : Prop} [Decidable p] (ha : Yields P (if p then a else a') c)
    (hf : ∀ v d, P v d → Yields Q (f v) d) : Yields Q (if p then a >>= f else a' >>= f) c := by
  have hjoin : (if p then a >>= f else a' >>= f) = (if p then a else a') >>= f := by split <;> rfl
  rw [hjoin]
  exact yields_bind fun v d hv => hf v d (ha v d hv)

end Yields

theorem yields_addedFlags {added : Flags} {ch : Char} {fuel : Nat} :
    Yields (fun x _ => x.1 ≠ []) (addedFlags added ch fuel) c := by
  induction fuel generalizing c added ch with
  | zero => exact yields_of_error rfl
  | succ fuel ih =>
    unfold addedFlags
    split
    · exact yields_of_error rfl
    next f _ =>
      have hne : (if added.contains f then added else added ++ [f]) ≠ [] := by
        split
        next hmem =>
          intro hnil
          simp [hnil] at hmem
        next => simp
      refine yields_ite (fun _ => yields_of_error rfl) fun _ => yields_bind fun o d _ => ?_
      match o with
      | none => exact yields_of_error rfl
      | some (.escape _) => exact yields_of_error rfl
      | some (.plain _) =>
        refine yields_ite (fun _ => yields_pure hne) fun _ => ?_
        exact yields_ite (fun _ => ih) fun _ => yields_of_error rfl

/-- Flags in parentheses that are no group are turned on for the whole expression. -/
theorem yields_inlineFlags {ch : Char} :
    Yields (fun x d => x = none → d.flags ≠ []) (inlineFlags ch) c := by
  refine yields_bind fun s d _ => ?_
  refine yields_ite_bind (P := fun x _ => x.2 = .plain ')' → x.1 ≠ []) ?_ fun x d hx => ?_
  · refine yields_ite (fun _ => yields_pure nofun) fun _ => ?_
    exact fun x d hx _ => yields_addedFlags x d hx
  obtain ⟨added, last⟩ := x
  have hend (removed : Flags) (d : Cursor) :
      Yields (fun x d => x = none → d.flags ≠ []) (endFlags added removed) d :=
    yields_ite (fun _ => yields_of_error rfl) fun _ =>
      yields_ite (fun _ => yields_of_error rfl) fun _ => yields_pure nofun
  refine yields_ite (fun hlast => ?_) fun _ => yields_ite (fun _ => yields_of_error rfl) fun _ => ?_
  · rintro _ _ ⟨⟩ -
    exact List.append_ne_nil_of_right_ne_nil _ (hx hlast)
  · refine yields_ite (fun _ => hend [] d) fun _ => yields_bind fun o d _ => ?_
    match o with
    | none => exact yields_of_error rfl
    | some (.escape _) => exact yields_of_error rfl
    | some (.plain _) =>
      refine yields_ite (fun _ => yields_bind fun removed d _ => ?_) fun _ => yields_of_error rfl
      exact hend removed d

theorem yields_opening {opened : Nat} :
    Yields (fun o d => o = .global → d.flags ≠ []) (opening opened) c := by
  refine yields_bind fun marked d _ => ?_
  refine yields_ite (fun _ => yields_pure nofun) fun _ => yields_bind fun o d _ => ?_
  cases o with
  | none => exact yields_of_error rfl
  | some t =>
    dsimp only
    split
    · refine yields_bind fun named d _ => yields_ite (fun _ => ?_) fun _ => yields_bind fun referring d _ => ?_
      · exact yields_bind fun name d _ => yields_pure nofun
      · refine yields_ite (fun _ => yields_bind fun n d _ => yields_pure nofun) fun _ => ?_
        refine yields_bind fun u d _ => ?_
        cases u <;> exact yields_of_error rfl
    · exact yields_pure nofun
    · exact yields_bind fun _ d _ => yields_bind fun _ d _ => yields_pure nofun
    · exact yields_pure nofun
    · exact yields_pure nofun
    · refine yields_bind fun u d _ => ?_
      cases u with
      | none => exact yields_of_error rfl
      | some u =>
        refine yields_ite (fun _ => yields_pure nofun) fun _ => ?_
        exact yields_ite (fun _ => yields_pure nofun) fun _ => yields_of_error rfl
    · exact yields_bind fun n d _ => yields_pure nofun
    · exact yields_pure nofun
    · refine yields_ite (fun _ => yields_bind fun flags d hflags => ?_) fun _ => yields_of_error rfl
      cases flags with
      | none => exact yields_pure fun _ => yields_inlineFlags _ _ hflags rfl
      | some flags => exact yields_pure nofun
    · exact yields_of_error rfl

end Overloads.Pattern
