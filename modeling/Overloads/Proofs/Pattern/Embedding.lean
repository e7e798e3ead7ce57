import Overloads.Pattern.Reading
import Overloads.Proofs.Outcome
import Overloads.Proofs.Pattern.Renumbering

/-! Reading a text that stands inside a longer one, behind other groups. -/
namespace Overloads.Pattern

/--
What is around a text that is part of a longer one: what follows it, how far into the longer text it stands,
and how many groups are in front of it, with their names and widths.
-/
structure Frame where
  suffix : List Char
  offset : Nat
  shift : Nat
  names : List (String × Nat)
  widths : List (Nat × Nat × Nat)

/-- Whether a backslash stands before a digit from one to nine. -/
def hasNumberedEscape : List Char → Bool
  | '\\' :: d :: rest => ('1' ≤ d && d ≤ '9') || hasNumberedEscape rest
  | _ :: rest => hasNumberedEscape rest
  | [] => false

/-- What a reader leaves when it has passed something. -/
structure Cursor.Grows (c d : Cursor) : Prop where
  rest : d.rest <:+ c.rest
  flags : c.flags <+: d.flags
  names : c.names <:+ d.names
  awaited : c.awaited <+: d.awaited
  groupCount : c.groupCount ≤ d.groupCount
  outside : d.outside = c.outside

namespace Cursor.Grows

variable {c d : Cursor}

theorem refl (c : Cursor) : c.Grows c :=
  ⟨List.suffix_refl _, List.prefix_refl _, List.suffix_refl _, List.prefix_refl _, Nat.le_refl _, rfl⟩

theorem trans {c₀ : Cursor} (h : c₀.Grows c) (h' : c.Grows d) : c₀.Grows d where
  rest := h'.rest.trans h.rest
  flags := h.flags.trans h'.flags
  names := h.names.trans h'.names
  awaited := h.awaited.trans h'.awaited
  groupCount := Nat.le_trans h.groupCount h'.groupCount
  outside := h'.outside.trans h.outside

end Cursor.Grows

namespace Frame

variable {e : Frame} {lossy : Bool} {c d : Cursor}

/-- The text is closed or at the end where the frame goes on, and the groups in front have their numbers. -/
structure Sound (e : Frame) : Prop where
  suffix : ∀ ch ∈ e.suffix.head?, ch = ')'
  widths : ∀ g ∈ e.widths, 0 < g.1 ∧ g.1 ≤ e.shift

/-- The same place in the longer text. -/
def embed (e : Frame) (c : Cursor) : Cursor where
  rest := c.rest ++ e.suffix
  position := c.position + e.offset
  flags := c.flags
  groupCount := moved e.shift c.groupCount
  names := c.names.map (fun g => (g.1, moved e.shift g.2)) ++ e.names
  widths := c.widths.map (fun g => (moved e.shift g.1, g.2)) ++ e.widths
  outside := c.outside.map (moved e.shift)
  awaited := c.awaited

/-- Nothing that is still to be read refers to a group by a number that would be another one. -/
structure Fits (e : Frame) (c : Cursor) : Prop where
  rest : c.rest ≠ ['\\']
  groupCount : 0 < c.groupCount
  widths : ∀ g ∈ c.widths, 0 < g.1 ∧ g.1 < c.groupCount
  numbers : e.shift = 0 ∨ hasNumberedEscape c.rest = false

/--
Up to here the text has done nothing that would not stay in it. Where a comment can go on behind the text
(`lossy`), some of the text has to be left.
-/
structure Keeps (e : Frame) (lossy : Bool) (c : Cursor) : Prop where
  flags : c.flags = []
  awaited : c.awaited = []
  names : ∀ g ∈ c.names, e.names.lookup g.1 = none
  rest : lossy → c.rest ≠ []

theorem Keeps.of_grows (h : e.Keeps lossy d) (hgrows : c.Grows d) : e.Keeps lossy c where
  flags := List.prefix_nil.mp (h.flags ▸ hgrows.flags)
  awaited := List.prefix_nil.mp (h.awaited ▸ hgrows.awaited)
  names := fun g hg => h.names g (hgrows.names.mem hg)
  rest := by
    intro hlossy hnil
    exact h.rest hlossy (List.suffix_nil.mp (hnil ▸ hgrows.rest))

/-- Enough of the text is left for every use. -/
theorem Keeps.strict (h : e.Keeps lossy c) : e.Keeps false c :=
  ⟨h.flags, h.awaited, h.names, nofun⟩

end Frame

/-- What is known of the place where a reader ends. It held all the way to it. -/
structure Outlook where
  holds : Cursor → Prop
  of_grows : ∀ {c d : Cursor}, c.Grows d → holds d → holds c

def Outlook.any : Outlook := ⟨fun _ => True, fun _ h => h⟩

def Frame.kept (e : Frame) (lossy : Bool) : Outlook := ⟨e.Keeps lossy, fun hgrows h => h.of_grows hgrows⟩

variable {e : Frame} {k : Outlook} {c d : Cursor} {α β γ δ : Type}

/-- The reader answers, unless parentheses are nested too deeply for it. -/
def Reaches (a : Reader α) (c : Cursor) (v : α) (d : Cursor) : Prop :=
  a.run c = .error .tooDeep ∨ a.run c = .ok (v, d)

theorem Reaches.bind {a : Reader α} {f : α → Reader γ} {v : α} {w : γ} {d' : Cursor}
    (ha : Reaches a c v d) (hf : Reaches (f v) d w d') : Reaches (a >>= f) c w d' := by
  unfold Reaches
  rw [StateT.run_bind]
  rcases ha with hdeep | hok
  · exact .inl (by rw [hdeep]; rfl)
  · rw [hok]
    exact hf

/--
What the reader `a` does at `c`, the reader `b` does at the same place in the longer text, with what `φ` makes of
the answer, unless parentheses are nested too deeply there.
-/
def FollowsAt (e : Frame) (k : Outlook) (φ : α → β) (a : Reader α) (b : Reader β) (c : Cursor) : Prop :=
  e.Fits c → ∀ v d, a.run c = .ok (v, d) → e.Fits d ∧ c.Grows d ∧
    (k.holds d → Reaches b (e.embed c) (φ v) (e.embed d))

def Follows (e : Frame) (k : Outlook) (φ : α → β) (a : Reader α) (b : Reader β) : Prop :=
  ∀ c, FollowsAt e k φ a b c

variable {φ : α → β} {ψ : γ → δ} {a a' : Reader α} {b b' : Reader β} {f : α → Reader γ} {g : β → Reader δ}

theorem followsAt_pure {v : α} {w : β} (h : w = φ v) : FollowsAt e k φ (pure v) (pure w) c := by
  rintro hfits _ _ ⟨⟩
  exact ⟨hfits, .refl c, fun _ => .inr (by rw [h]; rfl)⟩

/-- Nothing is read in either text. -/
theorem followsAt_of_run {v : α} (ha : a.run c = .ok (v, c))
    (hb : b.run (e.embed c) = .ok (φ v, e.embed c)) : FollowsAt e k φ a b c := by
  intro hfits w d hok
  rw [ha] at hok
  cases hok
  exact ⟨hfits, .refl c, fun _ => .inr hb⟩

/-- A reader that fails is followed by anything. -/
theorem followsAt_of_error {fault : Fault} (h : a.run c = .error fault) : FollowsAt e k φ a b c := by
  intro _ v d hok
  rw [h] at hok
  cases hok

theorem followsAt_fail {what : String} {offset : Nat} :
    FollowsAt e k φ (Reader.fail what offset) b c := followsAt_of_error rfl

theorem followsAt_failAt {what : String} {position : Nat} :
    FollowsAt e k φ (Reader.failAt what position) b c := followsAt_of_error rfl

theorem run_bind_eq_ok {v : γ} :
    (a >>= f).run c = .ok (v, d) ↔ ∃ w c', a.run c = .ok (w, c') ∧ (f w).run c' = .ok (v, d) := by
  rw [StateT.run_bind, Except.bind_eq_ok]
  constructor
  · rintro ⟨⟨w, c'⟩, h, h'⟩
    exact ⟨w, c', h, h'⟩
  · rintro ⟨w, c', h, h'⟩
    exact ⟨(w, c'), h, h'⟩

theorem followsAt_of_fits (h : e.Fits c → FollowsAt e k φ a b c) : FollowsAt e k φ a b c :=
  fun hfits => h hfits hfits

theorem followsAt_bind_of_grows (ha : FollowsAt e k φ a b c)
    (hf : ∀ v d, a.run c = .ok (v, d) → c.Grows d → FollowsAt e k ψ (f v) (g (φ v)) d) :
    FollowsAt e k ψ (a >>= f) (b >>= g) c := by
  intro hfits v d hok
  obtain ⟨w, c', hw, hv⟩ := run_bind_eq_ok.mp hok
  obtain ⟨hfits', hgrows, hfollows⟩ := ha hfits w c' hw
  obtain ⟨hfits'', hgrows', hfollows'⟩ := hf w c' hw hgrows hfits' v d hv
  exact ⟨hfits'', hgrows.trans hgrows', fun hk =>
    (hfollows (k.of_grows hgrows' hk)).bind (hfollows' hk)⟩

theorem followsAt_bind (ha : FollowsAt e k φ a b c)
    (hf : ∀ v d, a.run c = .ok (v, d) → FollowsAt e k ψ (f v) (g (φ v)) d) :
    FollowsAt e k ψ (a >>= f) (b >>= g) c :=
  followsAt_bind_of_grows ha fun v d hv _ => hf v d hv

/-- What cannot go on at the end of the text needs less to be known of what is read before. -/
theorem followsAt_bind_of_end {k' : Outlook} (ha : FollowsAt e k' φ a b c)
    (hk : ∀ d, d.rest ≠ [] → k.holds d → k'.holds d)
    (hend : ∀ v d, d.rest = [] → ∃ fault, (f v).run d = .error fault)
    (hf : ∀ v d, a.run c = .ok (v, d) → c.Grows d → FollowsAt e k ψ (f v) (g (φ v)) d) :
    FollowsAt e k ψ (a >>= f) (b >>= g) c := by
  intro hfits v d hok
  obtain ⟨w, c', hw, hv⟩ := run_bind_eq_ok.mp hok
  have hrest : c'.rest ≠ [] := by
    intro hnil
    obtain ⟨fault, hfault⟩ := hend w c' hnil
    rw [hfault] at hv
    cases hv
  obtain ⟨hfits', hgrows, hfollows⟩ := ha hfits w c' hw
  obtain ⟨hfits'', hgrows', hfollows'⟩ := hf w c' hw hgrows hfits' v d hv
  exact ⟨hfits'', hgrows.trans hgrows', fun hd =>
    (hfollows (hk c' hrest (k.of_grows hgrows' hd))).bind (hfollows' hd)⟩

theorem followsAt_get_bind {f : Cursor → Reader γ} {g : Cursor → Reader δ}
    (h : FollowsAt e k ψ (f c) (g (e.embed c)) c) :
    FollowsAt e k ψ (get >>= f) (get >>= g) c := h

theorem followsAt_modify {s t : Cursor → Cursor} (hfits : e.Fits c → e.Fits (s c))
    (hgrows : c.Grows (s c)) (h : t (e.embed c) = e.embed (s c)) :
    FollowsAt e k id (modify s : Reader PUnit) (modify t) c := by
  rintro hc _ _ ⟨⟩
  refine ⟨hfits hc, hgrows, fun _ => .inr ?_⟩
  rw [← h]
  rfl

/-- A change that the outlook excludes is followed by anything. -/
theorem followsAt_modify_bind_of_not {s : Cursor → Cursor} {f : PUnit → Reader γ} {b' : Reader δ}
    (hfits : e.Fits c → e.Fits (s c)) (hgrows : c.Grows (s c)) (hnot : ¬ k.holds (s c))
    (hf : FollowsAt e k ψ (f ()) b' (s c)) {b : Reader δ} :
    FollowsAt e k ψ (modify s >>= f) b c := by
  intro hc v d hok
  obtain ⟨hfits', hgrows', -⟩ := hf (hfits hc) v d hok
  exact ⟨hfits', hgrows.trans hgrows', fun hk => (hnot (k.of_grows hgrows' hk)).elim⟩

theorem followsAt_ite {p : Prop} [Decidable p] (ha : p → FollowsAt e k φ a b c)
    (ha' : ¬ p → FollowsAt e k φ a' b' c) :
    FollowsAt e k φ (if p then a else a') (if p then b else b') c := by
  split
  next h => exact ha h
  next h => exact ha' h

/-- Two ways to begin that go on alike. -/
theorem followsAt_ite_bind {p : Prop} [Decidable p]
    (ha : FollowsAt e k φ (if p then a else a') (if p then b else b') c)
    (hf : ∀ v d, FollowsAt e k ψ (f v) (g (φ v)) d) :
    FollowsAt e k ψ (if p then a >>= f else a' >>= f) (if p then b >>= g else b' >>= g) c := by
  have hbefore : (if p then a >>= f else a' >>= f) = (if p then a else a') >>= f := by split <;> rfl
  have hwithin : (if p then b >>= g else b' >>= g) = (if p then b else b') >>= g := by split <;> rfl
  rw [hbefore, hwithin]
  exact followsAt_bind ha fun v d _ => hf v d

/-! Tokens. -/

open Reader

variable {text : List Char} {t : Token}

/-- The token that a text begins with. -/
def firstToken : List Char → Option Token
  | [] => none
  | '\\' :: d :: _ => some (.escape d)
  | ch :: _ => some (.plain ch)

theorem run_peek : peek.run c = .ok (firstToken c.rest, c) := by
  have hread : peek.run c = (match c.rest with
      | [] => pure none
      | '\\' :: d :: _ => pure (some (.escape d))
      | ch :: _ => pure (some (.plain ch)) : Reader (Option Token)).run c := rfl
  rw [hread]
  generalize c.rest = rest
  unfold firstToken
  split <;> rfl

theorem run_peek_bind {f : Option Token → Reader γ} :
    (peek >>= f).run c = (f (firstToken c.rest)).run c := by
  rw [StateT.run_bind, run_peek]
  rfl

/-- The cursor behind a token. -/
def Cursor.pass (c : Cursor) (t : Token) : Cursor :=
  { c with rest := c.rest.drop t.text.length, position := c.position + t.text.length }

theorem run_checkToken : checkToken.run c =
    if c.rest = ['\\'] then .error (.malformed "bad escape (end of pattern)" (some c.position))
    else .ok ((), c) := by
  simp only [checkToken, StateT.run_bind, StateT.run_get, pure_bind]
  split <;> rfl

theorem run_next : next.run c =
    match firstToken c.rest with
    | none => (checkToken.run c).map fun _ => (none, c)
    | some t => (checkToken.run (c.pass t)).map fun _ => (some t, c.pass t) := by
  have hchecked (t : Option Token) (s : Cursor) :
      (do checkToken; return t : Reader (Option Token)).run s =
        (checkToken.run s).map fun _ => (t, s) := by
    rw [StateT.run_bind, run_checkToken]
    split <;> rfl
  rw [next, run_peek_bind]
  cases firstToken c.rest with
  | none => exact hchecked none c
  | some t => exact hchecked (some t) (c.pass t)

theorem run_next_of_nil (h : c.rest = []) : next.run c = .ok (none, c) := by
  rw [run_next, run_checkToken, h]
  rfl

theorem run_next_eq_ok (h : firstToken c.rest = some t) {o : Option Token} :
    next.run c = .ok (o, d) ↔ o = some t ∧ d = c.pass t ∧ (c.pass t).rest ≠ ['\\'] := by
  rw [run_next, h]
  dsimp only
  rw [run_checkToken]
  split
  next hrest => simp [Except.map, hrest]
  next hrest =>
    simp only [Except.map, Except.ok.injEq, Prod.mk.injEq, ne_eq, hrest, not_false_iff, and_true]
    exact ⟨fun h => ⟨h.1.symm, h.2.symm⟩, fun h => ⟨h.1.symm, h.2.symm⟩⟩

/-- Short of its end a text begins with the same token when more text follows. -/
theorem firstToken_append (hne : text ≠ []) (hrest : text ≠ ['\\']) (behind : List Char) :
    firstToken (text ++ behind) = firstToken text := by
  match text with
  | [] => exact (hne rfl).elim
  | [ch] =>
    have hch : ch ≠ '\\' := fun h => hrest (h ▸ rfl)
    simp [firstToken, hch]
  | ch :: d :: more =>
    by_cases hch : ch = '\\'
    · simp [firstToken, hch]
    · simp [firstToken, hch]

theorem firstToken_eq_none : firstToken text = none ↔ text = [] := by
  unfold firstToken
  split <;> simp

theorem text_of_firstToken (h : firstToken text = some t) (hrest : text ≠ ['\\']) :
    text = t.text ++ text.drop t.text.length ∧ 0 < t.text.length := by
  unfold firstToken at h
  split at h
  · cases h
  · cases h
    exact ⟨rfl, Nat.succ_pos _⟩
  · cases h
    exact ⟨rfl, Nat.succ_pos _⟩

theorem Cursor.grows_pass (c : Cursor) (t : Token) : c.Grows (c.pass t) :=
  { Cursor.Grows.refl c with rest := List.drop_suffix _ _ }

theorem hasNumberedEscape_drop (h : firstToken text = some t) :
    hasNumberedEscape text = false → hasNumberedEscape (text.drop t.text.length) = false := by
  unfold firstToken at h
  split at h
  · cases h
  · cases h
    simp only [hasNumberedEscape, Bool.or_eq_false_iff]
    exact fun hnone => hnone.2
  next ch more hplain =>
    cases h
    intro hnone
    rw [hasNumberedEscape] at hnone
    · exact hnone
    · exact hplain

theorem Frame.Fits.pass (h : e.Fits c) (ht : firstToken c.rest = some t)
    (hrest : (c.pass t).rest ≠ ['\\']) : e.Fits (c.pass t) where
  rest := hrest
  groupCount := h.groupCount
  widths := h.widths
  numbers := h.numbers.imp_right (hasNumberedEscape_drop ht)

theorem Frame.Fits.length_pass (h : e.Fits c) (ht : firstToken c.rest = some t) :
    (c.pass t).rest.length < c.rest.length := by
  obtain ⟨htext, hpos⟩ := text_of_firstToken ht h.rest
  have hlength := congrArg List.length htext
  rw [List.length_append] at hlength
  have hdrop : (c.pass t).rest.length = (c.rest.drop t.text.length).length := rfl
  omega

theorem Frame.embed_pass (h : e.Fits c) (ht : firstToken c.rest = some t) :
    (e.embed c).pass t = e.embed (c.pass t) := by
  obtain ⟨htext, -⟩ := text_of_firstToken ht h.rest
  have hlength : t.text.length ≤ c.rest.length := by
    rw [htext, List.length_append]
    omega
  have hposition : c.position + e.offset + t.text.length = c.position + t.text.length + e.offset := by
    omega
  simp only [Cursor.pass, Frame.embed, List.drop_append_of_le_length hlength, hposition]

theorem Frame.Sound.rest_ne (he : e.Sound) (h : c.rest ≠ ['\\']) : (e.embed c).rest ≠ ['\\'] := by
  intro hembed
  rcases List.append_eq_singleton_iff.mp hembed with ⟨-, hsuffix⟩ | ⟨hrest, -⟩
  · have hclosed := he.suffix '\\' (by rw [hsuffix]; rfl)
    exact absurd hclosed (by decide)
  · exact h hrest

theorem Frame.Sound.firstToken_suffix (he : e.Sound) :
    firstToken e.suffix = none ∨ firstToken e.suffix = some (.plain ')') := by
  cases hsuffix : e.suffix with
  | nil => exact .inl rfl
  | cons ch more =>
    have hclosed := he.suffix ch (by rw [hsuffix]; rfl)
    rw [hclosed]
    exact .inr rfl

theorem followsAt_peek_bind (he : e.Sound) {f : Option Token → Reader γ} {g : Option Token → Reader δ}
    (hnone : c.rest = [] → ∀ o, o = none ∨ o = some (.plain ')') →
      FollowsAt e k ψ (f none) (g o) c)
    (hsome : ∀ t, firstToken c.rest = some t → FollowsAt e k ψ (f (some t)) (g (some t)) c) :
    FollowsAt e k ψ (peek >>= f) (peek >>= g) c := by
  intro hfits v d hok
  rw [run_peek_bind] at hok
  unfold Reaches
  rw [run_peek_bind]
  cases ht : firstToken c.rest with
  | none =>
    have hrest := firstToken_eq_none.mp ht
    have hembed : (e.embed c).rest = e.suffix := by simp [Frame.embed, hrest]
    rw [ht] at hok
    rw [hembed]
    exact hnone hrest _ he.firstToken_suffix hfits v d hok
  | some t =>
    have hne : c.rest ≠ [] := fun hrest => by simp [hrest, firstToken] at ht
    have hembed : firstToken (e.embed c).rest = some t := by
      rw [← ht]
      exact firstToken_append hne hfits.rest e.suffix
    rw [ht] at hok
    rw [hembed]
    exact hsome t ht hfits v d hok

/-- A token is passed in both texts; the end of the text is none that the longer text needs to have. -/
theorem followsAt_next_bind (he : e.Sound) {f : Option Token → Reader γ}
    {g : Option Token → Reader δ}
    (hnone : c.rest = [] → ∀ v d, (f none).run c = .ok (v, d) →
      e.Fits d ∧ c.Grows d ∧ ¬ k.holds d)
    (hsome : ∀ t, firstToken c.rest = some t →
      FollowsAt e k ψ (f (some t)) (g (some t)) (c.pass t)) :
    FollowsAt e k ψ (next >>= f) (next >>= g) c := by
  intro hfits v d hok
  obtain ⟨o, c', hnext, hv⟩ := run_bind_eq_ok.mp hok
  cases ht : firstToken c.rest with
  | none =>
    have hrest := firstToken_eq_none.mp ht
    rw [run_next_of_nil hrest] at hnext
    cases hnext
    obtain ⟨hfits', hgrows, hnot⟩ := hnone hrest v d hv
    exact ⟨hfits', hgrows, fun hk => (hnot hk).elim⟩
  | some t =>
    obtain ⟨rfl, rfl, hrest⟩ := (run_next_eq_ok ht).mp hnext
    obtain ⟨hfits', hgrows, hfollows⟩ := hsome t ht (hfits.pass ht hrest) v d hv
    refine ⟨hfits', (c.grows_pass t).trans hgrows, fun hk => ?_⟩
    have hne : c.rest ≠ [] := fun hrest => by simp [hrest, firstToken] at ht
    have hembed : firstToken (e.embed c).rest = some t := by
      rw [← ht]
      exact firstToken_append hne hfits.rest e.suffix
    have hwithin : next.run (e.embed c) = .ok (some t, e.embed (c.pass t)) := by
      rw [run_next_eq_ok hembed, Frame.embed_pass hfits ht]
      exact ⟨rfl, rfl, he.rest_ne hrest⟩
    exact Reaches.bind (.inr hwithin) (hfollows hk)

/-- Where a token ends the text, its end cannot be passed. -/
theorem followsAt_next_bind_of_error (he : e.Sound) {f : Option Token → Reader γ}
    {g : Option Token → Reader δ}
    (hnone : c.rest = [] → ∃ fault, (f none).run c = .error fault)
    (hsome : ∀ t, firstToken c.rest = some t →
      FollowsAt e k ψ (f (some t)) (g (some t)) (c.pass t)) :
    FollowsAt e k ψ (next >>= f) (next >>= g) c := by
  refine followsAt_next_bind he (fun hrest v d hok => ?_) hsome
  obtain ⟨fault, hfault⟩ := hnone hrest
  rw [hfault] at hok
  cases hok

/-- A token that was seen is passed. -/
theorem followsAt_pass (he : e.Sound) (ht : firstToken c.rest = some t)
    {f : Option Token → Reader γ} {g : Option Token → Reader δ}
    (hsome : FollowsAt e k ψ (f (some t)) (g (some t)) (c.pass t)) :
    FollowsAt e k ψ (next >>= f) (next >>= g) c := by
  refine followsAt_next_bind he (fun hrest => ?_) fun t' ht' => ?_
  · rw [hrest] at ht
    cases ht
  · obtain rfl : t = t' := Option.some.inj (ht.symm.trans ht')
    exact hsome

/-- Any character can be asked for but the one that closes the text. -/
theorem follows_accept (he : e.Sound) {ch : Char} (hch : ch ≠ ')') :
    Follows e k id (accept ch) (accept ch) := by
  intro c
  refine followsAt_peek_bind he (fun hrest o ho => ?_) fun t ht => ?_
  · have hne : o ≠ some (.plain ch) := by
      rcases ho with rfl | rfl
      · simp
      · simpa using hch.symm
    rw [if_neg (by simp), if_neg hne]
    exact followsAt_pure rfl
  · refine followsAt_ite (fun _ => ?_) fun _ => followsAt_pure rfl
    exact followsAt_pass he ht (followsAt_pure rfl)

theorem run_takeWhile_of_closed {holds : Char → Bool} (hholds : holds ')' = false) (limit : Nat)
    (h : firstToken c.rest = none ∨ firstToken c.rest = some (.plain ')')) :
    (takeWhile holds limit).run c = .ok ([], c) := by
  cases limit with
  | zero => rfl
  | succ limit =>
    rw [takeWhile, run_peek_bind]
    rcases h with h | h
    · rw [h]
      rfl
    · rw [h]
      simp only [hholds]
      rfl

theorem followsAt_takeWhile_of_nil (he : e.Sound) {holds : Char → Bool} (hholds : holds ')' = false)
    {limit limit' : Nat} (h : c.rest = []) :
    FollowsAt e k id (takeWhile holds limit) (takeWhile holds limit') c := by
  have hembed : (e.embed c).rest = e.suffix := by simp [Frame.embed, h]
  refine followsAt_of_run (run_takeWhile_of_closed hholds limit (.inl ?_))
    (run_takeWhile_of_closed hholds limit' ?_)
  · rw [h, firstToken]
  · rw [hembed]
    exact he.firstToken_suffix

/-- A run of characters ends where the text does; further ones may be allowed for. -/
theorem followsAt_takeWhile (he : e.Sound) {holds : Char → Bool} (hholds : holds ')' = false)
    {limit limit' : Nat} (h : limit = limit' ∨ c.rest.length ≤ limit ∧ c.rest.length ≤ limit') :
    FollowsAt e k id (takeWhile holds limit) (takeWhile holds limit') c := by
  induction limit generalizing c limit' with
  | zero =>
    rcases h with rfl | ⟨hlength, -⟩
    · exact followsAt_pure rfl
    · exact followsAt_takeWhile_of_nil he hholds (List.length_eq_zero_iff.mp (Nat.le_zero.mp hlength))
  | succ limit ih =>
    by_cases hnil : c.rest = []
    · exact followsAt_takeWhile_of_nil he hholds hnil
    obtain ⟨limit', rfl⟩ : ∃ n, limit' = n + 1 := by
      have hlength := List.length_pos_iff.mpr hnil
      exact ⟨limit' - 1, by omega⟩
    refine followsAt_peek_bind he (fun hrest => (hnil hrest).elim) fun t ht => ?_
    cases t with
    | escape ch => exact followsAt_pure rfl
    | plain ch =>
      refine followsAt_ite (fun _ => ?_) fun _ => followsAt_pure rfl
      refine followsAt_pass he ht ?_
      have hpass : (c.pass (.plain ch)).rest.length = c.rest.length - 1 := by
        simp [Cursor.pass, Token.text]
      exact followsAt_bind (ih (by omega)) fun v d _ => followsAt_pure rfl

theorem followsAt_digits (he : e.Sound) : FollowsAt e k id digits digits c := by
  refine followsAt_get_bind (followsAt_takeWhile he (by decide) (.inr ⟨Nat.le_refl _, ?_⟩))
  simp [Frame.embed]

/-- The text up to a terminator, within enough tokens. -/
theorem followsAt_takeUntil (he : e.Sound) {terminator : Char} {what : String} {read : List Char}
    {fuel fuel' : Nat} (h : fuel ≤ fuel') :
    FollowsAt e k id (takeUntil terminator what read fuel) (takeUntil terminator what read fuel')
      c := by
  induction fuel generalizing c read fuel' with
  | zero => exact followsAt_fail
  | succ fuel ih =>
    obtain ⟨fuel', rfl⟩ : ∃ n, fuel' = n + 1 := ⟨fuel' - 1, by omega⟩
    refine followsAt_next_bind_of_error he (fun _ => ?_) fun t ht => ?_
    · dsimp only
      split <;> exact ⟨_, rfl⟩
    · refine followsAt_ite (fun _ => ?_) fun _ => ih (by omega)
      exact followsAt_ite (fun _ => followsAt_fail) fun _ => followsAt_pure rfl

theorem followsAt_nameUntil (he : e.Sound) {terminator : Char} {what : String} :
    FollowsAt e k id (nameUntil terminator what) (nameUntil terminator what) c := by
  refine followsAt_get_bind (followsAt_takeUntil he ?_)
  simp [Frame.embed]

theorem lookup_embed (he : e.Sound) (number : Nat) :
    (e.embed c).widths.lookup (moved e.shift number) = c.widths.lookup number := by
  have hfront : e.widths.lookup (moved e.shift number) = none := by
    rw [List.lookup_eq_none_iff]
    intro g hg
    obtain ⟨hpos, hle⟩ := he.widths g hg
    have hne : moved e.shift number ≠ g.1 := by
      unfold moved
      split <;> omega
    simpa using hne
  rw [Frame.embed, List.lookup_append, lookup_moved, hfront, Option.or_none]

theorem followsAt_isClosed (he : e.Sound) (number : Nat) :
    FollowsAt e k id (isClosed number) (isClosed (moved e.shift number)) c := by
  refine followsAt_get_bind (followsAt_pure ?_)
  rw [lookup_embed he]
  rfl

theorem lookup_map_snd {l : List (String × Nat)} {s : String} (h : Nat → Nat) :
    (l.map fun g => (g.1, h g.2)).lookup s = (l.lookup s).map h := by
  induction l with
  | nil => rfl
  | cons g rest ih =>
    rw [List.map_cons, List.lookup_cons, List.lookup_cons, ih]
    split <;> rfl

theorem followsAt_checkLookBehind (he : e.Sound) (number : Nat) :
    FollowsAt e k id (checkLookBehind number) (checkLookBehind (moved e.shift number)) c := by
  refine followsAt_get_bind ?_
  have hembed : (e.embed c).outside = c.outside.map (moved e.shift) := rfl
  rw [hembed]
  cases c.outside with
  | none => exact followsAt_pure rfl
  | some outside =>
    refine followsAt_bind (followsAt_isClosed he number) fun closed d _ => ?_
    refine followsAt_ite (fun _ => followsAt_of_error rfl) fun _ => ?_
    simp only [moved_le]
    exact followsAt_ite (fun _ => followsAt_fail) fun _ => followsAt_pure rfl

end Overloads.Pattern
