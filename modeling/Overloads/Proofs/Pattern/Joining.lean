import Overloads.Proofs.Pattern.Following

/-! The text that joins several expressions is read as the choice between them. -/
namespace Overloads.Pattern

open Reader

variable {c d : Cursor} {tail text : List Char} {α β : Type}

theorem run_next_bind {t : Token} {f : Option Token → Reader α} (h : firstToken c.rest = some t)
    (hrest : (c.pass t).rest ≠ ['\\']) : (next >>= f).run c = (f (some t)).run (c.pass t) := by
  rw [StateT.run_bind, (run_next_eq_ok h).mpr ⟨rfl, rfl, hrest⟩]
  rfl

theorem run_accept {ch : Char} (h : firstToken c.rest = some (.plain ch))
    (hrest : (c.pass (.plain ch)).rest ≠ ['\\']) :
    (accept ch).run c = .ok (true, c.pass (.plain ch)) := by
  rw [accept, run_peek_bind, h, if_pos rfl, run_next_bind h hrest]
  rfl

theorem run_accept_bind {ch : Char} {f : Bool → Reader α} (h : firstToken c.rest = some (.plain ch))
    (hrest : (c.pass (.plain ch)).rest ≠ ['\\']) :
    (accept ch >>= f).run c = (f true).run (c.pass (.plain ch)) := by
  rw [StateT.run_bind, run_accept h hrest]
  rfl

/-- Where the reading of a text begins. -/
def Cursor.start (text : List Char) : Cursor := ⟨text, 0, [], 1, [], [], none, []⟩

/-- A text with its expression and the place where its reading ends. -/
structure Part where
  text : List Char
  body : List Node
  stop : Cursor

namespace Part

/-- The text can be read by itself, and all that it does stays in it. -/
structure Whole (p : Part) : Prop where
  text : p.text ≠ ['\\']
  read : (alternatives ⟨false, true, true, nestingRoom⟩ [] (3 * p.text.length + 4)).run
    (.start p.text) = .ok (p.body, p.stop)
  rest : p.stop.rest = []
  flags : p.stop.flags = []
  awaited : p.stop.awaited = []

/-- Neither the names nor the numbers of groups in the first text mean anything to the second one. -/
structure Apart (p q : Part) : Prop where
  numbers : p.stop.groupCount ≤ 1 ∨ hasNumberedEscape q.text = false
  names : ∀ g ∈ p.stop.names, ∀ h ∈ q.stop.names, g.1 ≠ h.1

/-- What is read before `c` means nothing to the text. -/
structure Joins (p : Part) (c : Cursor) : Prop where
  numbers : c.groupCount ≤ 1 ∨ hasNumberedEscape p.text = false
  names : ∀ g ∈ p.stop.names, c.names.lookup g.1 = none

end Part

/-- A cursor between complete groups. -/
structure Cursor.Between (c : Cursor) : Prop where
  flags : c.flags = []
  awaited : c.awaited = []
  outside : c.outside = none
  groupCount : 0 < c.groupCount
  widths : ∀ g ∈ c.widths, 0 < g.1 ∧ g.1 < c.groupCount

theorem between_start (text : List Char) : (Cursor.start text).Between :=
  ⟨rfl, rfl, rfl, Nat.one_pos, nofun⟩

theorem fits_start {e : Frame} (hrest : text ≠ ['\\'])
    (hnumbers : e.shift = 0 ∨ hasNumberedEscape text = false) : e.Fits (.start text) :=
  ⟨hrest, Nat.one_pos, nofun, hnumbers⟩

/-- What is around a text in parentheses that stand at `c`. -/
def Frame.around (c : Cursor) (tail : List Char) : Frame where
  suffix := ')' :: tail
  offset := c.position + 3
  shift := c.groupCount - 1
  names := c.names
  widths := c.widths

theorem sound_around (h : c.Between) (tail : List Char) : (Frame.around c tail).Sound where
  suffix := by
    rintro _ ⟨⟩
    rfl
  widths := by
    intro g hg
    have hwidth := h.widths g hg
    exact ⟨hwidth.1, Nat.le_sub_one_of_lt hwidth.2⟩

theorem embed_start (h : c.Between) : (Frame.around c tail).embed (.start text) =
    { c with rest := text ++ ')' :: tail, position := c.position + 3 } := by
  have hcount : moved (c.groupCount - 1) 1 = c.groupCount := by
    have hpos := h.groupCount
    rw [moved_of_pos Nat.one_pos]
    omega
  obtain ⟨rest, position, flags, groupCount, names, widths, outside, awaited⟩ := c
  obtain ⟨rfl, rfl, rfl, -, -⟩ := h
  simp [Frame.embed, Cursor.start, Frame.around] at hcount ⊢
  exact hcount

/-- The cursor behind a text in parentheses that stand at `c`. -/
def Part.behind (p : Part) (c : Cursor) (tail : List Char) : Cursor :=
  ((Frame.around c tail).embed p.stop).pass (.plain ')')

/-- What a text in parentheses is read as. -/
def Part.node (p : Part) (c : Cursor) : Node :=
  .group none [] [] (shiftAll (c.groupCount - 1) p.body)

section Part

variable {p q : Part} {fuel opened : Nat} {first : Bool}

/-- In parentheses the text is read as it is by itself. -/
theorem Part.Whole.read_around (hp : p.Whole) (hc : c.Between) (hjoins : p.Joins c)
    (tail : List Char) (room : Nat) (hfuel : 3 * p.text.length + 4 ≤ fuel) :
    (Frame.around c tail).Fits p.stop ∧ (Cursor.start p.text).Grows p.stop ∧
      Reaches (alternatives ⟨false, false, false, room⟩ [] fuel)
        ((Frame.around c tail).embed (.start p.text)) (shiftAll (c.groupCount - 1) p.body)
        ((Frame.around c tail).embed p.stop) := by
  have hnumbers : (Frame.around c tail).shift = 0 ∨ hasNumberedEscape p.text = false :=
    hjoins.numbers.imp_left Nat.sub_eq_zero_of_le
  have hkeeps : (Frame.around c tail).Keeps false p.stop := ⟨hp.flags, hp.awaited, hjoins.names, nofun⟩
  have hwithin := followsWithin (sound_around hc tail) (3 * p.text.length + 4)
  have hfollows : FollowsAt (Frame.around c tail) ((Frame.around c tail).kept false)
      (shiftAll (c.groupCount - 1))
      (alternatives ⟨false, true, true, nestingRoom⟩ [] (3 * p.text.length + 4))
      (alternatives ⟨false, false, false, room⟩ [] fuel) (.start p.text) :=
    hwithin.alternatives hfuel ⟨rfl, rfl, nofun⟩ nofun
  obtain ⟨hfits, hgrows, hreaches⟩ := hfollows (fits_start hp.text hnumbers) _ _ hp.read
  exact ⟨hfits, hgrows, hreaches hkeeps⟩

theorem Part.Whole.fits (hp : p.Whole) (hc : c.Between) (hjoins : p.Joins c) (tail : List Char) :
    (Frame.around c tail).Fits p.stop :=
  (hp.read_around hc hjoins tail 0 (Nat.le_refl _)).1

theorem Part.Whole.outside (hp : p.Whole) (hc : c.Between) (hjoins : p.Joins c) :
    p.stop.outside = none :=
  (hp.read_around hc hjoins [] 0 (Nat.le_refl _)).2.1.outside

theorem rest_behind (hp : p.Whole) : (p.behind c tail).rest = tail := by
  simp [Part.behind, Cursor.pass, Frame.embed, Frame.around, hp.rest, Token.text]

theorem groupCount_behind (hp : p.Whole) (hc : c.Between) (hjoins : p.Joins c) :
    (p.behind c tail).groupCount = p.stop.groupCount + (c.groupCount - 1) :=
  moved_of_pos (hp.fits hc hjoins tail).groupCount

/-- Behind the text in parentheses nothing is open either. -/
theorem between_behind (hp : p.Whole) (hc : c.Between) (hjoins : p.Joins c) :
    (p.behind c tail).Between where
  flags := hp.flags
  awaited := hp.awaited
  outside := by
    simp [Part.behind, Cursor.pass, Frame.embed, hp.outside hc hjoins]
  groupCount := by
    have hpos := (hp.fits hc hjoins tail).groupCount
    rw [groupCount_behind hp hc hjoins]
    omega
  widths := by
    have hfits := hp.fits hc hjoins tail
    have hpos := hfits.groupCount
    intro g hg
    rw [groupCount_behind hp hc hjoins]
    rcases List.mem_append.mp hg with hg | hg
    · obtain ⟨inner, hinner, rfl⟩ := List.mem_map.mp hg
      have hwidth := hfits.widths inner hinner
      have hmoved : moved (Frame.around c tail).shift inner.1 = inner.1 + (c.groupCount - 1) :=
        moved_of_pos hwidth.1
      dsimp only
      omega
    · have hwidth := hc.widths g hg
      omega

theorem joins_behind (hp : p.Whole) (hc : c.Between) (hjoins : p.Joins c) (hapart : p.Apart q)
    (hq : q.Joins c) : q.Joins (p.behind c tail) where
  numbers := by
    rw [groupCount_behind hp hc hjoins]
    rcases hq.numbers with hcount | hnone
    · exact hapart.numbers.imp_left fun hstop => by omega
    · exact .inr hnone
  names := by
    intro g hg
    have hnew : p.stop.names.lookup g.1 = none := by
      rw [List.lookup_eq_none_iff]
      intro h hh
      simpa using (hapart.names h hh g hg).symm
    change (p.stop.names.map (fun g => (g.1, moved (c.groupCount - 1) g.2)) ++ c.names).lookup g.1 = none
    rw [List.lookup_append, lookup_map_snd, hnew, hq.names g hg]
    rfl

theorem Reaches.get_bind {f : Cursor → Reader α} {v : α} (hf : Reaches (f c) c v d) :
    Reaches (get >>= f) c v d := hf

theorem Reaches.peek_bind {f : Option Token → Reader α} {v : α}
    (hf : Reaches (f (firstToken c.rest)) c v d) : Reaches (peek >>= f) c v d :=
  Reaches.bind (.inr run_peek) hf

theorem Reaches.next_bind {t : Token} {f : Option Token → Reader α} {v : α}
    (h : firstToken c.rest = some t) (hrest : (c.pass t).rest ≠ ['\\'])
    (hf : Reaches (f (some t)) (c.pass t) v d) : Reaches (next >>= f) c v d :=
  Reaches.bind (.inr ((run_next_eq_ok h).mpr ⟨rfl, rfl, hrest⟩)) hf

/-- Parentheses are opened that are no group. -/
theorem run_opening {more : List Char} (h : c.rest = '?' :: ':' :: more) (hmore : more ≠ ['\\']) :
    (opening opened).run c = .ok (.plain [] [], { c with rest := more, position := c.position + 2 }) := by
  obtain ⟨rest, position, flags, groupCount, names, widths, outside, awaited⟩ := c
  subst h
  rw [opening, run_accept_bind rfl (by simp [Cursor.pass, Token.text])]
  change (next >>= _).run _ = _
  rw [run_next_bind (t := .plain ':') rfl (by simpa [Cursor.pass, Token.text] using hmore)]
  rfl

theorem rest_ne_of_closed : text ++ ')' :: tail ≠ ['\\'] := by
  intro h
  have hmem : ')' ∈ ['\\'] := h ▸ List.mem_append_right text List.mem_cons_self
  exact absurd hmem (by decide)

theorem run_close (h : firstToken c.rest = some (.plain ')'))
    (hrest : (c.pass (.plain ')')).rest ≠ ['\\']) :
    (close opened).run c = .ok ((), c.pass (.plain ')')) := by
  rw [close, run_accept_bind h hrest]
  rfl

theorem reaches_parenthesized (hp : p.Whole) (hc : c.Between) (hjoins : p.Joins c)
    (hfuel : 3 * p.text.length + 4 ≤ fuel) (htail : tail ≠ ['\\']) :
    Reaches (parenthesized ⟨false, true, first, nestingRoom⟩ opened (.plain [] []) (fuel + 1))
      { c with rest := p.text ++ ')' :: tail, position := c.position + 3 } (p.node c)
      (p.behind c tail) := by
  obtain ⟨-, -, hbody⟩ := hp.read_around hc hjoins tail (nestingRoom - groupRoom) hfuel
  have hrest : ((Frame.around c tail).embed p.stop).rest = ')' :: tail := by
    simp [Frame.embed, Frame.around, hp.rest]
  have hclose : (close opened).run ((Frame.around c tail).embed p.stop) = .ok ((), p.behind c tail) := by
    refine run_close (by rw [hrest]; rfl) ?_
    simpa [Cursor.pass, Token.text, hrest] using htail
  have hwhole : Reaches (do
      let body ← alternatives ⟨false, false, false, nestingRoom - groupRoom⟩ [] fuel
      close opened
      return .group none [] [] body)
      ((Frame.around c tail).embed (.start p.text)) (p.node c) (p.behind c tail) :=
    hbody.bind (Reaches.bind (.inr hclose) (.inr rfl))
  rw [embed_start hc] at hwhole
  exact hwhole

/-- A text in parentheses that are no group, with what follows them. -/
def wrapped (text tail : List Char) : List Char := '(' :: '?' :: ':' :: (text ++ ')' :: tail)

theorem reaches_sequence (hp : p.Whole) (hc : c.Between) (hjoins : p.Joins c)
    (hfuel : 3 * p.text.length + 4 ≤ fuel) (hrest : c.rest = wrapped p.text tail)
    (htail : tail = [] ∨ ∃ more, tail = '|' :: more) :
    Reaches (sequence ⟨false, true, first, nestingRoom⟩ [] (fuel + 2)) c [p.node c]
      (p.behind c tail) := by
  have hfirst : firstToken c.rest = some (.plain '(') := by rw [hrest]; rfl
  have hpassed : (c.pass (.plain '(')).rest = '?' :: ':' :: (p.text ++ ')' :: tail) := by
    simp [Cursor.pass, hrest, wrapped, Token.text]
  have hmarked : (c.pass (.plain '(')).rest ≠ ['\\'] := by simp [hpassed]
  have hclosed : tail ≠ ['\\'] := by rcases htail with rfl | ⟨more, rfl⟩ <;> simp
  refine Reaches.peek_bind ?_
  rw [hfirst]
  refine Reaches.get_bind (Reaches.next_bind hfirst hmarked ?_)
  refine Reaches.bind (.inr (run_opening hpassed rest_ne_of_closed)) ?_
  refine Reaches.bind (reaches_parenthesized hp hc hjoins hfuel hclosed) ?_
  refine Reaches.peek_bind ?_
  rw [rest_behind hp]
  rcases htail with rfl | ⟨more, rfl⟩ <;> exact .inr rfl

end Part

/-- The text with one alternative for each text. -/
def joined : List (List Char) → List Char
  | [] => []
  | [text] => wrapped text []
  | text :: rest => wrapped text ('|' :: joined rest)

theorem joined_ne (texts : List (List Char)) : joined texts ≠ ['\\'] := by
  match texts with
  | [] => nofun
  | [text] => simp [joined, wrapped]
  | text :: next :: rest => simp [joined, wrapped]

/-- What the joined texts are read as behind `k` groups. -/
def joinedNodes : Nat → List Part → List Node
  | _, [] => []
  | k, p :: rest =>
    .group none [] [] (shiftAll k p.body) :: joinedNodes (k + (p.stop.groupCount - 1)) rest

/-- Texts that can be joined at `c`. -/
structure Joinable (ps : List Part) (c : Cursor) : Prop where
  whole : ∀ p ∈ ps, p.Whole
  apart : ps.Pairwise Part.Apart
  joins : ∀ p ∈ ps, p.Joins c
  between : c.Between

section Joinable

variable {p : Part} {ps : List Part} {fuel : Nat}

theorem Joinable.behind (h : Joinable (p :: ps) c) : Joinable ps (p.behind c tail) := by
  have hp := h.whole p List.mem_cons_self
  have hjoins := h.joins p List.mem_cons_self
  obtain ⟨hapart, hrest⟩ := List.pairwise_cons.mp h.apart
  refine ⟨fun q hq => h.whole q (List.mem_cons_of_mem p hq), hrest, fun q hq => ?_,
    between_behind hp h.between hjoins⟩
  exact joins_behind hp h.between hjoins (hapart q hq) (h.joins q (List.mem_cons_of_mem p hq))

theorem Joinable.pass (h : Joinable ps c) (t : Token) : Joinable ps (c.pass t) where
  whole := h.whole
  apart := h.apart
  joins p hp := ⟨(h.joins p hp).numbers, (h.joins p hp).names⟩
  between := ⟨h.between.flags, h.between.awaited, h.between.outside, h.between.groupCount, h.between.widths⟩

theorem joinedNodes_behind (h : Joinable (p :: ps) c) (tail : List Char) :
    joinedNodes (c.groupCount - 1) (p :: ps) =
      p.node c :: joinedNodes ((p.behind c tail).groupCount - 1) ps := by
  have hp := h.whole p List.mem_cons_self
  have hjoins := h.joins p List.mem_cons_self
  have hpos := (hp.fits h.between hjoins tail).groupCount
  have hcount : c.groupCount - 1 + (p.stop.groupCount - 1) = (p.behind c tail).groupCount - 1 := by
    rw [groupCount_behind hp h.between hjoins]
    omega
  rw [joinedNodes, hcount]
  rfl

theorem length_wrapped : (wrapped text tail).length = text.length + tail.length + 4 := by
  simp [wrapped]
  omega

/-- The alternatives are read one by one. -/
theorem reaches_alternatives (read : List (List Node)) (first : Bool) (h : Joinable (p :: ps) c)
    (hrest : c.rest = joined ((p :: ps).map Part.text)) (hfuel : 3 * c.rest.length + 4 ≤ fuel) :
    ∃ d, d.rest = [] ∧ d.Between ∧
      Reaches (alternatives ⟨false, true, first, nestingRoom⟩ read fuel) c
        (Node.choice (read ++ (joinedNodes (c.groupCount - 1) (p :: ps)).map fun n => [n])) d := by
  obtain ⟨fuel, rfl⟩ : ∃ n, fuel = n + 3 := ⟨fuel - 3, by omega⟩
  -- Every text is one turn, which moves on behind its groups and its bar.
  induction ps generalizing p c read fuel first with
  | nil =>
    have hp := h.whole p List.mem_cons_self
    have hjoins := h.joins p List.mem_cons_self
    have hlength := congrArg List.length hrest
    rw [List.map_singleton, joined, length_wrapped] at hlength
    refine ⟨p.behind c [], rest_behind hp, between_behind hp h.between hjoins, ?_⟩
    refine Reaches.bind (reaches_sequence hp h.between hjoins (by omega) hrest (.inl rfl)) ?_
    refine Reaches.bind (.inr (run_accept_of_nil (rest_behind hp))) ?_
    rw [joinedNodes_behind h []]
    exact .inr rfl
  | cons q ps ih =>
    have hp := h.whole p List.mem_cons_self
    have hjoins := h.joins p List.mem_cons_self
    obtain ⟨tail, htail⟩ : ∃ tail, tail = joined ((q :: ps).map Part.text) := ⟨_, rfl⟩
    have hrest' : c.rest = wrapped p.text ('|' :: tail) := by rw [hrest, htail]; rfl
    have hlength := congrArg List.length hrest'
    rw [length_wrapped, List.length_cons] at hlength
    obtain ⟨fuel, rfl⟩ : ∃ n, fuel = n + 1 := ⟨fuel - 1, by omega⟩
    let c' := (p.behind c ('|' :: tail)).pass (.plain '|')
    have hbehind : (p.behind c ('|' :: tail)).rest = '|' :: tail := rest_behind hp
    have hfirst : firstToken (p.behind c ('|' :: tail)).rest = some (.plain '|') := by
      rw [hbehind]
      rfl
    have hpassed : c'.rest = tail := by simp [c', Cursor.pass, hbehind, Token.text]
    have hverbose : isVerbose.run c' = .ok (false, c') := by
      change Except.ok (p.stop.flags.contains .verbose, c') = _
      rw [hp.flags]
      rfl
    obtain ⟨d, hd, hbetween, hreaches⟩ := ih (read ++ [[p.node c]]) first
      (h.behind.pass (.plain '|')) (hpassed.trans htail) fuel (by rw [hpassed]; omega)
    refine ⟨d, hd, hbetween, ?_⟩
    refine Reaches.bind (reaches_sequence hp h.between hjoins (by omega) hrest' (.inr ⟨_, rfl⟩)) ?_
    refine Reaches.bind (.inr (run_accept hfirst ?_)) (Reaches.bind (.inr hverbose) ?_)
    · rw [hpassed, htail]
      exact joined_ne _
    rw [List.append_assoc] at hreaches
    rw [joinedNodes_behind h ('|' :: tail)]
    exact hreaches

end Joinable

end Overloads.Pattern
