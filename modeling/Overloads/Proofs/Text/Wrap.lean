import Mathlib.Data.List.Flatten
import Overloads.Text.Wrap

/-! Broken text keeps to its width and loses nothing but blanks. -/
namespace Overloads.Text

variable {m : Margins} {room fuel : Nat} {started : Bool} {cs : List (List Char)}
variable {s t line : List Char}

/-- What is left of a text without its blanks. -/
def inked (s : List Char) : List Char := s.filter (!isBlank ·)

@[simp] theorem inked_append (s t : List Char) : inked (s ++ t) = inked s ++ inked t :=
  List.filter_append s t

theorem inked_cons_of_blank {c : Char} (h : isBlank c = true) (s : List Char) :
    inked (c :: s) = inked s :=
  List.filter_cons_of_neg (by simp [h])

theorem inked_cons_congr (c : Char) (h : inked s = inked t) : inked (c :: s) = inked (c :: t) := by
  rw [← List.singleton_append, inked_append, h, ← inked_append, List.singleton_append]

theorem inked_of_blank (h : ∀ c ∈ s, isBlank c = true) : inked s = [] :=
  List.filter_eq_nil_iff.mpr fun c hc => by simp [h c hc]

@[simp] theorem inked_spaces (n : Nat) : inked (List.replicate n ' ') = [] := by
  apply inked_of_blank
  intro c hc
  obtain rfl := List.eq_of_mem_replicate hc
  decide

/-! ### Plain spaces for all breaks -/

theorem isBlank_of_isBreak {c : Char} (h : isBreak c = true) : isBlank c = true := by
  simp only [isBreak, Bool.or_eq_true, Bool.and_eq_true, decide_eq_true_eq] at h
  rcases h with rfl | ⟨hfrom, hto⟩
  · decide
  · have hfirst : ¬ c.toNat < 9 := by omega
    have hsecond : c.toNat < 14 := by omega
    simp [isBlank, inside, insideFrom, blankPoints, hfirst, hsecond]

theorem inked_withoutTabs (size column : Nat) (s : List Char) :
    inked (withoutTabs size column s) = inked s := by
  induction s generalizing column with
  | nil => rfl
  | cons c rest ih =>
    by_cases htab : c = '\t'
    · subst htab
      simp only [withoutTabs, if_true, inked_append, inked_spaces, List.nil_append, ih]
      exact (inked_cons_of_blank (by decide) rest).symm
    · simp only [withoutTabs, htab, if_false]
      exact inked_cons_congr c (ih _)

theorem inked_spaced (s : List Char) : inked (spaced s) = inked s := by
  rw [← inked_withoutTabs 8 0 s, spaced]
  induction withoutTabs 8 0 s with
  | nil => rfl
  | cons c rest ih =>
    by_cases hbreak : isBreak c = true
    · rw [List.map_cons, if_pos hbreak, inked_cons_of_blank (by decide), ih,
        inked_cons_of_blank (isBlank_of_isBreak hbreak)]
    · rw [List.map_cons, if_neg hbreak]
      exact inked_cons_congr c ih

/-- The only break that is left is the space. -/
theorem eq_space_of_mem_spaced {c : Char} (h : c ∈ spaced s) (hbreak : isBreak c = true) :
    c = ' ' := by
  obtain ⟨d, -, rfl⟩ := List.mem_map.mp h
  by_cases hd : isBreak d = true
  · exact if_pos hd
  · rw [if_neg hd] at hbreak
    exact absurd hbreak hd

/-! ### Runs of spaces and words -/

theorem flatten_chunks (s : List Char) : (chunks s).flatten = s := by
  fun_induction chunks s with
  | case1 => rfl
  | case2 c rest d chunk more hrest _ ih => simpa [hrest] using ih
  | case3 c rest d chunk more hrest _ ih => simpa [hrest] using ih
  | case4 c rest _ ih => simpa using ih

theorem ne_nil_of_mem_chunks (s : List Char) : ∀ c ∈ chunks s, c ≠ [] := by
  fun_induction chunks s with
  | case1 => simp
  | case2 c rest d chunk more hrest _ ih => simp_all
  | case3 c rest d chunk more hrest _ ih => simp_all
  | case4 c rest _ ih => simpa using ih

/-! ### One line -/

theorem fill_append (room : Nat) (cs : List (List Char)) :
    (fill room cs).1 ++ (fill room cs).2 = cs := by
  fun_induction fill room cs with
  | case1 => rfl
  | case2 room c rest hfits taken left hfill ih => simpa [hfill] using ih
  | case3 => rfl

theorem totalLength_fill_le (room : Nat) (cs : List (List Char)) :
    totalLength (fill room cs).1 ≤ room := by
  fun_induction fill room cs with
  | case1 => simp [totalLength]
  | case2 room c rest hfits taken left hfill ih =>
    rw [hfill] at ih
    simp only [totalLength, List.flatten_cons, List.length_append] at ih ⊢
    omega
  | case3 => simp [totalLength]

/-- A chunk that does not fit is where the line ends. -/
theorem fill_nil_of_not_fits {c : List Char} (h : room < c.length) (rest : List (List Char)) :
    fill room (c :: rest) = ([], c :: rest) := by
  rw [fill, if_neg (Nat.not_le.mpr h)]

theorem fill_cons_of_fits {c : List Char} (h : c.length ≤ room) (rest : List (List Char)) :
    ∃ more, (fill room (c :: rest)).1 = c :: more := by
  rw [fill, if_pos h]
  exact ⟨_, rfl⟩

/-- That a line and what is left are made of some chunks, in order, and that the line fits. -/
structure Parts (room : Nat) (cs : List (List Char)) (parts : List (List Char) × List (List Char)) :
    Prop where
  whole : parts.1.flatten ++ parts.2.flatten = cs.flatten
  fits : totalLength parts.1 ≤ room
  /-- Chunks that are not empty leave none that is. -/
  filled : (∀ c ∈ cs, c ≠ []) → ∀ c ∈ parts.2, c ≠ []

theorem parts_fill (room : Nat) (cs : List (List Char)) : Parts room cs (fill room cs) where
  whole := by rw [← List.flatten_append, fill_append]
  fits := totalLength_fill_le room cs
  filled h c hc := h c (fill_append room cs ▸ List.mem_append_right _ hc)

/-- A word that is cut gives its beginning to the line. -/
theorem Parts.cut {taken left : List (List Char)} {c : List Char} (h : Parts room cs (taken, c :: left))
    (hlong : room < c.length) :
    Parts room cs (taken ++ [c.take (room - totalLength taken)],
      c.drop (room - totalLength taken) :: left) where
  whole := by
    have hcut := List.take_append_drop (room - totalLength taken) c
    rw [← h.whole, List.flatten_append, List.flatten_singleton, List.flatten_cons, List.flatten_cons,
      List.append_assoc, ← List.append_assoc (List.take _ c), hcut]
  fits := by
    have hfits := h.fits
    simp only [totalLength, List.flatten_append, List.flatten_singleton, List.length_append,
      List.length_take] at hfits ⊢
    omega
  filled hcs d hd := by
    rcases List.mem_cons.mp hd with rfl | hd
    · rw [Ne, List.drop_eq_nil_iff]
      omega
    · exact h.filled hcs d (List.mem_cons_of_mem c hd)

theorem parts_takeLine (room : Nat) (cs : List (List Char)) : Parts room cs (takeLine room cs) := by
  have hfill := parts_fill room cs
  unfold takeLine
  split
  next taken hparts => exact hparts ▸ hfill
  next taken c left hparts =>
    rw [hparts] at hfill
    split
    next hlong => exact hfill.cut hlong
    next => exact hfill

/-- Where there is room, something goes on the line. -/
theorem takeLine_ne_nil (hroom : 0 < room) (hcs : cs ≠ []) (hfilled : ∀ c ∈ cs, c ≠ []) :
    (takeLine room cs).1.flatten ≠ [] := by
  obtain ⟨c, rest, rfl⟩ := List.exists_cons_of_ne_nil hcs
  have hc : c ≠ [] := hfilled c List.mem_cons_self
  rcases Nat.lt_or_ge room c.length with hlong | hfits
  · have hline : (takeLine room (c :: rest)).1 = [c.take room] := by
      simp [takeLine, fill_nil_of_not_fits hlong, hlong, totalLength]
    rw [hline, List.flatten_singleton, Ne, List.take_eq_nil_iff]
    rintro (hnone | hempty)
    · exact absurd hnone (Nat.ne_of_gt hroom)
    · exact hc hempty
  · obtain ⟨more, hmore⟩ := fill_cons_of_fits hfits rest
    unfold takeLine
    split
    next taken hparts =>
      obtain rfl : taken = c :: more := by rw [← hmore, hparts]
      simp [hc]
    next taken d left hparts =>
      obtain rfl : taken = c :: more := by rw [← hmore, hparts]
      split <;> simp [hc]

/-! ### Blanks at the ends of a line -/

theorem inked_of_isBlankChunk {c : List Char} (h : isBlankChunk c = true) : inked c = [] :=
  inked_of_blank fun x hx => List.all_eq_true.mp h x hx

theorem inked_dropFirstBlank (cs : List (List Char)) :
    inked (dropFirstBlank cs).flatten = inked cs.flatten := by
  cases cs with
  | nil => rfl
  | cons c rest =>
    by_cases hblank : isBlankChunk c = true
    · simp [dropFirstBlank, hblank, inked_of_isBlankChunk hblank]
    · simp [dropFirstBlank, hblank]

theorem dropFirstBlank_suffix (cs : List (List Char)) : dropFirstBlank cs <:+ cs := by
  fun_cases dropFirstBlank cs with
  | case1 c rest _ => exact List.suffix_cons c rest
  | case2 c rest _ => exact List.suffix_refl _
  | case3 => exact List.suffix_refl _

/-- Of the chunks on a line the last goes away if it is blank. -/
theorem dropLastBlank_cases (cs : List (List Char)) :
    dropLastBlank cs = cs ∨ ∃ c, isBlankChunk c = true ∧ cs = dropLastBlank cs ++ [c] := by
  fun_cases dropLastBlank cs with
  | case1 c hlast hblank =>
    obtain ⟨front, rfl⟩ := List.getLast?_eq_some_iff.mp hlast
    exact .inr ⟨c, hblank, by rw [List.dropLast_concat]⟩
  | case2 c hlast hblank => exact .inl rfl
  | case3 hlast => exact .inl rfl

theorem inked_dropLastBlank (cs : List (List Char)) :
    inked (dropLastBlank cs).flatten = inked cs.flatten := by
  rcases dropLastBlank_cases cs with hsame | ⟨c, hblank, hcs⟩
  · rw [hsame]
  · rw [congrArg List.flatten hcs, List.flatten_append, List.flatten_singleton, inked_append,
      inked_of_isBlankChunk hblank, List.append_nil]

theorem dropLastBlank_front (cs : List (List Char)) : dropLastBlank cs <+: cs := by
  rcases dropLastBlank_cases cs with hsame | ⟨c, -, hcs⟩
  · exact ⟨[], by rw [List.append_nil, hsame]⟩
  · exact ⟨[c], hcs.symm⟩

/-! ### All lines -/

def Margins.of (m : Margins) (started : Bool) : Nat := if started then m.later else m.first

/-- The chunks that a line is filled from. -/
def offered (started : Bool) (cs : List (List Char)) : List (List Char) :=
  if started then dropFirstBlank cs else cs

theorem offered_suffix (started : Bool) (cs : List (List Char)) : offered started cs <:+ cs := by
  unfold offered
  split
  · exact dropFirstBlank_suffix cs
  · exact List.suffix_refl cs

theorem inked_offered (started : Bool) (cs : List (List Char)) :
    inked (offered started cs).flatten = inked cs.flatten := by
  unfold offered
  split
  · exact inked_dropFirstBlank cs
  · rfl

/-- The chunks on the next line, and those that are left for the lines behind it. -/
def nextLine (room : Nat) (started : Bool) (cs : List (List Char)) :
    List (List Char) × List (List Char) :=
  let parts := takeLine room (offered started cs)
  (dropLastBlank parts.1, parts.2)

/-- The next line, which is left out where nothing is on it, and then those for what is left. -/
theorem wrapChunks_succ (m : Margins) (fuel : Nat) (started : Bool) (hcs : cs ≠ []) :
    wrapChunks m (fuel + 1) started cs =
      let next := nextLine (m.width - m.of started) started cs
      if next.1 = [] then wrapChunks m fuel started next.2
      else (List.replicate (m.of started) ' ' ++ next.1.flatten) ::
        wrapChunks m fuel true next.2 := by
  rw [wrapChunks, if_neg (by simpa using hcs)]
  rfl

theorem length_nextLine_le (room : Nat) (started : Bool) (cs : List (List Char)) :
    (nextLine room started cs).1.flatten.length ≤ room := by
  have hline := (dropLastBlank_front (takeLine room (offered started cs)).1).sublist.flatten
  exact Nat.le_trans hline.length_le (parts_takeLine room (offered started cs)).fits

theorem nextLine_sublist (room : Nat) (started : Bool) (cs : List (List Char)) :
    ((nextLine room started cs).1.flatten ++ (nextLine room started cs).2.flatten).Sublist
      cs.flatten := by
  have hline := (dropLastBlank_front (takeLine room (offered started cs)).1).sublist.flatten
  have hwhole := (parts_takeLine room (offered started cs)).whole
  have hoffered := (offered_suffix started cs).sublist.flatten
  rw [← hwhole] at hoffered
  exact (hline.append_right _).trans hoffered

theorem inked_nextLine (room : Nat) (started : Bool) (cs : List (List Char)) :
    inked (nextLine room started cs).1.flatten ++ inked (nextLine room started cs).2.flatten =
      inked cs.flatten := by
  rw [← inked_offered started cs, ← (parts_takeLine room (offered started cs)).whole, inked_append]
  exact congrArg (· ++ _) (inked_dropLastBlank _)

theorem nextLine_filled (hfilled : ∀ c ∈ cs, c ≠ []) :
    ∀ c ∈ (nextLine room started cs).2, c ≠ [] := by
  apply (parts_takeLine room (offered started cs)).filled
  intro c hc
  exact hfilled c ((offered_suffix started cs).subset hc)

/-- Less is left than there was. -/
theorem length_left_lt (started : Bool) (hroom : 0 < room) (hcs : cs ≠ [])
    (hfilled : ∀ c ∈ cs, c ≠ []) :
    (nextLine room started cs).2.flatten.length < cs.flatten.length := by
  have hwhole := (parts_takeLine room (offered started cs)).whole
  have hoffered := offered_suffix started cs
  by_cases hnone : offered started cs = []
  · have hleft : (nextLine room started cs).2.flatten = [] := by
      rw [hnone] at hwhole
      rw [nextLine, hnone]
      exact (List.append_eq_nil_iff.mp hwhole).2
    obtain ⟨c, rest, rfl⟩ := List.exists_cons_of_ne_nil hcs
    have hc := List.length_pos_iff.mpr (hfilled c List.mem_cons_self)
    simp only [hleft, List.length_nil, List.flatten_cons, List.length_append]
    omega
  · have htaken := takeLine_ne_nil hroom hnone fun c hc => hfilled c (hoffered.subset hc)
    have hpositive := List.length_pos_iff.mpr htaken
    have hlength := congrArg List.length hwhole
    have hle := hoffered.sublist.flatten.length_le
    rw [List.length_append] at hlength
    change (takeLine room (offered started cs)).2.flatten.length < cs.flatten.length
    omega

/-- No line is longer than the width. -/
theorem length_le_of_mem_wrapChunks (hm : ∀ started, m.of started ≤ m.width)
    (h : line ∈ wrapChunks m fuel started cs) : line.length ≤ m.width := by
  induction fuel generalizing started cs with
  | zero => simp [wrapChunks] at h
  | succ fuel ih =>
    by_cases hcs : cs = []
    · simp [wrapChunks, hcs] at h
    · rw [wrapChunks_succ m fuel started hcs] at h
      dsimp only at h
      split at h
      next => exact ih h
      next =>
        rcases List.mem_cons.mp h with rfl | h
        · have hfits := length_nextLine_le (m.width - m.of started) started cs
          have hmargin := hm started
          rw [List.length_append, List.length_replicate]
          omega
        · exact ih h

/-- On the lines there are the characters of the chunks, and spaces. -/
theorem mem_of_mem_wrapChunks {x : Char} (h : line ∈ wrapChunks m fuel started cs) (hx : x ∈ line) :
    x = ' ' ∨ x ∈ cs.flatten := by
  induction fuel generalizing started cs with
  | zero => simp [wrapChunks] at h
  | succ fuel ih =>
    by_cases hcs : cs = []
    · simp [wrapChunks, hcs] at h
    · rw [wrapChunks_succ m fuel started hcs] at h
      have hsublist := nextLine_sublist (m.width - m.of started) started cs
      have hleft (hmem : x ∈ (nextLine (m.width - m.of started) started cs).2.flatten) :
          x ∈ cs.flatten := hsublist.subset (List.mem_append_right _ hmem)
      dsimp only at h
      split at h
      next => exact (ih h).imp_right hleft
      next =>
        rcases List.mem_cons.mp h with rfl | h
        · rcases List.mem_append.mp hx with hmargin | hline
          · exact .inl (List.eq_of_mem_replicate hmargin)
          · exact .inr (hsublist.subset (List.mem_append_left _ hline))
        · exact (ih h).imp_right hleft

/-- Nothing but blanks goes away, if the margins leave room and there may be enough lines. -/
theorem inked_wrapChunks (hm : ∀ started, m.of started < m.width) (hfilled : ∀ c ∈ cs, c ≠ [])
    (hfuel : cs.flatten.length < fuel) :
    inked (wrapChunks m fuel started cs).flatten = inked cs.flatten := by
  induction fuel generalizing started cs with
  | zero => omega
  | succ fuel ih =>
    by_cases hcs : cs = []
    · simp [wrapChunks, hcs]
    · have hroom : 0 < m.width - m.of started := Nat.sub_pos_of_lt (hm started)
      have hshorter := length_left_lt started hroom hcs hfilled
      have hleft (started' : Bool) :
          inked (wrapChunks m fuel started' (nextLine (m.width - m.of started) started cs).2).flatten =
            inked (nextLine (m.width - m.of started) started cs).2.flatten :=
        ih (nextLine_filled hfilled) (by omega)
      have hwhole := inked_nextLine (m.width - m.of started) started cs
      rw [wrapChunks_succ m fuel started hcs]
      dsimp only
      split
      next hnothing =>
        rw [hleft, ← hwhole, hnothing]
        rfl
      next =>
        rw [List.flatten_cons, inked_append, inked_append, inked_spaces, List.nil_append, hleft,
          hwhole]

/-! ### A whole text -/

theorem length_le_of_mem_wrap (hm : ∀ started, m.of started ≤ m.width) (h : line ∈ wrap m s) :
    line.length ≤ m.width :=
  length_le_of_mem_wrapChunks hm h

/-- No line has a break on it but spaces. -/
theorem eq_space_of_mem_wrap {x : Char} (h : line ∈ wrap m s) (hx : x ∈ line)
    (hbreak : isBreak x = true) : x = ' ' := by
  rcases mem_of_mem_wrapChunks h hx with hspace | hmem
  · exact hspace
  · rw [flatten_chunks] at hmem
    exact eq_space_of_mem_spaced hmem hbreak

/-- But for blanks the lines together are the text. -/
theorem inked_wrap (hm : ∀ started, m.of started < m.width) (s : List Char) :
    inked (wrap m s).flatten = inked s := by
  rw [wrap, inked_wrapChunks hm (ne_nil_of_mem_chunks _) (by rw [flatten_chunks]; omega),
    flatten_chunks, inked_spaced]

end Overloads.Text
