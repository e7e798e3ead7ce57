import Overloads.Text.Lines

/-! The lines of a text that is put together. -/
namespace Overloads.Text

variable {c : Char} {s t l front : List Char} {ls : List (List Char)}

/-- Puts a text in front of the first line. -/
def addFront (front : List Char) : List (List Char) → List (List Char)
  | [] => [front]
  | l :: ls => (front ++ l) :: ls

theorem addFront_append (ls ms : List (List Char)) (hls : ls ≠ []) :
    addFront front (ls ++ ms) = addFront front ls ++ ms := by
  cases ls with
  | nil => exact absurd rfl hls
  | cons l ls => rfl

theorem addFront_addFront (s t : List Char) (ls : List (List Char)) :
    addFront s (addFront t ls) = addFront (s ++ t) ls := by
  cases ls <;> simp [addFront]

/-- A carriage return together with a line feed behind it is set apart. -/
theorem splitLines_cons_end (h : isLineEnd c = true) (hpair : c = '\r' → t.head? ≠ some '\n') :
    splitLines (c :: t) = [] :: splitLines t := by
  rw [splitLines]
  · exact if_pos h
  · rintro rest rfl rfl
    exact hpair rfl rfl

theorem splitLines_cons_of_not_end (h : isLineEnd c = false) (t : List Char) :
    splitLines (c :: t) = addFront [c] (splitLines t) := by
  rw [splitLines]
  · simp only [h, Bool.false_eq_true, if_false]
    rfl
  · rintro rest rfl
    exact absurd h (by decide)

theorem splitLines_pair (t : List Char) : splitLines ('\r' :: '\n' :: t) = [] :: splitLines t := by
  rw [splitLines]

theorem splitLines_cons_feed (t : List Char) : splitLines ('\n' :: t) = [] :: splitLines t :=
  splitLines_cons_end (by decide) fun h => absurd h (by decide)

/-- A text is empty or begins with a pair, with another end of a line, or with another character. -/
@[elab_as_elim]
theorem lines_induction {P : List Char → Prop} (nil : P [])
    (pair : ∀ rest, P rest → P ('\r' :: '\n' :: rest))
    (lineEnd : ∀ c rest, isLineEnd c = true → (c = '\r' → rest.head? ≠ some '\n') → P rest →
      P (c :: rest))
    (other : ∀ c rest, isLineEnd c = false → P rest → P (c :: rest)) (s : List Char) : P s := by
  fun_induction splitLines s with
  | case1 => exact nil
  | case2 rest ih => exact pair rest ih
  | case3 c rest hpair hend ih =>
    apply lineEnd c rest hend _ ih
    rintro rfl hhead
    obtain ⟨more, rfl⟩ := List.head?_eq_some_iff.mp hhead
    exact hpair more rfl rfl
  | case4 c rest _ hend _ ih => exact other c rest (Bool.not_eq_true _ ▸ hend) ih
  | case5 c rest _ hend _ _ _ ih => exact other c rest (Bool.not_eq_true _ ▸ hend) ih

/-- Text without line ends stays together, at the front of the first line. -/
theorem splitLines_append_of_not_end (hs : ∀ c ∈ s, isLineEnd c = false) (hne : s ≠ [])
    (t : List Char) : splitLines (s ++ t) = addFront s (splitLines t) := by
  induction s with
  | nil => exact absurd rfl hne
  | cons c rest ih =>
    rw [List.cons_append, splitLines_cons_of_not_end (hs c List.mem_cons_self)]
    cases rest with
    | nil => rfl
    | cons d rest =>
      rw [ih (fun x hx => hs x (List.mem_cons_of_mem c hx)) (List.cons_ne_nil d rest),
        addFront_addFront]
      rfl

theorem splitLines_ne_nil (hs : s ≠ []) : splitLines s ≠ [] := by
  induction s using lines_induction with
  | nil => exact absurd rfl hs
  | pair rest _ => simp [splitLines_pair]
  | lineEnd c rest hend hpair _ => simp [splitLines_cons_end hend hpair]
  | other c rest hend _ =>
    rw [splitLines_cons_of_not_end hend]
    cases splitLines rest <;> simp [addFront]

/-- A line feed parts a text. -/
theorem splitLines_feed (s t : List Char) :
    splitLines (s ++ '\n' :: t) = splitLines (s ++ ['\n']) ++ splitLines t := by
  induction s using lines_induction with
  | nil => rw [List.nil_append, List.nil_append, splitLines_cons_feed, splitLines_cons_feed]; rfl
  | pair rest ih => simpa [splitLines_pair] using ih
  | lineEnd c rest hend hpair ih =>
    cases rest with
    | nil =>
      -- The end that stands before the line feed may make one end with it.
      by_cases hreturn : c = '\r'
      · subst hreturn
        rfl
      · have hsingle (t : List Char) : splitLines (c :: t) = [] :: splitLines t :=
          splitLines_cons_end hend fun h => absurd h hreturn
        simp only [List.nil_append, List.cons_append, hsingle, splitLines_cons_feed]
        rfl
    | cons d rest =>
      have hmore (t : List Char) :
          splitLines (c :: d :: rest ++ t) = [] :: splitLines (d :: rest ++ t) :=
        splitLines_cons_end hend hpair
      rw [hmore, hmore, ih]
      rfl
  | other c rest hend ih =>
    have hmore (t : List Char) :
        splitLines (c :: rest ++ t) = addFront [c] (splitLines (rest ++ t)) :=
      splitLines_cons_of_not_end hend _
    rw [hmore, hmore, ih, addFront_append _ _ (splitLines_ne_nil (by simp))]

/-- A line is no longer than what is left of the text without the ends of lines. -/
theorem length_le_of_mem_splitLines (h : l ∈ splitLines s) :
    l.length ≤ (s.filter (!isLineEnd ·)).length := by
  induction s using lines_induction generalizing l with
  | nil => simp [splitLines] at h
  | pair rest ih =>
    rw [splitLines_pair] at h
    rcases List.mem_cons.mp h with rfl | h
    · exact Nat.zero_le _
    · exact Nat.le_trans (ih h) (((List.sublist_cons_self _ _).trans
        (List.sublist_cons_self _ _)).filter _).length_le
  | lineEnd c rest hend hpair ih =>
    rw [splitLines_cons_end hend hpair] at h
    rcases List.mem_cons.mp h with rfl | h
    · exact Nat.zero_le _
    · exact Nat.le_trans (ih h) ((List.sublist_cons_self c rest).filter _).length_le
  | other c rest hend ih =>
    rw [splitLines_cons_of_not_end hend] at h
    have hkept : ((c :: rest).filter (!isLineEnd ·)).length =
        (rest.filter (!isLineEnd ·)).length + 1 := by simp [hend]
    cases hlines : splitLines rest with
    | nil =>
      rw [hlines] at h
      obtain rfl := List.mem_singleton.mp h
      simp [hend]
    | cons first more =>
      rw [hlines] at h ih
      rcases List.mem_cons.mp h with rfl | h
      · have hfirst : first.length ≤ _ := ih List.mem_cons_self
        rw [hkept, List.length_append, List.length_singleton]
        omega
      · have := ih (List.mem_cons_of_mem first h)
        omega

theorem length_le_of_mem_splitLines_feed (h : l ∈ splitLines (s ++ ['\n'])) :
    l.length ≤ s.length := by
  have hle := length_le_of_mem_splitLines h
  have hfilter : (s ++ ['\n']).filter (!isLineEnd ·) = s.filter (!isLineEnd ·) := by
    have hfeed : isLineEnd '\n' = true := by decide
    simp [List.filter_append, hfeed]
  rw [hfilter] at hle
  exact Nat.le_trans hle (List.length_filter_le _ s)

/-- Where lines are put together with line feeds, each is split further at most. -/
theorem length_le_of_mem_splitLines_joined {n : Nat} (hls : ∀ l ∈ ls, l.length ≤ n)
    (h : l ∈ splitLines (['\n'].intercalate ls)) : l.length ≤ n := by
  induction ls with
  | nil => simp [splitLines] at h
  | cons first rest ih =>
    have hfirst := hls first List.mem_cons_self
    cases rest with
    | nil =>
      rw [List.intercalate_singleton] at h
      have hle := length_le_of_mem_splitLines h
      have := List.length_filter_le (!isLineEnd ·) first
      omega
    | cons second rest =>
      rw [List.intercalate_cons_cons, List.append_assoc, List.singleton_append, splitLines_feed] at h
      rcases List.mem_append.mp h with h | h
      · exact Nat.le_trans (length_le_of_mem_splitLines_feed h) hfirst
      · exact ih (fun l hl => hls l (List.mem_cons_of_mem first hl)) h

end Overloads.Text
