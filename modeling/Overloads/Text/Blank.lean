import Overloads.Text.Ranges

/-! White space and trimming. -/
namespace Overloads.Text

/-- Where the white-space characters of Unicode and the four ASCII separators begin and end. -/
def blankPoints : List Nat := [
  9, 14, 28, 33, 133, 134, 160, 161, 5760, 5761, 8192, 8203, 8232, 8234, 8239, 8240, 8287, 8288,
  12288, 12289]

def isBlank (c : Char) : Bool := inside blankPoints c.toNat

/-- Drops the characters at the end that satisfy `p`. -/
def dropRightWhile (p : Char → Bool) (s : List Char) : List Char :=
  (s.reverse.dropWhile p).reverse

/-- The text without white space at its two ends. -/
def trimmed (s : List Char) : List Char := dropRightWhile isBlank (s.dropWhile isBlank)

/-- White space without the four ASCII separators. -/
def isSpace (c : Char) : Bool := isBlank c && !(28 ≤ c.toNat && c.toNat < 32)

/-- The text without such white space at its two ends. -/
def stripped (s : List Char) : List Char := dropRightWhile isSpace (s.dropWhile isSpace)

def trim (s : String) : String := String.ofList (trimmed s.toList)

theorem dropRightWhile_append {p : Char → Bool} {s after : List Char} (h : ∀ c ∈ after, p c) :
    dropRightWhile p (s ++ after) = dropRightWhile p s := by
  rw [dropRightWhile, dropRightWhile, List.reverse_append,
    List.dropWhile_append_of_pos fun c hc => h c (List.mem_reverse.mp hc)]

theorem trimmed_append {before s after : List Char} (hbefore : ∀ c ∈ before, isBlank c)
    (hafter : ∀ c ∈ after, isBlank c) : trimmed (before ++ s ++ after) = trimmed s := by
  rw [trimmed, List.append_assoc, List.dropWhile_append_of_pos hbefore, List.dropWhile_append]
  split
  next hempty =>
    have hnone : after.dropWhile isBlank = [] := by
      rw [← List.append_nil after, List.dropWhile_append_of_pos hafter, List.dropWhile_nil]
    rw [hnone, trimmed, List.isEmpty_iff.mp hempty]
  next => exact dropRightWhile_append hafter

/-- A text with no white space at its two ends stays as it is. -/
theorem trim_of_edges {s : String} (hhead : ∀ c ∈ s.toList.head?, isBlank c = false)
    (hlast : ∀ c ∈ s.toList.getLast?, isBlank c = false) : trim s = s := by
  have hkeeps {cs : List Char} (h : ∀ c ∈ cs.head?, isBlank c = false) :
      cs.dropWhile isBlank = cs := by
    cases cs with
    | nil => rfl
    | cons c rest => exact List.dropWhile_cons_of_neg (by simp [h c rfl])
  rw [← List.head?_reverse] at hlast
  rw [trim, trimmed, dropRightWhile, hkeeps hhead, hkeeps hlast, List.reverse_reverse,
    String.ofList_toList]

/-- White space around a text makes no difference once it is trimmed. -/
theorem trim_append {before s after : String} (hbefore : ∀ c ∈ before.toList, isBlank c)
    (hafter : ∀ c ∈ after.toList, isBlank c) : trim (before ++ s ++ after) = trim s := by
  simp only [trim, String.toList_append, trimmed_append hbefore hafter]

end Overloads.Text
