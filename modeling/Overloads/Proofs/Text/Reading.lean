import Overloads.Number.Shortest
import Overloads.Text.Identifier

/-! Reading a text from its beginning, and what is read off a text that is put together. -/
namespace Overloads.Text

open Overloads.Number (decimalText)

/-- Takes something off the beginning of a text. -/
abbrev Reader := StateT (List Char) Option

variable {α β : Type} {s : String} {cs rest : List Char} {p : Char → Bool} {n : Nat}

/-- Takes a fixed text off, where it is the beginning. -/
def accepts (s : String) : Reader Bool := fun cs =>
  if s.toList.isPrefixOf cs then some (true, cs.drop s.toList.length) else some (false, cs)

/-- Takes a fixed text off. Another beginning is refused. -/
def expect (s : String) : Reader Unit := do
  if ← accepts s then return else failure

/-- Takes off as many characters of one kind as there are, and at least one. -/
def readRun (p : Char → Bool) : Reader String := fun cs =>
  if (cs.takeWhile p).isEmpty then none else some (.ofList (cs.takeWhile p), cs.dropWhile p)

def readNumber : Reader Nat := do
  let digits ← readRun Char.isDigit
  return Nat.ofDigitChars 10 digits.toList 0

/-- Gives a reader one step for each character that is left, and one for the end. -/
def stepwise (read : Nat → Reader α) : Reader α := fun cs => (read (cs.length + 1)).run cs

/-- Reads something again and again, with a separator between, within so many steps. -/
def readSeparatedIn (separator : String) (read : Reader α) : Nat → Reader (List α)
  | 0 => failure
  | steps + 1 => do
    let a ← read
    if ← accepts separator then return a :: (← readSeparatedIn separator read steps)
    else return [a]

def readSeparated (separator : String) (read : Reader α) : Reader (List α) :=
  stepwise (readSeparatedIn separator read)

@[simp] theorem accepts_append (s : String) (rest : List Char) :
    (accepts s).run (s.toList ++ rest) = some (true, rest) := by
  simp [accepts, StateT.run]

theorem accepts_other (h : s.toList.isPrefixOf cs = false) :
    (accepts s).run cs = some (false, cs) := by
  simp [accepts, StateT.run, h]

@[simp] theorem expect_append (s : String) (rest : List Char) :
    (expect s).run (s.toList ++ rest) = some ((), rest) := by
  simp [expect]

theorem run_bind_of {read : Reader α} {f : α → Reader β} {a : α}
    (h : read.run cs = some (a, rest)) : (read >>= f).run cs = (f a).run rest := by
  simp [h]

theorem run_expect (f : Unit → Reader β) (rest : List Char) :
    (expect s >>= f).run (s.toList ++ rest) = (f ()).run rest := by
  simp

theorem run_accepts (yes no : Reader β) (rest : List Char) :
    (do if ← accepts s then yes else no).run (s.toList ++ rest) = yes.run rest := by
  simp

theorem run_accepts_other (h : s.toList.isPrefixOf cs = false) (yes no : Reader β) :
    (do if ← accepts s then yes else no).run cs = no.run cs := by
  simp [accepts_other h]

/-- What is read with more steps than its text has characters is read. -/
theorem run_stepwise {read : Nat → Reader α} {text left : List Char} {a : α}
    (h : ∀ steps, text.length < steps → (read steps).run (text ++ left) = some (a, rest)) :
    (stepwise read).run (text ++ left) = some (a, rest) := by
  apply h
  simp only [List.length_append]
  omega

/-- That a text does not begin with a character of some kind. -/
def Ends (p : Char → Bool) (rest : List Char) : Prop := ∀ c ∈ rest.head?, p c = false

theorem ends_cons {c : Char} : Ends p (c :: rest) ↔ p c = false := by
  simp [Ends]

theorem ends_append (h : s.toList.head?.any (!p ·) = true) (rest : List Char) :
    Ends p (s.toList ++ rest) := by
  cases hs : s.toList with
  | nil => simp [hs] at h
  | cons c more => simpa [hs, ends_cons] using h

theorem Ends.mono {q : Char → Bool} (h : Ends p rest) (hpq : ∀ c, q c = true → p c = true) :
    Ends q rest := by
  intro c hc
  have hnot := h c hc
  cases hq : q c with
  | false => rfl
  | true => simp [hpq c hq] at hnot

/-- What begins with another character does not begin with a given text. -/
theorem isPrefixOf_of_ends (h : Ends p rest) (hs : s.toList.head?.any p = true) :
    s.toList.isPrefixOf rest = false := by
  cases hlist : s.toList with
  | nil => simp [hlist] at hs
  | cons c more =>
    cases rest with
    | nil => rfl
    | cons d rest =>
      have hc : p c = true := by simpa [hlist] using hs
      have hd : p d = false := ends_cons.mp h
      have hne : c ≠ d := by
        rintro rfl
        simp [hc] at hd
      simp [List.isPrefixOf, hne]

theorem readRun_append (hs : s ≠ "") (hp : ∀ c ∈ s.toList, p c = true) (hrest : Ends p rest) :
    (readRun p).run (s.toList ++ rest) = some (s, rest) := by
  have hstop : rest.takeWhile p = [] ∧ rest.dropWhile p = rest := by
    cases rest with
    | nil => exact ⟨rfl, rfl⟩
    | cons c rest => simp [ends_cons.mp hrest]
  have hne : s.toList ≠ [] := by simpa using hs
  simp [readRun, StateT.run, List.takeWhile_append_of_pos hp, List.dropWhile_append_of_pos hp,
    hstop, hne]

theorem readNumber_append (n : Nat) (hrest : Ends Char.isDigit rest) :
    readNumber.run ((decimalText n).toList ++ rest) = some (n, rest) := by
  have hne : decimalText n ≠ "" := by
    simp [decimalText, Number.decimalDigits, ← String.toList_eq_nil_iff, Nat.toDigits_ne_nil]
  have hdigits : ∀ c ∈ (decimalText n).toList, c.isDigit = true := by
    intro c hc
    simp only [decimalText, String.toList_ofList] at hc
    exact Nat.isDigit_of_mem_toDigits (by decide) (by decide) hc
  have hvalue : Nat.ofDigitChars 10 (decimalText n).toList 0 = n := by
    simp [decimalText, Number.decimalDigits]
  simp [readNumber, readRun_append hne hdigits hrest, hvalue]

theorem exists_intercalate_cons (s t : String) (l : List String) :
    ∃ u, s.intercalate (t :: l) = t ++ u := by
  refine ⟨s.intercalate ("" :: l), ?_⟩
  rw [← String.intercalate_cons_append, String.append_empty]

/-- Items are read back from their texts, if each is and the separators keep them apart. -/
theorem readSeparated_intercalate {read : Reader α} {text : α → String} {l : List α}
    (hread : ∀ a ∈ l, ∀ rest, Ends p rest → read.run ((text a).toList ++ rest) = some (a, rest))
    (hs : ∀ rest, Ends p (s.toList ++ rest)) (hne : s ≠ "") (hl : l ≠ []) (hrest : Ends p rest)
    (hother : s.toList.isPrefixOf rest = false) :
    (readSeparated s read).run ((s.intercalate (l.map text)).toList ++ rest) = some (l, rest) := by
  apply run_stepwise
  intro steps hsteps
  induction l generalizing steps with
  | nil => exact (hl rfl).elim
  | cons a more ih =>
    obtain ⟨steps, rfl⟩ := Nat.exists_eq_add_one.mpr (Nat.zero_lt_of_lt hsteps)
    rw [readSeparatedIn]
    cases more with
    | nil =>
      rw [List.map_singleton, String.intercalate_singleton,
        run_bind_of (hread a List.mem_cons_self rest hrest), run_accepts_other hother]
      rfl
    | cons b more =>
      have hjoin : (s.intercalate ((a :: b :: more).map text)).toList =
          (text a).toList ++ (s.toList ++ (s.intercalate ((b :: more).map text)).toList) := by
        rw [List.map_cons, List.map_cons, String.intercalate_cons_cons, String.toList_append,
          String.toList_append, List.append_assoc]
      have hlength : 0 < s.toList.length := List.length_pos_iff.mpr (by simpa using hne)
      rw [hjoin, List.length_append, List.length_append] at hsteps
      have hmore := ih (fun c hc => hread c (List.mem_cons_of_mem a hc)) (List.cons_ne_nil b more)
        steps (by omega)
      rw [hjoin, List.append_assoc, List.append_assoc,
        run_bind_of (hread a List.mem_cons_self _ (hs _)), run_accepts, run_bind_of hmore]
      rfl

end Overloads.Text
