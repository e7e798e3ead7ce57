import Overloads.Number.Hexadecimal
import Overloads.Proofs.Text.Reading

/-! Reading quoted text: what is quoted is read back. -/
namespace Overloads.Text

open Overloads.Number (hexadecimalValue?)

variable {n k : Nat} {q c : Char} {cs rest : List Char}

def readChar : Reader Char := fun cs =>
  match cs with
  | [] => none
  | c :: rest => some (c, rest)

def readHexDigit : Reader Nat := do hexadecimalValue? (← readChar)

/-- Reads that many hexadecimal digits, behind those that make up `value`. -/
def readHex : Nat → Nat → Reader Nat
  | 0, value => return value
  | width + 1, value => do readHex width (16 * value + (← readHexDigit))

/-- Reads what a backslash stands in front of. -/
def readEscape : Reader Char := do
  let c ← readChar
  if c = '\\' ∨ c = '\'' ∨ c = '"' then return c
  else if c = 'n' then return '\n'
  else if c = 'r' then return '\r'
  else if c = 't' then return '\t'
  else if c = 'x' then return Char.ofNat (← readHex 2 0)
  else if c = 'u' then return Char.ofNat (← readHex 4 0)
  else if c = 'U' then return Char.ofNat (← readHex 8 0)
  else failure

/-- Reads up to the closing quote `q` within so many steps. -/
def readUntilIn (q : Char) : Nat → Reader (List Char)
  | 0 => failure
  | steps + 1 => do
    let c ← readChar
    if c = q then return []
    else if c = '\\' then return (← readEscape) :: (← readUntilIn q steps)
    else return c :: (← readUntilIn q steps)

def readUntil (q : Char) : Reader (List Char) := stepwise (readUntilIn q)

/-- Reads a text in quotes of either kind. -/
def readQuoted : Reader String := do
  let q ← readChar
  if q = '\'' ∨ q = '"' then return String.ofList (← readUntil q) else failure

@[simp] theorem readChar_cons (c : Char) (rest : List Char) :
    readChar.run (c :: rest) = some (c, rest) := rfl

theorem readHexDigit_digitChar {d : Nat} (h : d < 16) (rest : List Char) :
    readHexDigit.run (d.digitChar :: rest) = some (d, rest) := by
  have hvalue : hexadecimalValue? d.digitChar = some d := by
    revert d
    decide
  simp [readHexDigit, hvalue]

/-- The last digit can be read by itself. -/
theorem readHex_succ (k value : Nat) :
    readHex (k + 1) value = (do
      let n ← readHex k value
      return 16 * n + (← readHexDigit)) := by
  induction k generalizing value with
  | zero => simp [readHex]
  | succ k ih =>
    rw [readHex, readHex]
    simp only [ih, bind_assoc]

theorem hexDigits_succ (k n : Nat) :
    hexDigits (k + 2) n = hexDigits (k + 1) (n / 16) ++ [(n % 16).digitChar] := by
  rcases Nat.lt_or_ge n 16 with hlt | hge
  · have hzero : n / 16 = 0 := Nat.div_eq_of_lt hlt
    have hsame : n % 16 = n := Nat.mod_eq_of_lt hlt
    simp [hexDigits, hzero, hsame, Nat.toDigits_of_lt_base hlt, List.replicate_succ']
  · have hdigits := Nat.toDigits_of_base_le (b := 16) (by decide) hge
    simp [hexDigits, hdigits]

theorem readHex_hexDigits (h : (Nat.toDigits 16 n).length ≤ k + 1) (rest : List Char) :
    (readHex (k + 1) 0).run (hexDigits (k + 1) n ++ rest) = some (n, rest) := by
  induction k generalizing n rest with
  | zero =>
    have hlt : n < 16 := (Nat.length_toDigits_le_iff (by decide) (by decide)).mp h
    simp [hexDigits, Nat.toDigits_of_lt_base hlt, readHex, readHexDigit_digitChar hlt]
  | succ k ih =>
    have hshort : (Nat.toDigits 16 (n / 16)).length ≤ k + 1 := by
      rcases Nat.lt_or_ge n 16 with hlt | hge
      · simp [Nat.div_eq_of_lt hlt]
      · rw [Nat.toDigits_of_base_le (by decide) hge, List.length_append] at h
        exact Nat.le_of_succ_le_succ h
    have hlast : n % 16 < 16 := Nat.mod_lt n (by decide)
    rw [readHex_succ, hexDigits_succ, List.append_assoc, run_bind_of (ih hshort _)]
    simp [readHexDigit_digitChar hlast, Nat.div_add_mod]

theorem readUntilIn_self (q : Char) (steps : Nat) (rest : List Char) :
    (readUntilIn q (steps + 1)).run (q :: rest) = some ([], rest) := by
  simp [readUntilIn]

theorem readUntilIn_plain (hc : c ≠ q) (hslash : c ≠ '\\') (steps : Nat) (rest : List Char) :
    (readUntilIn q (steps + 1)).run (c :: rest) =
      ((readUntilIn q steps).run rest).map fun (cs, rest) => (c :: cs, rest) := by
  simp [readUntilIn, hc, hslash]

theorem readUntilIn_backslash (hslash : '\\' ≠ q) (form : List Char)
    (hform : readEscape.run (form ++ rest) = some (c, rest)) (steps : Nat) :
    (readUntilIn q (steps + 1)).run ('\\' :: form ++ rest) =
      ((readUntilIn q steps).run rest).map fun (cs, rest) => (c :: cs, rest) := by
  simp [readUntilIn, hslash, hform]

/-- A character is read back from its form between quotes, and reading goes on behind it. -/
theorem readUntilIn_escaped (hq : q = '\'' ∨ q = '"') (c : Char) (steps : Nat) (rest : List Char) :
    (readUntilIn q (steps + 1)).run (escaped q c ++ rest) =
      ((readUntilIn q steps).run rest).map fun (cs, rest) => (c :: cs, rest) := by
  have hslash : '\\' ≠ q := by
    rcases hq with rfl | rfl <;> decide
  have hquote : c = q ∨ c = '\\' → c = '\\' ∨ c = '\'' ∨ c = '"' := by
    rcases hq with rfl | rfl <;> rintro (rfl | rfl) <;> simp
  have hpoint : ∀ width, (Nat.toDigits 16 c.toNat).length ≤ width + 1 →
      (readHex (width + 1) 0).run (hexDigits (width + 1) c.toNat ++ rest) = some (c.toNat, rest) :=
    fun width h => readHex_hexDigits h rest
  have hdigits : ∀ width, 0 < width → c.toNat < Nat.pow 16 width →
      (Nat.toDigits 16 c.toNat).length ≤ width :=
    fun width hwidth h => (Nat.length_toDigits_le_iff (by decide) hwidth).mpr h
  -- Every form but that of a plain character begins with a backslash.
  fun_cases escaped q c with
  | case1 hself => exact readUntilIn_backslash hslash [c] (by simp [readEscape, hquote hself]) steps
  | case2 _ hn => exact readUntilIn_backslash hslash ['n'] (by simp [readEscape, hn]) steps
  | case3 _ _ hr => exact readUntilIn_backslash hslash ['r'] (by simp [readEscape, hr]) steps
  | case4 _ _ _ ht => exact readUntilIn_backslash hslash ['t'] (by simp [readEscape, ht]) steps
  | case5 hself =>
    obtain ⟨hc, hplain⟩ := not_or.mp hself
    exact readUntilIn_plain hc hplain steps rest
  | case6 _ _ _ _ _ hx =>
    have hread := hpoint 1 (hdigits 2 (by decide) hx)
    exact readUntilIn_backslash hslash _ (by simp [readEscape, hread, Char.ofNat_toNat]) steps
  | case7 _ _ _ _ _ _ hu =>
    have hread := hpoint 3 (hdigits 4 (by decide) hu)
    exact readUntilIn_backslash hslash _ (by simp [readEscape, hread, Char.ofNat_toNat]) steps
  | case8 =>
    have hread := hpoint 7 (hdigits 8 (by decide) c.val.toNat_lt)
    exact readUntilIn_backslash hslash _ (by simp [readEscape, hread, Char.ofNat_toNat]) steps

theorem length_escaped (q c : Char) : 0 < (escaped q c).length := by
  fun_cases escaped q c <;> simp

theorem readUntil_flatMap (hq : q = '\'' ∨ q = '"') (cs rest : List Char) :
    (readUntil q).run ((cs.flatMap (escaped q) ++ [q]) ++ rest) = some (cs, rest) := by
  apply run_stepwise
  intro steps hsteps
  induction cs generalizing steps with
  | nil =>
    obtain ⟨steps, rfl⟩ := Nat.exists_eq_add_one.mpr (Nat.zero_lt_of_lt hsteps)
    exact readUntilIn_self q steps rest
  | cons c more ih =>
    obtain ⟨steps, rfl⟩ := Nat.exists_eq_add_one.mpr (Nat.zero_lt_of_lt hsteps)
    have hlength := length_escaped q c
    rw [List.flatMap_cons, List.append_assoc, List.length_append] at hsteps
    have hmore := ih steps (by omega)
    rw [List.append_assoc] at hmore
    rw [List.flatMap_cons, List.append_assoc, List.append_assoc, readUntilIn_escaped hq, hmore]
    rfl

theorem readQuoted_quoted (s : String) (rest : List Char) :
    readQuoted.run ((quoted s).toList ++ rest) = some (s, rest) := by
  have hq : quoteFor s.toList = '\'' ∨ quoteFor s.toList = '"' := by
    unfold quoteFor
    split
    · exact Or.inr rfl
    · exact Or.inl rfl
  have htext : (quoted s).toList ++ rest = quoteFor s.toList ::
      ((s.toList.flatMap (escaped (quoteFor s.toList)) ++ [quoteFor s.toList]) ++ rest) := by
    simp [quoted, quotedChars]
  rw [htext, readQuoted, run_bind_of (readChar_cons _ _), if_pos hq,
    run_bind_of (readUntil_flatMap hq _ _), String.ofList_toList]
  rfl

end Overloads.Text
