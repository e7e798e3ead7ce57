import Overloads.Proofs.Document.Faults
import Overloads.Proofs.Document.Limits
import Overloads.Proofs.Text.Utf8
import Overloads.Settings.File

/-! Which files give a table, and which keep the settings from being read. -/
namespace Overloads.Settings

open Overloads.Document Overloads.Text

variable {f : File} {s : List Char} {t : Table} {e : Failure}

/-- The text of a file that is written in UTF-8, each line end a line feed. -/
inductive File.Holds : File → List Char → Prop
  | utf8 (cs : List Char) : Holds (.bytes (encodeUtf8 cs)) (unifyLineEnds cs)

/-- The tables that files give: what stands in them, or nothing. -/
inductive Loaded : File → Table → Prop
  | absent : Loaded .absent []
  | parsed {f : File} {s : List Char} {t : Table} (hs : f.Holds s) (ht : read s = .ok t) : Loaded f t
  | malformed {f : File} {s : List Char} (hs : f.Holds s) (h : read s = .error .malformed) :
      Loaded f []

/-- What goes wrong with files that give no table. -/
inductive Unloaded : File → Failure → Prop
  | undecodable {data : List UInt8} (h : ∀ s, ¬ (File.bytes data).Holds s) :
      Unloaded (.bytes data) .undecodableText
  | integerTooLong {f : File} {s : List Char} {n : Nat} (hs : f.Holds s)
      (h : read s = .error (.integerTooLong n)) : Unloaded f (.integerTooLong n)
  | tooDeep {f : File} {s : List Char} (hs : f.Holds s) (h : read s = .error .tooDeep) :
      Unloaded f .tooDeep

theorem Loaded.load_eq (h : Loaded f t) : f.load = .ok t := by
  cases h with
  | absent => rfl
  | parsed hs ht =>
    obtain ⟨cs⟩ := hs
    simp only [File.load, decodeUtf8_encodeUtf8, ht]
  | malformed hs h =>
    obtain ⟨cs⟩ := hs
    simp only [File.load, decodeUtf8_encodeUtf8, h]

theorem decodeUtf8_eq_none {data : List UInt8} :
    decodeUtf8 data = none ↔ ∀ s, ¬ (File.bytes data).Holds s := by
  constructor
  · rintro h s ⟨cs⟩
    rw [decodeUtf8_encodeUtf8] at h
    cases h
  · intro h
    cases hcs : decodeUtf8 data with
    | none => rfl
    | some cs =>
      cases decodeUtf8_eq_some_iff.mp hcs
      exact (h _ (.utf8 cs)).elim

theorem Unloaded.load_eq (h : Unloaded f e) : f.load = .error e := by
  cases h with
  | undecodable h => simp only [File.load, decodeUtf8_eq_none.mpr h]
  | integerTooLong hs h =>
    obtain ⟨cs⟩ := hs
    simp only [File.load, decodeUtf8_encodeUtf8, h]
  | tooDeep hs h =>
    obtain ⟨cs⟩ := hs
    simp only [File.load, decodeUtf8_encodeUtf8, h]

/-- Every file is of one sort or the other. -/
theorem loaded_or_unloaded (f : File) : (∃ t, Loaded f t) ∨ ∃ e, Unloaded f e := by
  cases f with
  | absent => exact .inl ⟨[], .absent⟩
  | bytes data =>
    cases hcs : decodeUtf8 data with
    | none => exact .inr ⟨_, .undecodable (decodeUtf8_eq_none.mp hcs)⟩
    | some cs =>
      cases decodeUtf8_eq_some_iff.mp hcs
      have hs := File.Holds.utf8 cs
      cases hread : read (unifyLineEnds cs) with
      | ok t => exact .inl ⟨t, .parsed hs hread⟩
      | error fault =>
        cases fault with
        | malformed => exact .inl ⟨[], .malformed hs hread⟩
        | integerTooLong n => exact .inr ⟨_, .integerTooLong hs hread⟩
        | tooDeep => exact .inr ⟨_, .tooDeep hs hread⟩

theorem load_eq_ok : f.load = .ok t ↔ Loaded f t := by
  refine ⟨fun h => ?_, Loaded.load_eq⟩
  rcases loaded_or_unloaded f with ⟨t', ht⟩ | ⟨e, he⟩
  · cases h.symm.trans ht.load_eq
    exact ht
  · cases h.symm.trans he.load_eq

theorem load_eq_error : f.load = .error e ↔ Unloaded f e := by
  refine ⟨fun h => ?_, Unloaded.load_eq⟩
  rcases loaded_or_unloaded f with ⟨t, ht⟩ | ⟨e', he⟩
  · cases h.symm.trans ht.load_eq
  · cases h.symm.trans he.load_eq
    exact he

/-- A text without overlong numbers and with few brackets is read, or malformed. -/
theorem loaded_of_moderate (hs : f.Holds s) (hdigits : ∀ n, DigitRun n s → n ≤ 4300)
    (hbrackets : s.countP isOpening ≤ 326) : ∃ t, Loaded f t := by
  cases hread : read s with
  | ok t => exact ⟨t, .parsed hs hread⟩
  | error fault =>
    have hwarranted := warranted_of_read hread
    cases fault with
    | malformed => exact ⟨[], .malformed hs hread⟩
    | integerTooLong n =>
      have hlimit : 4300 < n := hwarranted.1
      exact absurd (hdigits n hwarranted.2) (by omega)
    | tooDeep =>
      have hroom : 980 < 3 * s.countP isOpening := hwarranted
      omega

/-- A file that gives one key a character over and over. -/
theorem holds_assigned {c : Char} (hc : c ≠ '\r') (n : Nat) :
    (File.bytes (encodeUtf8 ('a' :: '=' :: List.replicate n c))).Holds
      ('a' :: '=' :: List.replicate n c) := by
  have hplain : '\r' ∉ 'a' :: '=' :: List.replicate n c := by
    simp [List.mem_replicate, hc.symm]
  have h := File.Holds.utf8 ('a' :: '=' :: List.replicate n c)
  rwa [unifyLineEnds_eq hplain] at h

/--
A file gives the document that stands in it, or nothing set where it is missing or malformed. It gives no
table only where its bytes are no text, and where its text exceeds what is read: with an integer of more
than 4300 digits, or with brackets too deep in one another, of which there are then more than 326. Both
limits are met: by any number of ones in a row from 4301 on, and of opening brackets from 491 on.
-/
theorem load_fails_only_unloaded (f : File) :
    (∀ t, f.load = .ok t ↔ Loaded f t) ∧ (∀ e, f.load = .error e ↔ Unloaded f e) ∧
    (∀ s, f.Holds s → (∀ n, DigitRun n s → n ≤ 4300) → s.countP isOpening ≤ 326 →
      ∃ t, f.load = .ok t) ∧
    (∀ n, f.Holds ('a' :: '=' :: List.replicate n '1') → 4300 < n →
      f.load = .error (.integerTooLong n)) ∧
    ∀ n, f.Holds ('a' :: '=' :: List.replicate n '[') → 490 < n → f.load = .error .tooDeep := by
  refine ⟨fun t => load_eq_ok, fun e => load_eq_error, ?_, ?_, ?_⟩
  · intro s hs hdigits hbrackets
    obtain ⟨t, ht⟩ := loaded_of_moderate hs hdigits hbrackets
    exact ⟨t, ht.load_eq⟩
  · intro n hs hn
    exact load_eq_error.mpr (.integerTooLong hs (read_ones hn))
  · intro n hs hn
    exact load_eq_error.mpr (.tooDeep hs (read_brackets hn))

theorem files_within_and_beyond_limits :
    let s := unifyLineEnds "é=[1_0,[2]]\r\n".toList
    let ones := File.bytes (encodeUtf8 ('a' :: '=' :: List.replicate 4301 '1'))
    let brackets := File.bytes (encodeUtf8 ('a' :: '=' :: List.replicate 491 '['))
    ((∀ n, DigitRun n s → n ≤ 4300) ∧ s.countP isOpening ≤ 326 ∧
      ∃ t, (File.bytes (encodeUtf8 "é=[1_0,[2]]\r\n".toList)).load = .ok t) ∧
    (ones.Holds ('a' :: '=' :: List.replicate 4301 '1') ∧ ones.load = .error (.integerTooLong 4301)) ∧
    brackets.Holds ('a' :: '=' :: List.replicate 491 '[') ∧ brackets.load = .error .tooDeep := by
  have hdigits (n : Nat) (h : DigitRun n (unifyLineEnds "é=[1_0,[2]]\r\n".toList)) : n ≤ 4300 :=
    Nat.le_trans h.le_length (by decide)
  have hbrackets : (unifyLineEnds "é=[1_0,[2]]\r\n".toList).countP isOpening ≤ 326 := by decide
  have hloads := (load_fails_only_unloaded _).2.2.1 _ (.utf8 _) hdigits hbrackets
  have hones := holds_assigned (c := '1') (by decide) 4301
  have hdeep := holds_assigned (c := '[') (by decide) 491
  exact ⟨⟨hdigits, hbrackets, hloads⟩,
    ⟨hones, (load_fails_only_unloaded _).2.2.2.1 4301 hones (by decide)⟩,
    hdeep, (load_fails_only_unloaded _).2.2.2.2 491 hdeep (by decide)⟩

/-- One byte that no text has keeps the settings from being read. -/
theorem loose_byte_unloaded : ¬ ∀ f : File, ∃ t, f.load = .ok t := by
  intro h
  obtain ⟨t, ht⟩ := h (.bytes [0xff])
  cases ht

end Overloads.Settings
