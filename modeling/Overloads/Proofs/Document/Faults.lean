import Overloads.Document.Reader

/-! What stands in a text that is refused otherwise than as malformed. -/
namespace Overloads.Document

open Overloads.Number

variable {α β : Type} {room n : Nat} {s t rest : List Char} {fault : Fault} {m : Reader α}

/-- So many digits in a row stand in a text, with nothing but underscores between them. -/
def DigitRun (n : Nat) (s : List Char) : Prop :=
  ∃ run, run <:+: s ∧ (∀ c ∈ run, c.isDigit ∨ c = '_') ∧ run.countP Char.isDigit = n

def isOpening (c : Char) : Bool := c = '[' || c = '\x7b'

/-- Why a reader with so much room may refuse the text before it. -/
def Warranted (room : Nat) (s : List Char) : Fault → Prop
  | .malformed => True
  | .integerTooLong n => digitLimit < n ∧ DigitRun n s
  | .tooDeep => room < Reader.tableRoom * s.countP isOpening

theorem DigitRun.mono (h : DigitRun n t) (hs : t <:+: s) : DigitRun n s := by
  obtain ⟨run, hrun, hdigits⟩ := h
  exact ⟨run, hrun.trans hs, hdigits⟩

theorem DigitRun.le_length (h : DigitRun n s) : n ≤ s.length := by
  obtain ⟨run, hrun, -, rfl⟩ := h
  exact Nat.le_trans List.countP_le_length hrun.length_le

theorem Warranted.of_suffix (h : Warranted room t fault) (hs : t <:+ s) : Warranted room s fault := by
  cases fault with
  | malformed => trivial
  | integerTooLong n => exact ⟨h.1, h.2.mono hs.isInfix⟩
  | tooDeep => exact Nat.lt_of_lt_of_le h (Nat.mul_le_mul_left _ (hs.sublist.countP_le))

namespace Reader

/-- A reader only goes forward, and refuses a text for what stands in it. -/
def Reads (room : Nat) (m : Reader α) (s : List Char) : Prop :=
  match m.run s with
  | .ok (_, rest) => rest <:+ s
  | .error fault => Warranted room s fault

section Steps

theorem reads_pure (a : α) : Reads room (pure a) s := List.suffix_refl s

theorem reads_fail : Reads room (fail : Reader α) s := trivial

theorem reads_bind {f : α → Reader β} (hm : Reads room m s) (hf : ∀ a rest, Reads room (f a) rest) :
    Reads room (m >>= f) s := by
  unfold Reads at hm ⊢
  rw [StateT.run_bind]
  cases hrun : m.run s with
  | error fault =>
    rw [hrun] at hm
    exact hm
  | ok answer =>
    obtain ⟨a, rest⟩ := answer
    rw [hrun] at hm
    have hrest := hf a rest
    unfold Reads at hrest
    change match (f a).run rest with
      | .ok (_, rest) => rest <:+ s
      | .error fault => Warranted room s fault
    cases hnext : (f a).run rest with
    | error fault =>
      rw [hnext] at hrest
      exact hrest.of_suffix hm
    | ok answer =>
      rw [hnext] at hrest
      exact hrest.trans hm

theorem reads_get {f : List Char → Reader β} (h : Reads room (f s) s) : Reads room (get >>= f) s := h

theorem reads_peek {f : Option Char → Reader β} (h : Reads room (f s.head?) s) :
    Reads room (peek >>= f) s := h

theorem reads_set (hs : rest <:+ s) : Reads room (set rest : Reader Unit) s := hs

theorem reads_skip (n : Nat) : Reads room (skip n) s := List.drop_suffix n s

theorem reads_span (holds : Char → Bool) : Reads room (span holds) s := List.dropWhile_suffix holds

theorem reads_spaces : Reads room spaces s := List.dropWhile_suffix isSpace

theorem reads_accept (text : String) : Reads room (accept text) s := by
  unfold accept
  refine reads_get ?_
  split
  · exact reads_bind (reads_set (List.drop_suffix _ s)) fun _ _ => reads_pure true
  · exact reads_pure false

theorem reads_expect (text : String) : Reads room (expect text) s := by
  refine reads_bind (reads_accept text) fun stands rest => ?_
  split
  · exact reads_fail
  · exact reads_pure ()

theorem reads_ite {p : Prop} [Decidable p] {m' : Reader α} (h : p → Reads room m s)
    (h' : ¬ p → Reads room m' s) : Reads room (if p then m else m') s := by
  split
  · exact h ‹_›
  · exact h' ‹_›

theorem reads_dite {p : Prop} [Decidable p] {f : p → Reader α} {g : ¬ p → Reader α}
    (h : ∀ hp, Reads room (f hp) s) (h' : ∀ hp, Reads room (g hp) s) : Reads room (dite p f g) s := by
  by_cases hp : p
  · rw [dif_pos hp]
    exact h hp
  · rw [dif_neg hp]
    exact h' hp

end Steps

section Texts

theorem reads_comment : Reads room comment s := by
  refine reads_peek (reads_ite (fun _ => ?_) fun _ => reads_pure ())
  exact reads_bind (reads_span _) fun _ _ => reads_ite (fun _ => reads_fail) fun _ => reads_pure ()

theorem reads_blanks (fuel : Nat) : Reads room (blanks fuel) s := by
  induction fuel generalizing s with
  | zero => exact reads_pure ()
  | succ fuel ih =>
    refine reads_get (reads_bind (reads_span _) fun _ _ => reads_bind reads_comment fun _ _ => ?_)
    exact reads_get (reads_ite (fun _ => ih) fun _ => reads_pure ())

theorem reads_allBlanks : Reads room allBlanks s := reads_get (reads_blanks _)

theorem reads_hexCharacter (digits : Nat) : Reads room (hexCharacter digits) s := by
  refine reads_get (reads_ite (fun _ => reads_fail) fun _ => reads_bind (reads_skip _) fun _ _ => ?_)
  exact reads_dite (fun _ => reads_pure _) fun _ => reads_fail

theorem reads_escape (severalLines : Bool) : Reads room (escape severalLines) s := by
  refine reads_bind (reads_skip 1) fun _ _ => reads_peek ?_
  split
  · exact reads_fail
  · refine reads_ite (fun _ => ?_) fun _ => ?_
    · refine reads_bind reads_spaces fun _ _ => reads_peek ?_
      split
      · exact reads_pure []
      · exact reads_bind (reads_span _) fun _ _ => reads_pure []
      · exact reads_fail
    · refine reads_bind (reads_skip 1) fun _ _ => ?_
      refine reads_ite (fun _ => reads_hexCharacter 4) fun _ => ?_
      refine reads_ite (fun _ => reads_hexCharacter 8) fun _ => ?_
      split
      · exact reads_pure _
      · exact reads_fail

theorem reads_basicText (severalLines : Bool) (read : List Char) (fuel : Nat) :
    Reads room (basicText severalLines read fuel) s := by
  induction fuel generalizing read s with
  | zero => exact reads_fail
  | succ fuel ih =>
    refine reads_peek ?_
    split
    · exact reads_fail
    · refine reads_ite (fun _ => reads_bind (reads_skip 1) fun _ _ => reads_pure read) fun _ => ?_
      refine reads_bind (reads_accept _) fun _ _ => reads_ite (fun _ => reads_pure read) fun _ => ?_
      exact reads_bind (reads_skip 1) fun _ _ => ih _
    · exact reads_bind (reads_escape severalLines) fun _ _ => ih _
    · exact reads_ite (fun _ => reads_fail) fun _ => reads_bind (reads_skip 1) fun _ _ => ih _

theorem reads_literalText : Reads room literalText s := by
  refine reads_bind (reads_span _) fun _ _ => reads_bind (reads_expect _) fun _ _ => ?_
  exact reads_ite (fun _ => reads_fail) fun _ => reads_pure _

theorem reads_literalLines (read : List Char) (fuel : Nat) :
    Reads room (literalLines read fuel) s := by
  induction fuel generalizing read s with
  | zero => exact reads_fail
  | succ fuel ih =>
    refine reads_bind (reads_accept _) fun _ _ => reads_ite (fun _ => reads_pure read) fun _ => ?_
    refine reads_peek ?_
    split
    · exact reads_fail
    · exact reads_ite (fun _ => reads_fail) fun _ => reads_bind (reads_skip 1) fun _ _ => ih _

theorem reads_furtherQuotes (quote : Char) (read : List Char) :
    Reads room (furtherQuotes quote read) s := by
  refine reads_peek (reads_ite (fun _ => reads_pure _) fun _ => reads_bind (reads_skip 1) fun _ _ => ?_)
  refine reads_peek (reads_ite (fun _ => reads_pure _) fun _ => ?_)
  exact reads_bind (reads_skip 1) fun _ _ => reads_pure _

theorem reads_basicLine : Reads room basicLine s :=
  reads_bind (reads_skip 1) fun _ _ => reads_get (reads_basicText false [] _)

theorem reads_literalLine : Reads room literalLine s :=
  reads_bind (reads_skip 1) fun _ _ => reads_literalText

theorem reads_basicLines : Reads room basicLines s :=
  reads_bind (reads_accept _) fun _ _ => reads_get <|
    reads_bind (reads_basicText true [] _) fun read _ => reads_furtherQuotes '"' read

theorem reads_literalBlock : Reads room literalBlock s :=
  reads_bind (reads_accept _) fun _ _ => reads_get <|
    reads_bind (reads_literalLines [] _) fun read _ => reads_furtherQuotes '\'' read

theorem reads_keyPart : Reads room keyPart s := by
  refine reads_peek ?_
  split
  · exact reads_bind reads_literalLine fun _ _ => reads_pure _
  · exact reads_bind reads_basicLine fun _ _ => reads_pure _
  · refine reads_bind (reads_span _) fun cs _ => ?_
    split
    · exact reads_fail
    · exact reads_pure _

theorem reads_keyAfter (read : Key) (fuel : Nat) : Reads room (keyAfter read fuel) s := by
  induction fuel generalizing read s with
  | zero => exact reads_fail
  | succ fuel ih =>
    refine reads_bind reads_keyPart fun _ _ => reads_bind reads_spaces fun _ _ => ?_
    refine reads_bind (reads_accept _) fun _ _ => reads_ite (fun _ => ?_) fun _ => reads_pure _
    exact reads_bind reads_spaces fun _ _ => ih _

theorem reads_key : Reads room key s := reads_get (reads_keyAfter [] _)

end Texts

section Moments

/-- That a part of a text that may be read leaves an end of it. -/
def Leaves (o : Option (α × List Char)) (s : List Char) : Prop := ∀ a rest, o = some (a, rest) → rest <:+ s

theorem leaves_none : Leaves (none : Option (α × List Char)) s := by
  intro a rest h
  cases h

theorem leaves_some (a : α) (h : rest <:+ s) : Leaves (some (a, rest)) s := by
  intro a' rest' h'
  cases h'
  exact h

theorem Leaves.of_suffix {o : Option (α × List Char)} (h : Leaves o t) (hs : t <:+ s) : Leaves o s :=
  fun a rest ho => (h a rest ho).trans hs

theorem leaves_bind {o : Option (α × List Char)} {f : α × List Char → Option (β × List Char)}
    (ho : Leaves o s) (hf : ∀ a rest, Leaves (f (a, rest)) rest) : Leaves (o >>= f) s := by
  intro b rest h
  obtain ⟨⟨a, after⟩, ha, hb⟩ := Option.bind_eq_some_iff.mp h
  exact (hf a after b rest hb).trans (ho a after ha)

theorem leaves_twoDigits? (least greatest : Nat) : Leaves (twoDigits? least greatest s) s := by
  unfold twoDigits?
  split
  · split
    · dsimp only
      split
      · exact leaves_some _ ((List.suffix_cons _ _).trans (List.suffix_cons _ _))
      · exact leaves_none
    · exact leaves_none
  · exact leaves_none

theorem leaves_after_colon {f : List Char → Option (β × List Char)} (hf : ∀ rest, Leaves (f rest) rest) :
    Leaves (colon? s >>= f) s := by
  intro b rest h
  obtain ⟨after, hcolon, hb⟩ := Option.bind_eq_some_iff.mp h
  unfold colon? at hcolon
  split at hcolon
  · cases hcolon
    exact (hf _ b rest hb).trans (List.suffix_cons _ _)
  · cases hcolon

theorem microseconds_suffix : (microseconds s).2 <:+ s := by
  unfold microseconds
  split
  · split
    · exact List.suffix_refl _
    · exact (List.dropWhile_suffix _).trans (List.suffix_cons _ _)
  · exact List.suffix_refl _

theorem leaves_clock? : Leaves (clock? s) s :=
  leaves_bind (leaves_twoDigits? 0 23) fun _ _ => leaves_after_colon fun _ =>
    leaves_bind (leaves_twoDigits? 0 59) fun _ _ => leaves_after_colon fun _ =>
      leaves_bind (leaves_twoDigits? 0 59) fun _ _ => leaves_some _ microseconds_suffix

theorem leaves_day? : Leaves (day? s) s := by
  unfold day?
  dsimp only
  split
  · exact leaves_none
  refine Leaves.of_suffix ?_ (List.drop_suffix 4 s)
  generalize s.drop 4 = rest
  split
  · refine Leaves.of_suffix (leaves_bind (leaves_twoDigits? 1 12) fun _ rest => ?_) (List.suffix_cons _ _)
    dsimp only
    split
    · exact Leaves.of_suffix (leaves_bind (leaves_twoDigits? 1 31) fun _ _ =>
        leaves_some _ (List.suffix_refl _)) (List.suffix_cons _ _)
    · exact leaves_none
  · exact leaves_none

theorem leaves_offset? : Leaves (offset? s) s := by
  unfold offset?
  split
  · exact leaves_some _ (List.suffix_cons _ _)
  · exact leaves_some _ (List.suffix_cons _ _)
  · split
    · refine Leaves.of_suffix ?_ (List.suffix_cons _ _)
      exact leaves_bind (leaves_twoDigits? 0 23) fun _ _ => leaves_after_colon fun _ =>
        leaves_bind (leaves_twoDigits? 0 59) fun _ _ => leaves_some _ (List.suffix_refl _)
    · exact leaves_none
  · exact leaves_none

theorem leaves_clockAfterDay? : Leaves (clockAfterDay? s) s := by
  unfold clockAfterDay?
  split
  · split
    · exact leaves_clock?.of_suffix (List.suffix_cons _ _)
    · exact leaves_none
  · exact leaves_none

theorem reads_moment? : Reads room moment? s := by
  refine reads_get ?_
  split
  · rename_i d rest hd
    have hrest := leaves_day? d rest hd
    refine reads_ite (fun _ => reads_fail) fun _ => ?_
    split
    · exact reads_bind (reads_set hrest) fun _ _ => reads_pure _
    · rename_i t rest' ht
      have hrest' := (leaves_clockAfterDay? t rest' ht).trans hrest
      split
      · rename_i o after ho
        exact reads_bind (reads_set ((leaves_offset? o after ho).trans hrest')) fun _ _ => reads_pure _
      · exact reads_bind (reads_set hrest') fun _ _ => reads_pure _
  · split
    · rename_i t rest ht
      exact reads_bind (reads_set (leaves_clock? t rest ht)) fun _ _ => reads_pure _
    · exact reads_pure none

end Moments

section Numbers

/-- Where digits stop, and which characters gave them. -/
theorem digitsOf_split (holds : Char → Bool) (s : List Char) :
    ∃ run, s = run ++ (digitsOf holds s).2 ∧ (∀ c ∈ run, holds c ∨ c = '_') ∧
      (holds '_' = false → run.countP holds = (digitsOf holds s).1.length) := by
  fun_induction digitsOf holds s with
  | case1 => exact ⟨[], rfl, by simp, fun _ => rfl⟩
  | case2 c rest hc ds left hrest ih =>
    rw [hrest] at ih
    obtain ⟨run, hrun, hall, hcount⟩ := ih
    exact ⟨c :: run, by simp [← hrun], by simpa [hc] using hall, fun h => by simp [hc, hcount h]⟩
  | case3 d rest' hd ds left hrest hunder ih =>
    rw [hrest] at ih
    obtain ⟨run, hrun, hall, hcount⟩ := ih
    refine ⟨'_' :: d :: run, by simp [← hrun], by simpa [hd] using hall, fun h => ?_⟩
    simp [hd, hunder, hcount h]
  | case4 | case5 | case6 => exact ⟨[], rfl, by simp, fun _ => rfl⟩

theorem digitsOf_of_digits? {holds : Char → Bool} {ds : List Char} (h : digits? holds s = some (ds, rest)) :
    digitsOf holds s = (ds, rest) := by
  unfold digits? at h
  split at h
  · split at h
    · exact Option.some.inj h
    · cases h
  · cases h

theorem leaves_digits? (holds : Char → Bool) : Leaves (digits? holds s) s := by
  intro ds rest h
  obtain ⟨run, hrun, -⟩ := digitsOf_split holds s
  rw [digitsOf_of_digits? h] at hrun
  exact ⟨run, hrun.symm⟩

theorem leaves_map {o : Option (α × List Char)} (f : α → β) (h : Leaves o s) :
    Leaves (o.map fun (a, rest) => (f a, rest)) s := by
  intro b rest hb
  obtain ⟨⟨a, left⟩, ha, heq⟩ := Option.map_eq_some_iff.mp hb
  cases heq
  exact h a _ ha

theorem leaves_based? : Leaves (based? s) s := by
  unfold based?
  split
  · refine Leaves.of_suffix ?_ ((List.suffix_cons _ _).trans (List.suffix_cons _ _))
    dsimp only
    split
    · exact leaves_map _ (leaves_digits? _)
    · exact leaves_map _ (leaves_digits? _)
    · exact leaves_map _ (leaves_digits? _)
    · exact leaves_none
  · exact leaves_none

theorem leaves_wholePart? : Leaves (wholePart? s) s := by
  unfold wholePart?
  split
  · exact leaves_some _ (List.suffix_cons _ _)
  · exact leaves_digits? _

/-- The digits of a whole part stand in a row. -/
theorem digitRun_of_wholePart? {whole : List Char} (h : wholePart? s = some (whole, rest)) :
    DigitRun whole.length s := by
  unfold wholePart? at h
  split at h
  · cases h
    exact ⟨['0'], ⟨[], _, rfl⟩, List.forall_mem_singleton.mpr (.inl rfl), rfl⟩
  · obtain ⟨run, hrun, hall, hcount⟩ := digitsOf_split Char.isDigit s
    rw [digitsOf_of_digits? h] at hrun hcount
    exact ⟨run, ⟨[], rest, hrun.symm⟩, hall, hcount (by decide)⟩

theorem readSign_suffix : (readSign s).2 <:+ s := by
  unfold readSign
  split
  · exact List.suffix_cons _ _
  · exact List.suffix_cons _ _
  · exact List.suffix_refl _

theorem places_suffix : (places s).2 <:+ s := by
  unfold places
  split
  · rename_i rest
    cases h : digits? Char.isDigit rest with
    | none => exact List.suffix_refl _
    | some p => exact (leaves_digits? _ p.1 p.2 h).trans (List.suffix_cons _ _)
  · exact List.suffix_refl _

theorem exponent_suffix : (exponent s).2 <:+ s := by
  unfold exponent
  split
  · split
    · dsimp only
      split
      · rename_i h
        exact ((leaves_digits? _ _ _ h).trans readSign_suffix).trans (List.suffix_cons _ _)
      · exact List.suffix_refl _
    · exact List.suffix_refl _
  · exact List.suffix_refl _

theorem reads_number : Reads room number s := by
  refine reads_get ?_
  split
  · rename_i n rest hn
    exact reads_bind (reads_set (leaves_based? n rest hn)) fun _ _ => reads_pure _
  · dsimp only
    split
    · rename_i whole rest hwhole
      have hrest : (exponent (places rest).2).2 <:+ s := exponent_suffix.trans
        (places_suffix.trans ((leaves_wholePart? _ _ hwhole).trans readSign_suffix))
      by_cases hint : (places rest).1.isEmpty && (exponent (places rest).2).1.isNone
      · by_cases hlong : digitLimit < whole.length
        · simp only [hint, hlong, if_true]
          have hrun := (digitRun_of_wholePart? hwhole).mono readSign_suffix.isInfix
          change Warranted room s (.integerTooLong whole.length)
          exact ⟨hlong, hrun⟩
        · simp only [hint, hlong, if_true, if_false]
          exact reads_bind (reads_set hrest) fun _ _ => reads_pure _
      · simp only [hint]
        exact reads_bind (reads_set hrest) fun _ _ => reads_pure _
    · refine reads_bind (reads_set readSign_suffix) fun _ _ => ?_
      refine reads_bind (reads_accept _) fun _ _ => reads_ite (fun _ => reads_pure _) fun _ => ?_
      exact reads_bind (reads_accept _) fun _ _ =>
        reads_ite (fun _ => reads_pure _) fun _ => reads_fail

end Numbers

section Values

theorem isOpening_bracket : isOpening '[' := rfl

theorem isOpening_brace : isOpening '\x7b' := rfl

/-- Where an opening bracket stands there is at least one, so little room is reason enough. -/
theorem reads_tooDeep {c : Char} {f : PUnit → Reader α} (hc : isOpening c) (hroom : room < tableRoom) :
    Reads room (throw .tooDeep >>= f) (c :: s) := by
  change room < tableRoom * (c :: s).countP isOpening
  rw [List.countP_cons_of_pos hc]
  unfold tableRoom at *
  omega

/-- An opening bracket makes up for the room that its content does not get. -/
theorem reads_nested {c : Char} (hc : isOpening c) (taken : Nat) (htaken : taken ≤ tableRoom)
    (h : Reads (room - taken) m s) : Reads room (skip 1 >>= fun _ => m) (c :: s) := by
  change match m.run s with
    | .ok (_, rest) => rest <:+ c :: s
    | .error fault => Warranted room (c :: s) fault
  unfold Reads at h
  split <;> rename_i heq <;> rw [heq] at h
  · exact h.trans (List.suffix_cons c s)
  · rename_i fault
    cases fault with
    | malformed => trivial
    | integerTooLong n => exact ⟨h.1, h.2.mono (List.suffix_cons c s).isInfix⟩
    | tooDeep =>
      change room < tableRoom * (c :: s).countP isOpening
      change room - taken < tableRoom * s.countP isOpening at h
      rw [List.countP_cons_of_pos hc]
      unfold tableRoom at *
      omega

/-- What a nested reader keeps, by the fuel that the three share. -/
theorem reads_nesting (fuel : Nat) : ∀ room s, Reads room (value room fuel) s ∧
    (∀ read, Reads room (items room read fuel) s) ∧
    ∀ read frozen, Reads room (entries room read frozen fuel) s := by
  induction fuel with
  | zero => exact fun room s => ⟨reads_fail, fun _ => reads_fail, fun _ _ => reads_fail⟩
  | succ fuel ih =>
    intro room s
    have hvalue (room : Nat) (s : List Char) := (ih room s).1
    have hitems (room : Nat) (s : List Char) := (ih room s).2.1
    have hentries (room : Nat) (s : List Char) := (ih room s).2.2
    refine ⟨?_, fun read => ?_, fun read frozen => ?_⟩
    · refine reads_bind (reads_accept _) fun _ _ => reads_ite (fun _ => ?_) fun _ => ?_
      · exact reads_bind reads_basicLines fun _ _ => reads_pure _
      refine reads_bind (reads_accept _) fun _ rest => reads_ite (fun _ => ?_) fun _ => ?_
      · exact reads_bind reads_literalBlock fun _ _ => reads_pure _
      refine reads_peek ?_
      split
      · exact reads_bind reads_basicLine fun _ _ => reads_pure _
      · exact reads_bind reads_literalLine fun _ _ => reads_pure _
      · rename_i hhead
        obtain ⟨t, rfl⟩ := List.head?_eq_some_iff.mp hhead
        refine reads_ite (fun hroom => ?_) fun hroom => ?_
        · exact reads_tooDeep isOpening_bracket (Nat.lt_trans hroom (by decide))
        · refine reads_nested isOpening_bracket listRoom (by decide) ?_
          refine reads_bind reads_allBlanks fun _ _ => reads_bind (reads_accept _) fun _ _ => ?_
          refine reads_ite (fun _ => reads_pure _) fun _ => ?_
          exact reads_bind (hitems _ _ _) fun _ _ => reads_pure _
      · rename_i hhead
        obtain ⟨t, rfl⟩ := List.head?_eq_some_iff.mp hhead
        refine reads_ite (fun hroom => reads_tooDeep isOpening_brace hroom) fun hroom => ?_
        refine reads_nested isOpening_brace tableRoom (Nat.le_refl _) ?_
        refine reads_bind reads_spaces fun _ _ => reads_bind (reads_accept _) fun _ _ => ?_
        refine reads_ite (fun _ => reads_pure _) fun _ => ?_
        exact reads_bind (hentries _ _ _ _) fun _ _ => reads_pure _
      · refine reads_bind (reads_accept _) fun _ _ => reads_ite (fun _ => reads_pure _) fun _ => ?_
        refine reads_bind (reads_accept _) fun _ _ => reads_ite (fun _ => reads_pure _) fun _ => ?_
        refine reads_bind reads_moment? fun _ _ => ?_
        split
        · exact reads_pure _
        · exact reads_number
    · refine reads_bind (hvalue room s) fun d _ => reads_bind reads_allBlanks fun _ _ => ?_
      refine reads_bind (reads_accept _) fun _ _ => reads_ite (fun _ => reads_pure _) fun _ => ?_
      refine reads_bind (reads_expect _) fun _ _ => reads_bind reads_allBlanks fun _ _ => ?_
      refine reads_bind (reads_accept _) fun _ _ => reads_ite (fun _ => reads_pure _) fun _ => ?_
      exact hitems room _ _
    · refine reads_bind reads_key fun _ _ => reads_bind (reads_expect _) fun _ _ => ?_
      refine reads_bind reads_spaces fun _ _ => reads_bind (hvalue room _) fun _ _ => ?_
      refine reads_ite (fun _ => reads_fail) fun _ => ?_
      split
      · exact reads_fail
      · refine reads_bind reads_spaces fun _ _ => ?_
        refine reads_bind (reads_accept _) fun _ _ => reads_ite (fun _ => reads_pure _) fun _ => ?_
        refine reads_bind (reads_expect _) fun _ _ => reads_bind reads_spaces fun _ _ => ?_
        exact hentries room _ _ _

theorem reads_value (fuel : Nat) : Reads room (value room fuel) s := (reads_nesting fuel room s).1

end Values

section Statements

theorem reads_change (o : Option Outline) : Reads room (change o) s := by
  unfold change
  split
  · exact reads_pure _
  · exact reads_fail

theorem reads_statement (o : Outline) (header : Key) : Reads nestingRoom (statement o header) s := by
  refine reads_peek (reads_ite (fun _ => reads_pure _) fun _ => ?_)
  refine reads_bind (reads_accept _) fun _ _ => reads_ite (fun _ => ?_) fun _ => ?_
  · refine reads_bind reads_spaces fun _ _ => reads_bind reads_key fun _ _ => ?_
    exact reads_bind (reads_change _) fun _ _ => reads_bind (reads_expect _) fun _ _ => reads_pure _
  refine reads_bind (reads_accept _) fun _ _ => reads_ite (fun _ => ?_) fun _ => ?_
  · refine reads_bind reads_spaces fun _ _ => reads_bind reads_key fun _ _ => ?_
    exact reads_bind (reads_change _) fun _ _ => reads_bind (reads_expect _) fun _ _ => reads_pure _
  · refine reads_bind reads_key fun _ _ => reads_bind (reads_expect _) fun _ _ => ?_
    refine reads_bind reads_spaces fun _ _ => reads_get (reads_bind (reads_value _) fun _ _ => ?_)
    exact reads_bind (reads_change _) fun _ _ => reads_pure _

theorem reads_statements (o : Outline) (header : Key) (fuel : Nat) :
    Reads nestingRoom (statements o header fuel) s := by
  induction fuel generalizing o header s with
  | zero => exact reads_pure _
  | succ fuel ih =>
    refine reads_bind reads_spaces fun _ _ => reads_peek ?_
    split
    · exact reads_pure _
    · exact reads_bind (reads_skip 1) fun _ _ => ih _ _
    · refine reads_bind (reads_statement o header) fun _ _ => ?_
      refine reads_bind reads_spaces fun _ _ => reads_bind reads_comment fun _ _ => reads_peek ?_
      split
      · exact reads_pure _
      · exact reads_bind (reads_skip 1) fun _ _ => ih _ _
      · exact reads_fail

end Statements
end Reader

/-- A text that is refused otherwise than as malformed gives reason for it. -/
theorem warranted_of_read (h : read s = .error fault) : Warranted Reader.nestingRoom s fault := by
  have hreads := Reader.reads_statements (s := s) .empty [] (s.length + 1)
  unfold Reader.Reads at hreads
  unfold read at h
  cases hrun : (Reader.statements .empty [] (s.length + 1)).run s with
  | ok answer =>
    rw [hrun] at h
    cases h
  | error fault' =>
    rw [hrun] at h hreads
    cases h
    exact hreads
end Overloads.Document
