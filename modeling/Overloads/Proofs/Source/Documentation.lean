import Overloads.Proofs.Routine.Assembly
import Overloads.Proofs.Text.Lines
import Overloads.Proofs.Text.Wrap
import Overloads.Routine.Documentation
import Overloads.Source.Printer

/-! The documentation of a routine in lines of a width, by itself and in source code. -/
namespace Overloads.Source

open Overloads.Text

variable {c : Char} {s t : List Char}

/-- Three quotes, which end a documentation. -/
def tripleQuote : List Char := ['"', '"', '"']

/-- What a text between triple quotes says. -/
def unescaped : List Char → List Char
  | '\\' :: c :: rest => c :: unescaped rest
  | c :: rest => c :: unescaped rest
  | [] => []

theorem unescaped_cons (h : c ≠ '\\') (rest : List Char) :
    unescaped (c :: rest) = c :: unescaped rest := by
  rw [unescaped]
  rintro d more rfl
  exact absurd rfl h

theorem escapeTriple_cons (hslash : c ≠ '\\') (hquotes : ¬ tripleQuote <+: c :: t) :
    escapeTriple (c :: t) = c :: escapeTriple t := by
  rw [escapeTriple]
  · rintro rest rfl rfl
    exact hquotes ⟨rest, rfl⟩
  · rintro rfl
    exact hslash rfl

/-- A text begins with three quotes, with a backslash or with another character, or is empty. -/
@[elab_as_elim]
theorem escapes_induction {P : List Char → Prop} (nil : P [])
    (triple : ∀ rest, P rest → P ('"' :: '"' :: '"' :: rest))
    (backslash : ∀ rest, P rest → P ('\\' :: rest))
    (other : ∀ c rest, c ≠ '\\' → ¬ tripleQuote <+: c :: rest → P rest → P (c :: rest))
    (s : List Char) : P s := by
  fun_induction escapeTriple s with
  | case1 rest ih => exact triple rest ih
  | case2 rest ih => exact backslash rest ih
  | case3 c rest hquotes hslash ih =>
    apply other c rest hslash _ ih
    rintro ⟨more, hmore⟩
    obtain ⟨rfl, rfl⟩ : '"' = c ∧ '"' :: '"' :: more = rest := List.cons.inj hmore
    exact hquotes more rfl rfl
  | case4 => exact nil

/-- Escaped text is read back. -/
theorem unescaped_escapeTriple (s : List Char) : unescaped (escapeTriple s) = s := by
  induction s using escapes_induction with
  | nil => rfl
  | triple rest ih => simp [escapeTriple, unescaped, ih]
  | backslash rest ih => simp [escapeTriple, unescaped, ih]
  | other c rest hslash hquotes ih =>
    rw [escapeTriple_cons hslash hquotes, unescaped_cons hslash, ih]

theorem map_addFront {f : List Char → List Char} {front front' : List Char} (hnil : f [] = [])
    (ls : List (List Char)) (h : f (front ++ ls.headD []) = front' ++ f (ls.headD [])) :
    (addFront front ls).map f = addFront front' (ls.map f) := by
  cases ls with
  | nil => simpa [addFront, hnil] using h
  | cons l ls => simpa [addFront] using h

/-- The first line is the beginning of a text. -/
theorem headD_splitLines_front (s : List Char) : (splitLines s).headD [] <+: s := by
  induction s using lines_induction with
  | nil => exact List.nil_prefix
  | pair rest ih => exact List.nil_prefix
  | lineEnd c rest hend hpair ih =>
    rw [splitLines_cons_end hend hpair]
    exact List.nil_prefix
  | other c rest hend ih =>
    rw [splitLines_cons_of_not_end hend]
    cases hlines : splitLines rest with
    | nil => exact List.prefix_append [c] rest
    | cons l ls =>
      rw [hlines] at ih
      exact List.cons_prefix_cons.mpr ⟨rfl, ih⟩

/-- Escaping puts no line feed at the beginning. -/
theorem head?_of_escapeTriple (h : (escapeTriple s).head? = some '\n') : s.head? = some '\n' := by
  fun_cases escapeTriple s with
  | case1 rest => simp [escapeTriple] at h
  | case2 rest => simp [escapeTriple] at h
  | case3 c rest hquotes hslash => simpa [escapeTriple] using h
  | case4 => simp [escapeTriple] at h

theorem not_prefix_feed (t : List Char) : ¬ tripleQuote <+: '\n' :: t := by
  rintro ⟨more, hmore⟩
  cases (List.cons.inj hmore).1

/-- Whether a text is escaped or its lines are is all one. -/
theorem splitLines_escapeTriple (s : List Char) :
    splitLines (escapeTriple s) = (splitLines s).map escapeTriple := by
  have hmap (front front' rest : List Char)
      (ih : splitLines (escapeTriple rest) = (splitLines rest).map escapeTriple)
      (hfront : (∀ c ∈ front, isLineEnd c = false) ∧ front ≠ [])
      (hfront' : (∀ c ∈ front', isLineEnd c = false) ∧ front' ≠ [])
      (h : escapeTriple (front ++ (splitLines rest).headD []) =
        front' ++ escapeTriple ((splitLines rest).headD [])) :
      splitLines (front' ++ escapeTriple rest) = (splitLines (front ++ rest)).map escapeTriple := by
    rw [splitLines_append_of_not_end hfront.1 hfront.2,
      splitLines_append_of_not_end hfront'.1 hfront'.2, ih, map_addFront rfl _ h]
  have hquote : isLineEnd '"' = false := by decide
  have hbackslash : isLineEnd '\\' = false := by decide
  induction s using escapes_induction with
  | nil => rfl
  | triple rest ih =>
    exact hmap tripleQuote ['\\', '"', '\\', '"', '\\', '"'] rest ih
      (by simp [tripleQuote, hquote]) (by simp [hquote, hbackslash]) rfl
  | backslash rest ih =>
    exact hmap ['\\'] ['\\', '\\'] rest ih (by simp [hbackslash]) (by simp [hbackslash]) rfl
  | other c rest hslash hquotes ih =>
    rw [escapeTriple_cons hslash hquotes]
    by_cases hend : isLineEnd c = true
    · by_cases hpair : c = '\r' ∧ rest.head? = some '\n'
      · obtain ⟨rfl, hhead⟩ := hpair
        obtain ⟨more, rfl⟩ := List.head?_eq_some_iff.mp hhead
        rw [escapeTriple_cons (by decide) (not_prefix_feed more), splitLines_cons_feed,
          splitLines_cons_feed] at ih
        rw [escapeTriple_cons (by decide) (not_prefix_feed more), splitLines_pair, splitLines_pair]
        exact ih
      · have hapart : c = '\r' → rest.head? ≠ some '\n' := fun hc hhead => hpair ⟨hc, hhead⟩
        rw [splitLines_cons_end hend hapart,
          splitLines_cons_end hend fun hc hhead => hapart hc (head?_of_escapeTriple hhead), ih]
        rfl
    · have hend' : isLineEnd c = false := Bool.not_eq_true _ ▸ hend
      have hfirst := headD_splitLines_front rest
      apply hmap [c] [c] rest ih (by simpa using hend') (by simpa using hend')
      apply escapeTriple_cons hslash
      intro hquotes'
      exact hquotes (hquotes'.trans (List.cons_prefix_cons.mpr ⟨rfl, hfirst⟩))

/-- A line of a documentation as it stands in source code. -/
def indented (l : List Char) : String :=
  if (String.ofList l).isEmpty then "" else indent ++ String.ofList l

theorem documentationLines_eq {text : String} {first : List Char} {more : List (List Char)}
    (h : splitLines (escapeTriple text.toList) = first :: more) :
    documentationLines text =
      (indent ++ "\"\"\"" ++ String.ofList first) :: more.map indented ++ [indent ++ "\"\"\""] := by
  simp only [documentationLines, h, List.map_cons, List.headD_cons, List.tail_cons, List.map_map]
  rfl

theorem unescaped_indented (l : List Char) :
    (unescaped (indented (escapeTriple l)).toList).length ≤ l.length + 4 := by
  unfold indented
  split
  next => simp [unescaped]
  next =>
    rw [String.toList_append, String.toList_ofList]
    have hmargin : unescaped (indent.toList ++ escapeTriple l) = indent.toList ++ l := by
      have hspaces : indent.toList = [' ', ' ', ' ', ' '] := rfl
      simp [hspaces, unescaped_cons, unescaped_escapeTriple]
    rw [hmargin, List.length_append, Nat.add_comm]
    exact Nat.le_refl _

end Overloads.Source

namespace Overloads

open Overloads.Source Overloads.Text

variable {n : Int} {r : Routine} {s : DeclaredSignature} {l : String}

theorem margins_lt_width (n : Int) (started : Bool) :
    (signatureMargins n).of started < (signatureMargins n).width := by
  have hmargin : (signatureMargins n).of started ≤ 8 := by
    cases started <;> simp [Margins.of, signatureMargins]
  have hwidth : 20 ≤ (signatureMargins n).width := by
    simp only [signatureMargins]
    omega
  omega

theorem length_le_of_mem_lines (h : l ∈ s.lines (some n)) : l.length ≤ max (n - 4) 20 := by
  obtain ⟨line, hline, rfl⟩ := List.mem_map.mp h
  have hle := length_le_of_mem_wrap (fun started => Nat.le_of_lt (margins_lt_width n started)) hline
  simp only [signatureMargins] at hle
  rw [String.length_ofList]
  omega

theorem feed_notMem_lines (h : l ∈ s.lines (some n)) : '\n' ∉ l.toList := by
  obtain ⟨line, hline, rfl⟩ := List.mem_map.mp h
  rw [String.toList_ofList]
  intro hfeed
  exact absurd (eq_space_of_mem_wrap hline hfeed (by decide)) (by decide)

theorem inked_lines (n : Int) (s : DeclaredSignature) :
    inked ((s.lines (some n)).flatMap String.toList) = inked s.line.toList := by
  have htexts (ls : List (List Char)) : (ls.map String.ofList).flatMap String.toList = ls.flatten := by
    simp [List.flatMap_def]
  rw [DeclaredSignature.lines, htexts, inked_wrap (margins_lt_width n)]

/-- The name of a routine in its documentation. -/
def Routine.heading (r : Routine) : String := "Dispatch " ++ r.owner ++ "." ++ r.memberName ++ "."

/-- The lines for the signatures of a routine. -/
def Routine.signatureLines (r : Routine) (n : Int) : List String :=
  r.signatures.flatMap (·.lines (some n))

theorem documentation_eq (r : Routine) (n : Int) :
    r.documentation (some n) =
      "\n".intercalate (r.heading :: "" :: "Signatures:" :: r.signatureLines n) := rfl

/-- The lines of the heading, an empty one, the title of the signatures, and the lines for these. -/
theorem splitLines_documentation (r : Routine) (n : Int) :
    splitLines (r.documentation (some n)).toList =
      splitLines (r.heading.toList ++ ['\n']) ++ [] :: "Signatures:".toList ::
        splitLines (['\n'].intercalate ((r.signatureLines n).map String.toList)) := by
  have htext : (r.documentation (some n)).toList = r.heading.toList ++ '\n' :: '\n' ::
      ['\n'].intercalate ("Signatures:".toList :: (r.signatureLines n).map String.toList) := by
    have hfeed : "\n".toList = ['\n'] := rfl
    rw [documentation_eq, String.toList_intercalate, hfeed, List.map_cons, List.map_cons,
      List.map_cons, List.intercalate_cons_cons, List.intercalate_cons_cons, List.append_assoc]
    rfl
  rw [htext, splitLines_feed, splitLines_cons_feed]
  cases r.signatureLines n with
  | nil => rfl
  | cons l ls =>
    rw [List.map_cons, List.intercalate_cons_cons, List.append_assoc, List.singleton_append,
      splitLines_feed]
    rfl

/-- The lines for the signatures of a routine as they stand in source code. -/
def Routine.sourceLines (r : Routine) (n : Int) : List String :=
  (splitLines (['\n'].intercalate ((r.signatureLines n).map String.toList))).map
    (indented ∘ escapeTriple)

/-- What stands in the source above and below the lines for the signatures does not depend on the width. -/
theorem lines_definition (hook : Option String) (r : Routine) : ∃ above below, ∀ n : Int,
    (definition hook (some (some n)) r).lines =
      above ++ (indent ++ "Signatures:") :: r.sourceLines n ++ (indent ++ "\"\"\"") :: below := by
  obtain ⟨first, more, hheading⟩ :=
    List.exists_cons_of_ne_nil (splitLines_ne_nil (s := r.heading.toList ++ ['\n']) (by simp))
  refine ⟨("def " ++ r.identifier ++ "(*args):") ::
      (indent ++ "\"\"\"" ++ String.ofList (escapeTriple first)) ::
        more.map (indented ∘ escapeTriple) ++ [""],
    (definition hook none r).lines.tail, ?_⟩
  intro n
  have hlines : splitLines (escapeTriple (r.documentation (some n)).toList) =
      escapeTriple first :: (more.map escapeTriple ++ [] :: "Signatures:".toList ::
        (splitLines (['\n'].intercalate ((r.signatureLines n).map String.toList))).map
          escapeTriple) := by
    rw [splitLines_escapeTriple, splitLines_documentation, hheading, List.map_append, List.map_cons,
      List.map_cons, List.map_cons]
    rfl
  have hwhole : (definition hook (some (some n)) r).lines =
      ("def " ++ r.identifier ++ "(*args):") :: documentationLines (r.documentation (some n)) ++
        (definition hook none r).lines.tail := by
    simp [Definition.lines, definition]
  have hempty : indented [] = "" := rfl
  have htitle : indented "Signatures:".toList = indent ++ "Signatures:" := by
    simp [indented]
  rw [hwhole, documentationLines_eq hlines, List.map_append, List.map_cons, List.map_cons,
    List.map_map, List.map_map, hempty, htitle, Routine.sourceLines]
  simp only [List.cons_append, List.append_assoc, List.nil_append]

/-- A line for the signatures says no more in source code than the line by itself, behind its indent. -/
theorem length_unescaped_le (h : l ∈ r.sourceLines n) :
    (unescaped l.toList).length ≤ max n 24 := by
  obtain ⟨piece, hpiece, rfl⟩ := List.mem_map.mp h
  have hbound : piece.length ≤ (max (n - 4) 20).toNat := by
    apply length_le_of_mem_splitLines_joined _ hpiece
    intro line hline
    obtain ⟨text, htext, rfl⟩ := List.mem_map.mp hline
    obtain ⟨s, -, hs⟩ := List.mem_flatMap.mp htext
    have hle := length_le_of_mem_lines hs
    rw [String.length_toList]
    omega
  have hle := unescaped_indented piece
  rw [Function.comp_apply]
  omega

/--
The signatures of a routine are written in lines of the width less four, or of 20 if that is less, and but for
blanks the lines of a signature are its text. In source code the lines are indented by four more; what
they say is no longer than the width or 24, beside the backslashes that escape another or a quote.
-/
theorem documented_within_width (r : Routine) :
    (∀ n : Int, r.documentation (some n) =
      "\n".intercalate ([r.heading, "", "Signatures:"] ++ r.signatures.flatMap (·.lines (some n)))) ∧
    (∀ n : Int, ∀ s ∈ r.signatures,
      (∀ l ∈ s.lines (some n), l.length ≤ max (n - 4) 20 ∧ '\n' ∉ l.toList) ∧
      inked ((s.lines (some n)).flatMap String.toList) = inked s.line.toList) ∧
    ∀ hook, ∃ above below, ∀ n : Int,
      (definition hook (some (some n)) r).lines =
        above ++ (indent ++ "Signatures:") :: r.sourceLines n ++ (indent ++ "\"\"\"") :: below ∧
      ∀ l ∈ r.sourceLines n, (unescaped l.toList).length ≤ max n 24 := by
  refine ⟨documentation_eq r, ?_, ?_⟩
  · intro n s _
    refine ⟨?_, inked_lines n s⟩
    intro l hl
    exact ⟨length_le_of_mem_lines hl, feed_notMem_lines hl⟩
  · intro hook
    obtain ⟨above, below, hlines⟩ := lines_definition hook r
    exact ⟨above, below, fun n => ⟨hlines n, fun l hl => length_unescaped_le hl⟩⟩

/-- What is declared for counting the pallets of a warehouse. -/
def palletCount : DeclaredSignature := ⟨["warehouse.inventory.Pallet", "object"], "int"⟩

/-- The first type is cut in two, and no blank stands at the end of a line. -/
theorem palletCount_within_width :
    palletCount.lines (some 1) =
      ["    (warehouse.inven", "        tory.Pallet,", "        object) ->", "        int"] ∧
    ∀ l ∈ palletCount.lines (some 1), l.length ≤ 20 := by
  let r : Routine := ⟨"count", "count", "count", "warehouse.inventory.Pallet", [palletCount], []⟩
  obtain ⟨-, hlines, -⟩ := documented_within_width r
  obtain ⟨hwithin, -⟩ := hlines 1 palletCount (by simp [r])
  refine ⟨by rfl, ?_⟩
  intro l hl
  have hle := (hwithin l hl).1
  omega

/-- Makes a `Lid` of a module whose name is six backslashes. -/
def lidMaker : Member where
  name := "f"
  kind := .method
  declared := []
  returns := .reference ⟨["\\\\\\\\\\\\"], ["Lid"]⟩
  owner := .object
  target := .scripted "f" .trace
  path := "object.f"
  varargs := none
  isStatic := true

/-- A line that is within the width by itself is longer with every backslash escaped. -/
theorem escaped_line_too_long :
    ∃ r, Routine.assembleNamed false "" "f" [lidMaker] none none = .ok r ∧
      ∃ l ∈ r.sourceLines 20, l ∈ (definition none (some (some 20)) r).lines ∧
        max (20 : Int) 24 < l.length := by
  refine ⟨_, Routine.assemble_eq (List.cons_ne_nil lidMaker []) false "f" _ _, ?_⟩
  generalize hr : Routine.laidOut "f" [lidMaker] _ _ = r
  have hsource : r.sourceLines 20 = ["        () -> \\\\\\\\\\\\\\\\\\\\\\\\.Lid"] := by
    rw [← hr]
    rfl
  obtain ⟨above, below, hlines⟩ := lines_definition none r
  have hmem : "        () -> \\\\\\\\\\\\\\\\\\\\\\\\.Lid" ∈ r.sourceLines 20 := by simp [hsource]
  refine ⟨_, hmem, ?_, by decide⟩
  rw [hlines]
  simp [hmem]

end Overloads
