import Overloads.Dependency.Coordinate
import Overloads.Proofs.Outcome

/-! Coordinates and their bracketed form: which ones are read back from it. -/
namespace Overloads.Coordinate

open Overloads.Text

variable {c : Coordinate} {raw : String} {s name : List Char}

/-- That the two names have no white space, quotes or brackets, and the version no quotes. -/
structure Plain (c : Coordinate) : Prop where
  group : ∀ d ∈ c.group.toList, isBlank d = false ∧ d ≠ '"' ∧ d ≠ '[' ∧ d ≠ ']'
  artifact : ∀ d ∈ c.artifact.toList, isBlank d = false ∧ d ≠ '"' ∧ d ≠ '[' ∧ d ≠ ']'
  version : '"' ∉ c.version.toList

/-- That neither name is empty, and the artifact is what follows the last slash. -/
structure Named (c : Coordinate) : Prop where
  group : c.group ≠ ""
  artifact : c.artifact ≠ ""
  slash : '/' ∉ c.artifact.toList

theorem isNameChar_iff {d : Char} :
    isNameChar d = true ↔ isBlank d = false ∧ d ≠ '"' ∧ d ≠ '[' ∧ d ≠ ']' := by
  simp [isNameChar, and_assoc]

/-- What stands between the brackets is a name and a version that hold no more than they may. -/
theorem allowed_of_bracketed? {v : List Char} (h : bracketed? s = some (name, v)) :
    (∀ d ∈ name, isNameChar d = true) ∧ '"' ∉ v := by
  unfold bracketed? at h
  simp only [] at h
  split at h
  · split at h
    · split at h
      · cases h
      · split at h
        · split at h
          · cases h
            refine ⟨List.all_eq_true.mp List.all_takeWhile, fun hmem => ?_⟩
            simpa using List.all_eq_true.mp List.all_takeWhile _ hmem
          · cases h
        · cases h
    · cases h
  · cases h

/-- What is taken while `p` holds is cut off in front of the first other character. -/
theorem takeWhile_dropWhile_cut {p : Char → Bool} {d : Char} (hs : ∀ e ∈ s, p e = true)
    (hd : p d = false) (rest : List Char) :
    (s ++ d :: rest).takeWhile p = s ∧ (s ++ d :: rest).dropWhile p = d :: rest := by
  rw [List.takeWhile_append_of_pos hs, List.dropWhile_append_of_pos hs]
  simp [hd]

theorem bracketed?_brackets {v : List Char} (hne : name ≠ []) (hname : ∀ d ∈ name, isNameChar d = true)
    (hversion : '"' ∉ v) :
    bracketed? ('[' :: (name ++ ' ' :: '"' :: (v ++ ['"', ']']))) = some (name, v) := by
  have hstart (rest : List Char) : (name ++ rest).dropWhile isBlank = name ++ rest := by
    obtain ⟨d, more, rfl⟩ := List.exists_cons_of_ne_nil hne
    exact List.dropWhile_cons_of_neg (by simp [isNameChar_iff.mp (hname d List.mem_cons_self)])
  have hname' := takeWhile_dropWhile_cut hname (d := ' ') (by decide) ('"' :: (v ++ ['"', ']']))
  have hblank : (' ' :: '"' :: (v ++ ['"', ']'])).dropWhile isBlank = '"' :: (v ++ ['"', ']']) := rfl
  have hversion' := takeWhile_dropWhile_cut (s := v) (p := (· ≠ '"')) (d := '"')
    (fun e he => by simpa using ne_of_mem_of_not_mem he hversion) (by decide) [']']
  have hclose : [']'].dropWhile isBlank = [']'] := rfl
  have hempty : name.isEmpty = false := by simpa using hne
  simp only [bracketed?, hstart, hname', hblank, hversion', hclose, hempty]
  rfl

/-- The parts of a name hold no more than the name does. -/
theorem of_ofName {v : List Char} (h : ofName raw name v = .ok c) :
    c.Named ∧ (∀ d ∈ c.group.toList, d ∈ name) ∧ (∀ d ∈ c.artifact.toList, d ∈ name) ∧
      c.version = String.ofList v := by
  unfold ofName at h
  dsimp only at h
  split at h
  · cases h
  next hempty =>
    cases h
    have hartifact : ∀ d ∈ (name.reverse.takeWhile (· ≠ '/')).reverse, d ∈ name := by
      intro d hd
      exact List.mem_reverse.mp ((List.takeWhile_sublist _).mem (List.mem_reverse.mp hd))
    have hgroup : ∀ d ∈ ((name.reverse.dropWhile (· ≠ '/')).drop 1).reverse, d ∈ name := by
      intro d hd
      exact List.mem_reverse.mp ((List.dropWhile_sublist _).mem
        (List.mem_of_mem_drop (List.mem_reverse.mp hd)))
    have hne : String.ofList (name.reverse.takeWhile (· ≠ '/')).reverse ≠ "" := by
      simpa [String.isEmpty_iff] using hempty
    refine ⟨⟨?_, hne, ?_⟩, ?_, by simpa using hartifact, rfl⟩
    · dsimp only
      split
      · exact hne
      · rename_i hgroupEmpty
        simpa [String.isEmpty_iff] using hgroupEmpty
    · rw [String.toList_ofList, List.mem_reverse]
      intro hmem
      simpa using List.all_eq_true.mp List.all_takeWhile _ hmem
    · dsimp only
      split
      · simpa using hartifact
      · simpa using hgroup

theorem ofName_joined (h : c.Named) :
    ofName raw (c.group.toList ++ '/' :: c.artifact.toList) c.version.toList = .ok c := by
  have hrev : (c.group.toList ++ '/' :: c.artifact.toList).reverse =
      c.artifact.toList.reverse ++ '/' :: c.group.toList.reverse := by simp
  have hcut := takeWhile_dropWhile_cut (s := c.artifact.toList.reverse) (p := (· ≠ '/')) (d := '/')
    (fun d hd => by simpa using ne_of_mem_of_not_mem (List.mem_reverse.mp hd) h.slash) (by decide)
    c.group.toList.reverse
  simp only [ofName, hrev, hcut]
  simp [h.group, h.artifact]

theorem toList_text (c : Coordinate) : c.text.toList =
    '[' :: ((c.group.toList ++ '/' :: c.artifact.toList) ++
      ' ' :: '"' :: (c.version.toList ++ ['"', ']'])) := by
  simp [text]

/-- The bracketed form begins with a bracket and has no white space at its ends. -/
theorem trim_text (c : Coordinate) : trim c.text = c.text := by
  have hhead : c.text.toList.head? = some '[' := by
    rw [toList_text]
    rfl
  have hlast : c.text.toList.getLast? = some ']' := by
    simp [toList_text, List.getLast?_cons, List.getLast?_append]
  apply trim_of_edges
  · rw [hhead]
    rintro d ⟨⟩
    rfl
  · rw [hlast]
    rintro d ⟨⟩
    rfl

theorem startsWith_text (c : Coordinate) : c.text.startsWith "[" = true := by
  rw [String.startsWith_string_iff, toList_text]
  exact ⟨_, rfl⟩

/-- Whatever is read between brackets can be written between brackets. -/
theorem plain_of_parse (hform : (trim raw).startsWith "[" = true) (h : parse raw = .ok c) :
    c.Plain := by
  unfold parse at h
  simp only [hform, if_true] at h
  split at h
  next name v hfound =>
    obtain ⟨hname, hversion⟩ := allowed_of_bracketed? hfound
    obtain ⟨-, hgroup, hartifact, hof⟩ := of_ofName h
    refine ⟨fun d hd => isNameChar_iff.mp (hname d (hgroup d hd)),
      fun d hd => isNameChar_iff.mp (hname d (hartifact d hd)), ?_⟩
    rwa [hof, String.toList_ofList]
  next => cases h

theorem named_of_parse (h : parse raw = .ok c) : c.Named := by
  unfold parse at h
  dsimp only at h
  split at h
  · exact (of_ofName h).1
  · cases h

theorem parse_text (hnamed : c.Named) (hplain : c.Plain) : parse c.text = .ok c := by
  have hfound : bracketed? c.text.toList =
      some (c.group.toList ++ '/' :: c.artifact.toList, c.version.toList) := by
    rw [toList_text]
    apply bracketed?_brackets (by simp) _ hplain.version
    intro d hd
    rcases List.mem_append.mp hd with hd | hd
    · exact isNameChar_iff.mpr (hplain.group d hd)
    · rcases List.mem_cons.mp hd with rfl | hd
      · decide
      · exact isNameChar_iff.mpr (hplain.artifact d hd)
  simp only [parse, trim_text, startsWith_text, if_true, hfound]
  exact ofName_joined hnamed

/--
A coordinate that was read is read back from its bracketed form exactly if its names are free of white
space, quotes and brackets and its version of quotes. What stood between brackets always is.
-/
theorem parse_text_iff (h : parse raw = .ok c) :
    (parse c.text = .ok c ↔ c.Plain) ∧
      ((trim raw).startsWith "[" = true → parse c.text = .ok c) := by
  have hback : c.Plain → parse c.text = .ok c := parse_text (named_of_parse h)
  constructor
  · refine ⟨fun htext => ?_, hback⟩
    apply plain_of_parse _ htext
    rw [trim_text]
    exact startsWith_text c
  · exact fun hform => hback (plain_of_parse hform h)

/-- Slashes and line breaks are kept between brackets; white space between colons is not read back. -/
theorem slashes_read_back :
    parse "\t[ a//b \"1\n2\" ]" = .ok ⟨"a/", "b", "1\n2"⟩ ∧
      parse (text ⟨"a/", "b", "1\n2"⟩) = .ok ⟨"a/", "b", "1\n2"⟩ ∧
      parse "my lib:1" = .ok ⟨"my lib", "my lib", "1"⟩ ∧
      parse (text ⟨"my lib", "my lib", "1"⟩) ≠ .ok ⟨"my lib", "my lib", "1"⟩ := by
  have hslashes : parse "\t[ a//b \"1\n2\" ]" = .ok ⟨"a/", "b", "1\n2"⟩ :=
    Except.eq_ok_of_toOption (by decide +kernel)
  have hspace : parse "my lib:1" = .ok ⟨"my lib", "my lib", "1"⟩ :=
    Except.eq_ok_of_toOption (by decide +kernel)
  refine ⟨hslashes, (parse_text_iff hslashes).2 ?_, hspace, fun htext => ?_⟩
  · rw [String.startsWith_string_iff]
    decide
  · have hplain := (parse_text_iff hspace).1.mp htext
    exact absurd (hplain.group ' ' (by decide)) (by decide)

end Overloads.Coordinate
