import Overloads.Class.Names
import Overloads.Proofs.Class.Name

/-! The search for a class by its name: where it ends, and the failures that it ends with. -/
namespace Overloads

open Overloads.Text

namespace World

variable {w : World} {handle : Value} {s name : String} {parts parents : List String} {split n : Nat}
variable {m : ModuleInfo} {f : Failure} {reason : String}

theorem importBelow_eq_error (h : w.importBelow parents parts = .error f) :
    ∃ reason, f = .moduleMissing reason := by
  induction parts generalizing parents with
  | nil =>
    rw [importBelow] at h
    split at h
    · cases h
    · cases h
      exact ⟨_, rfl⟩
  | cons part rest ih =>
    rw [importBelow] at h
    dsimp only at h
    split at h
    · exact ih h
    · cases h
      exact ⟨_, rfl⟩

/-- A name that is not empty and starts with no dot is imported, or its module is missing. -/
theorem importModule_of_not_startsWith (hne : name ≠ "") (hdot : name.startsWith "." = false) :
    (∃ m, w.importModule name = .ok m) ∨
      ∃ reason, w.importModule name = .error (.moduleMissing reason) := by
  have hempty : ¬ name.isEmpty := fun h => hne (String.isEmpty_iff.mp h)
  rw [importModule, if_neg (by simp [hdot]), if_neg hempty]
  cases h : w.importBelow [] (splitDots name) with
  | ok m => exact .inl ⟨m, rfl⟩
  | error f =>
    obtain ⟨reason, rfl⟩ := importBelow_eq_error h
    exact .inr ⟨reason, rfl⟩

/-- The first `split` parts of a dotted name are no module. -/
def Misses (w : World) (parts : List String) (split : Nat) : Prop :=
  ∃ reason, w.importModule (dotted (parts.take split)) = .error (.moduleMissing reason)

/-- The first `split` parts are the longest front of a dotted name that is a module. -/
structure Imports (w : World) (parts : List String) (split : Nat) (m : ModuleInfo) : Prop where
  lt : split < parts.length
  imported : w.importModule (dotted (parts.take split)) = .ok m
  longest : ∀ k, split < k → k < parts.length → w.Misses parts k

end World

open World ClassSearch

variable {w : World} {handle : Value} {s : String} {parts : List String} {split n : Nat}
variable {m : ModuleInfo} {f : Failure} {reason : String}

namespace ClassSearch

/-- What a search ends with that found the module of the first `split` parts. -/
def behind (w : World) (handle : Value) (parts : List String) (split : Nat) (m : ModuleInfo) :
    Except Failure ClassName :=
  match w.attributes (.module m.name) (parts.drop split) with
  | .error f =>
    if isMissing f then
      (unknown w handle ("module " ++ dotted (parts.take split) ++ " has no attribute " ++
        dotted (parts.drop split))).result
    else .error f
  | .ok t =>
    match Thing.class? t with
    | some c => .ok c
    | none => (unknown w handle (dotted parts ++ " is not a class")).result

theorem splitting_succ_of_imports
    (h : w.importModule (dotted (parts.take (n + 1))) = .ok m) :
    (splitting w handle parts (n + 1)).result = behind w handle parts (n + 1) m := by
  rw [splitting, behind]
  simp only [h]
  cases w.attributes (.module m.name) (parts.drop (n + 1)) with
  | error f =>
    dsimp only
    split <;> rfl
  | ok t =>
    dsimp only
    cases Thing.class? t <;> rfl

theorem splitting_succ_of_misses (h : w.Misses parts (n + 1)) :
    (splitting w handle parts (n + 1)).result = (splitting w handle parts n).result := by
  obtain ⟨reason, h⟩ := h
  rw [splitting]
  simp only [h]

/-- The search goes down from the longest front, as long as modules are missing. -/
theorem splitting_of_imports (h : w.Imports parts split m) (hpos : 0 < split) (hle : split ≤ n)
    (hlt : n < parts.length) :
    (splitting w handle parts n).result = behind w handle parts split m := by
  induction hle with
  | refl =>
    cases split with
    | zero => omega
    | succ k => exact splitting_succ_of_imports h.imported
  | @step n hle ih =>
    have hle : split ≤ n := hle
    rw [splitting_succ_of_misses (h.longest (n + 1) (by omega) hlt), ih (by omega)]

theorem splitting_of_misses (h : ∀ k, 0 < k → k < parts.length → w.Misses parts k)
    (hlt : n < parts.length) :
    (splitting w handle parts n).result = (unknown w handle noModule).result := by
  induction n with
  | zero => rfl
  | succ n ih =>
    rw [splitting_succ_of_misses (h (n + 1) (Nat.succ_pos n) hlt), ih (by omega)]

/-- A longest front that is a module, or none at all. -/
theorem imports_or_misses (hdot : s.startsWith "." = false) :
    (∃ split m, 0 < split ∧ w.Imports (splitDots s) split m) ∨
      ∀ k, 0 < k → k < (splitDots s).length → w.Misses (splitDots s) k := by
  -- Going down from the whole: everything longer than `n` parts is missing.
  suffices hdown : ∀ n, (∀ k, n < k → k < (splitDots s).length → w.Misses (splitDots s) k) →
      (∃ split m, 0 < split ∧ w.Imports (splitDots s) split m) ∨
        ∀ k, 0 < k → k < (splitDots s).length → w.Misses (splitDots s) k from
    hdown (splitDots s).length fun k hlt hlt' => absurd hlt' (by omega)
  intro n
  induction n with
  | zero => exact .inr
  | succ n ih =>
    intro habove
    by_cases hlt : n + 1 < (splitDots s).length
    · obtain ⟨hne, hfront⟩ := front_of_not_startsWith hdot (Nat.succ_pos n) hlt
      rcases importModule_of_not_startsWith (w := w) hne hfront with ⟨m, hm⟩ | hmissing
      · exact .inl ⟨n + 1, m, Nat.succ_pos n, hlt, hm, habove⟩
      · refine ih fun k hk hk' => ?_
        rcases Nat.lt_or_eq_of_le (Nat.succ_le_of_lt hk) with hk | rfl
        · exact habove k hk hk'
        · exact hmissing
    · exact ih fun k hk hk' => habove k (by omega) hk'

/-- What the import system says of the front of a name that starts with a dot. -/
def leadFailure (name : String) : Failure :=
  let front := dotted (splitDots name).dropLast
  if front.isEmpty then .emptyModuleName else .relativeModule front

theorem importModule_of_startsWith (hdot : s.startsWith ".") :
    w.importModule (dotted (splitDots s).dropLast) = .error (leadFailure s) := by
  obtain ⟨rest, hne, hparts⟩ := splitDots_of_startsWith hdot
  have hfront : (splitDots s).dropLast = "" :: rest.dropLast := by
    rw [hparts, List.dropLast_cons_of_ne_nil hne]
  rw [leadFailure, hfront]
  cases hrest : rest.dropLast with
  | nil => rfl
  | cons part more =>
    have hlead : (dotted ("" :: part :: more)).startsWith "." := by
      rw [dotted, String.intercalate_cons_cons, String.startsWith_string_iff]
      exact ⟨(dotted (part :: more)).toList, by simp [dotted]⟩
    have hempty : ¬ (dotted ("" :: part :: more)).isEmpty := by
      rw [String.isEmpty_iff]
      intro h
      simp [h] at hlead
    rw [World.importModule, if_pos hlead, if_neg hempty]

theorem leadFailure_eq (name : String) :
    leadFailure name = .emptyModuleName ∨ ∃ front, leadFailure name = .relativeModule front := by
  rw [leadFailure]
  split
  · exact .inl rfl
  · exact .inr ⟨_, rfl⟩

theorem length_of_startsWith (hdot : s.startsWith ".") : 1 < (splitDots s).length := by
  obtain ⟨rest, hne, hparts⟩ := splitDots_of_startsWith hdot
  rw [hparts, List.length_cons]
  exact Nat.succ_lt_succ (List.length_pos_iff.mpr hne)

/-- A name that starts with a dot is given to the import system at once, and the search is over. -/
theorem splitting_of_startsWith (hdot : s.startsWith ".") :
    (splitting w handle (splitDots s) ((splitDots s).length - 1)).result =
      .error (leadFailure s) := by
  have hlength := length_of_startsWith hdot
  have himport := importModule_of_startsWith (w := w) hdot
  obtain ⟨n, hn⟩ : ∃ n, (splitDots s).length - 1 = n + 1 := ⟨(splitDots s).length - 2, by omega⟩
  rw [List.dropLast_eq_take, hn] at himport
  rw [hn, splitting]
  simp only [himport]
  rcases leadFailure_eq s with hlead | ⟨front, hlead⟩ <;> rw [hlead]

end ClassSearch

/-- Why a handle stands for no class. -/
inductive Classless (w : World) (handle : Value) : String → Prop where
  | noText : (∀ c, handle ≠ .type c) → handle.asText? = none → Classless w handle notAClass
  | blank {s : String} : handle.asText? = some s → trim s = "" → Classless w handle notAClass
  | builtin {s : String} : handle.asText? = some s → trim s ≠ "" → '.' ∉ (trim s).toList →
      w.builtinClass? (trim s) = none → Classless w handle noBuiltin
  | module {s : String} : handle.asText? = some s → '.' ∈ (trim s).toList →
      (∀ k, 0 < k → k < (splitDots (trim s)).length → w.Misses (splitDots (trim s)) k) →
      Classless w handle noModule
  | lacking {s : String} {split : Nat} {m : ModuleInfo} {f : Failure} :
      handle.asText? = some s → w.Imports (splitDots (trim s)) split m →
      w.attributes (.module m.name) ((splitDots (trim s)).drop split) = .error f → isMissing f →
      Classless w handle ("module " ++ dotted ((splitDots (trim s)).take split) ++
        " has no attribute " ++ dotted ((splitDots (trim s)).drop split))
  | noClass {s : String} {split : Nat} {m : ModuleInfo} {t : Thing} :
      handle.asText? = some s → w.Imports (splitDots (trim s)) split m →
      w.attributes (.module m.name) ((splitDots (trim s)).drop split) = .ok t →
      Thing.class? t = none → Classless w handle (trim s ++ " is not a class")

/-- The reason is told in words. -/
theorem Classless.ne_empty {w : World} {handle : Value} {reason : String}
    (h : Classless w handle reason) : reason ≠ "" := by
  cases h <;> simp [notAClass, noBuiltin, noModule]

/-- The failures that say something else than that a handle stands for no class. -/
inductive Escaping (w : World) (handle : Value) : Failure → Prop where
  /-- The name starts with a dot. -/
  | lead {s : String} : handle.asText? = some s → (trim s).startsWith "." →
      Escaping w handle (leadFailure (trim s))
  /-- Something on the way to the class fails when it is asked for an attribute. -/
  | asking {s : String} {split : Nat} {m : ModuleInfo} {f : Failure} :
      handle.asText? = some s → w.Imports (splitDots (trim s)) split m →
      w.attributes (.module m.name) ((splitDots (trim s)).drop split) = .error f →
      ¬ isMissing f → Escaping w handle f
  /-- The handle fails when it is asked for its text. -/
  | sentence {reason : String} {f : Failure} : Classless w handle reason →
      w.sentence handle = .error f → Escaping w handle f

theorem unknown_eq_error : (unknown w handle reason).result = .error f ↔
    (∃ shown, w.sentence handle = .ok shown ∧ f = .unknownClass shown reason) ∨
      w.sentence handle = .error f := by
  rw [unknown]
  cases w.sentence handle with
  | ok shown =>
    simp only [Except.bind, Except.error.injEq, Except.ok.injEq, exists_eq_left', reduceCtorEq, or_false]
    exact eq_comm
  | error e => simp [Except.bind]

theorem resolveClass_of_asText (h : handle.asText? = some s) :
    w.resolveClass handle = (ofText w handle s).result := by
  cases handle with
  | type c => cases h
  | _ => simp only [resolveClass, ClassSearch.of, h]

theorem resolveClass_of_dotted (h : handle.asText? = some s) (hdot : '.' ∈ (trim s).toList) :
    w.resolveClass handle =
      (splitting w handle (splitDots (trim s)) ((splitDots (trim s)).length - 1)).result := by
  have hempty : ¬ (trim s).isEmpty := by
    rw [String.isEmpty_iff]
    intro hs
    simp [hs] at hdot
  rw [resolveClass_of_asText h, ofText, if_neg hempty, if_pos (by simp [hdot])]

/-- Only a name with a dot has a front that can be a module. -/
theorem World.Imports.facts (h : w.Imports (splitDots s) split m) :
    0 < split ∧ '.' ∈ s.toList ∧ s.startsWith "." = false := by
  have hpos : 0 < split := by
    rcases Nat.eq_zero_or_pos split with rfl | hpos
    · have himported := h.imported
      rw [List.take_zero] at himported
      cases himported
    · exact hpos
  refine ⟨hpos, ?_, ?_⟩
  · rw [dotted_split hpos h.lt]
    simp
  · rw [Bool.eq_false_iff]
    intro hdot
    have himport := importModule_of_startsWith (w := w) hdot
    have hlead := leadFailure_eq s
    rw [List.dropLast_eq_take] at himport
    rcases Nat.lt_or_ge split ((splitDots s).length - 1) with hlt | hge
    · obtain ⟨reason, hmissing⟩ := h.longest _ hlt (by omega)
      rw [himport] at hmissing
      rcases hlead with hlead | ⟨front, hlead⟩ <;> simp [hlead] at hmissing
    · have hsplit : split = (splitDots s).length - 1 := by
        have := h.lt
        omega
      have himported := h.imported
      rw [hsplit, himport] at himported
      cases himported

theorem resolveClass_of_imports (h : handle.asText? = some s)
    (himports : w.Imports (splitDots (trim s)) split m) :
    w.resolveClass handle = behind w handle (splitDots (trim s)) split m := by
  obtain ⟨hpos, hdot, -⟩ := himports.facts
  have hlt := himports.lt
  rw [resolveClass_of_dotted h hdot]
  exact splitting_of_imports himports hpos (by omega) (by omega)

theorem resolveClass_of_startsWith (h : handle.asText? = some s) (hdot : (trim s).startsWith ".") :
    w.resolveClass handle = .error (leadFailure (trim s)) := by
  have hmem : '.' ∈ (trim s).toList := by
    obtain ⟨rest, hrest⟩ := String.startsWith_string_iff.mp hdot
    rw [← hrest]
    simp
  rw [resolveClass_of_dotted h hmem, splitting_of_startsWith hdot]

/-- Where a handle stands for no class, the search ends with the reason. -/
theorem resolveClass_of_classless (h : Classless w handle reason) :
    w.resolveClass handle = (unknown w handle reason).result := by
  cases h with
  | noText hclass hnone =>
    cases handle with
    | type c => exact (hclass c rfl).elim
    | _ => simp only [resolveClass, ClassSearch.of, hnone]
  | blank htext hblank =>
    rw [resolveClass_of_asText htext, ofText, if_pos (by simp [hblank])]
  | builtin htext hne hdot hnone =>
    have hempty : ¬ (trim _).isEmpty := fun h => hne (String.isEmpty_iff.mp h)
    rw [resolveClass_of_asText htext, ofText, if_neg hempty, if_neg (by simp [hdot])]
    rw [hnone]
  | module htext hdot hmisses =>
    rw [resolveClass_of_dotted htext hdot]
    exact splitting_of_misses hmisses (Nat.sub_lt (List.length_pos_iff.mpr (splitDots_ne_nil _))
      Nat.one_pos)
  | lacking htext himports hf hmissing =>
    rw [resolveClass_of_imports htext himports, behind, hf]
    exact if_pos hmissing
  | noClass htext himports ht hclass =>
    rw [resolveClass_of_imports htext himports, behind, ht]
    dsimp only
    rw [hclass, dotted_splitDots]

theorem resolveClass_of_escaping (h : Escaping w handle f) : w.resolveClass handle = .error f := by
  cases h with
  | lead htext hdot => exact resolveClass_of_startsWith htext hdot
  | asking htext himports hf hmissing =>
    rw [resolveClass_of_imports htext himports, behind, hf]
    exact if_neg hmissing
  | sentence hclassless hf =>
    rw [resolveClass_of_classless hclassless]
    exact unknown_eq_error.mpr (.inr hf)

/-- Every search ends at a class, without one, or with a failure that says neither. -/
theorem resolveClass_cases (w : World) (handle : Value) :
    (∃ c, w.resolveClass handle = .ok c) ∨ (∃ reason, Classless w handle reason) ∨
      ∃ f, Escaping w handle f := by
  cases htext : handle.asText? with
  | none =>
    by_cases hclass : ∃ c, handle = .type c
    · obtain ⟨c, rfl⟩ := hclass
      exact .inl ⟨c, rfl⟩
    · exact .inr (.inl ⟨_, .noText (not_exists.mp hclass) htext⟩)
  | some s =>
    by_cases hdot : '.' ∈ (trim s).toList
    · cases hlead : (trim s).startsWith "." with
      | true => exact .inr (.inr ⟨_, .lead htext hlead⟩)
      | false =>
        rcases imports_or_misses (w := w) hlead with ⟨split, m, -, himports⟩ | hmisses
        · cases hthing : w.attributes (.module m.name) ((splitDots (trim s)).drop split) with
          | error f =>
            cases hmissing : isMissing f with
            | true => exact .inr (.inl ⟨_, .lacking htext himports hthing hmissing⟩)
            | false => exact .inr (.inr ⟨f, .asking htext himports hthing (by simp [hmissing])⟩)
          | ok t =>
            cases hclass : Thing.class? t with
            | none => exact .inr (.inl ⟨_, .noClass htext himports hthing hclass⟩)
            | some c =>
              refine .inl ⟨c, ?_⟩
              rw [resolveClass_of_imports htext himports, behind, hthing]
              dsimp only
              rw [hclass]
        · exact .inr (.inl ⟨_, .module htext hdot hmisses⟩)
    · by_cases hblank : trim s = ""
      · exact .inr (.inl ⟨_, .blank htext hblank⟩)
      · cases hfound : w.builtinClass? (trim s) with
        | none => exact .inr (.inl ⟨_, .builtin htext hblank hdot hfound⟩)
        | some c =>
          have hempty : ¬ (trim s).isEmpty := fun h => hblank (String.isEmpty_iff.mp h)
          refine .inl ⟨c, ?_⟩
          rw [resolveClass_of_asText htext, ofText, if_neg hempty, if_neg (by simp [hdot])]
          rw [hfound]

/-- The failures of a search: the report that a handle stands for no class, and those that escape. -/
theorem resolveClass_eq_error : w.resolveClass handle = .error f ↔
    (∃ shown reason, Classless w handle reason ∧ w.sentence handle = .ok shown ∧
      f = .unknownClass shown reason) ∨ Escaping w handle f := by
  constructor
  · intro h
    rcases resolveClass_cases w handle with ⟨c, hc⟩ | ⟨reason, hreason⟩ | ⟨f', hf'⟩
    · rw [hc] at h
      cases h
    · rw [resolveClass_of_classless hreason] at h
      rcases unknown_eq_error.mp h with ⟨shown, hshown, rfl⟩ | hsentence
      · exact .inl ⟨shown, reason, hreason, hshown, rfl⟩
      · exact .inr (.sentence hreason hsentence)
    · rw [resolveClass_of_escaping hf'] at h
      cases h
      exact .inr hf'
  · rintro (⟨shown, reason, hreason, hshown, rfl⟩ | hescaping)
    · rw [resolveClass_of_classless hreason]
      exact unknown_eq_error.mpr (.inl ⟨shown, hshown, rfl⟩)
    · exact resolveClass_of_escaping hescaping

/-- That no class has a function of its own for looking up attributes. -/
def World.LooksUpPlainly (w : World) : Prop :=
  ∀ c, w.customized? c "__getattribute__" = none ∧ w.customized? c "__getattr__" = none

theorem attributeOf_eq_error (hplain : w.LooksUpPlainly) {t : Thing} {name : String}
    (h : w.attributeOf t name = .error f) : isMissing f := by
  have hlookup : w.attributeOf t name = w.plainAttribute t name := by
    unfold attributeOf
    split
    · rename_i c number content
      rw [(hplain c).1, (hplain c).2]
      cases w.plainAttribute (.value (.object c number content)) name <;> rfl
    · rfl
  rw [hlookup, plainAttribute] at h
  split at h <;> cases h
  rfl

theorem attributes_eq_error (hplain : w.LooksUpPlainly) {t : Thing} {names : List String}
    (h : w.attributes t names = .error f) : isMissing f := by
  induction names generalizing t with
  | nil => cases h
  | cons name rest ih =>
    rw [World.attributes, List.foldlM_cons] at h
    cases hfirst : w.attributeOf t name with
    | error f' =>
      rw [hfirst] at h
      cases h
      exact attributeOf_eq_error hplain hfirst
    | ok t' =>
      rw [hfirst] at h
      exact ih h

/--
Where attributes are looked up plainly and the handle has a text to be reported with, only a dot at the
beginning makes a search fail another way.
-/
theorem escaping_iff (hplain : w.LooksUpPlainly) {shown : Option String}
    (hshown : w.sentence handle = .ok shown) :
    (∃ f, Escaping w handle f) ↔ ∃ s, handle.asText? = some s ∧ (trim s).startsWith "." := by
  constructor
  · rintro ⟨f, hf⟩
    cases hf with
    | lead htext hdot => exact ⟨_, htext, hdot⟩
    | asking htext himports hf hmissing => exact (hmissing (attributes_eq_error hplain hf)).elim
    | sentence hclassless hf =>
      rw [hshown] at hf
      cases hf
  · rintro ⟨s, htext, hdot⟩
    exact ⟨_, .lead htext hdot⟩

theorem sentence_str (w : World) (s : String) : w.sentence (.str s) = .ok (some s) := by
  rw [World.sentence]
  · rfl
  · intro c number content h
    cases h

/-- For a text there is nothing else to go wrong. -/
theorem escaping_str_iff (hplain : w.LooksUpPlainly) (s : String) :
    (∃ f, Escaping w (.str s) f) ↔ (trim s).startsWith "." := by
  rw [escaping_iff hplain (sentence_str w s)]
  constructor
  · rintro ⟨text, htext, hdot⟩
    cases htext
    exact hdot
  · exact fun hdot => ⟨s, rfl, hdot⟩

end Overloads
