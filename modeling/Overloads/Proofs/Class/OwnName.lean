import Overloads.Proofs.Class.Resolution

/-! A class is found again under the name that it is shown by. -/
namespace Overloads

open World ClassSearch Overloads.Text

variable {w : World} {c : ClassName} {m : ModuleInfo} {handle : Value} {s before after : String}

/-- The parts of a text with a dot in it are those before the dot and those behind it. -/
theorem splitDots_append (front behind : String) :
    splitDots (front ++ "." ++ behind) = splitDots front ++ splitDots behind := by
  have hjoin : (front ++ "." ++ behind).toList = front.toList ++ '.' :: behind.toList := by
    simp
  have hparts : (front.toList ++ '.' :: behind.toList).splitOn '.' =
      front.toList.splitOn '.' ++ behind.toList.splitOn '.' :=
    List.splitOnP_append_cons _ _ (by simp)
  rw [splitDots, hjoin, hparts, List.map_append]
  rfl

theorem splitDots_of_not_mem (h : '.' ∉ s.toList) : splitDots s = [s] := by
  have hparts : s.toList.splitOn '.' = [s.toList] := by
    have hjoin : ['.'].intercalate [s.toList] = s.toList := by simp
    have hback := List.splitOn_intercalate '.' (show ∀ l ∈ [s.toList], '.' ∉ l by simpa using h)
      (by simp)
    rwa [hjoin] at hback
  simp [splitDots, hparts]

theorem startsWith_append (hne : s ≠ "") (hdot : s.startsWith "." = false) (rest : String) :
    (s ++ rest).startsWith "." = false := by
  rw [String.startsWith_string_eq_false_iff] at hdot ⊢
  rintro ⟨behind, hbehind⟩
  apply hdot
  cases hs : s.toList with
  | nil => exact (hne (String.toList_eq_nil_iff.mp hs)).elim
  | cons d more =>
    simp only [String.toList_append, hs, List.cons_append] at hbehind
    obtain ⟨rfl, -⟩ := List.cons.inj hbehind
    exact ⟨more, rfl⟩

namespace World

/--
A class that has a name, is reached by it from the module that it says it lives in, and is not hidden by
a module of a longer name.
-/
structure Lives (w : World) (c : ClassName) (m : ModuleInfo) : Prop where
  named : dotted c.path ≠ ""
  imported : w.importModule (dotted c.module) = .ok m
  reached : ∃ t, w.attributes (.module m.name) (splitDots (dotted c.path)) = .ok t ∧
    Thing.class? t = some c
  longest : ∀ k m', (splitDots (dotted c.module)).length < k → k < (splitDots c.fullPath).length →
    w.importModule (dotted ((splitDots c.fullPath).take k)) ≠ .ok m'

/-- What can be imported has a name that is not empty and starts with no dot. -/
theorem importModule_eq_ok (h : w.importModule s = .ok m) :
    s ≠ "" ∧ s.startsWith "." = false := by
  rw [importModule] at h
  split at h
  · cases h
  next hdot =>
    split at h
    · cases h
    next hempty =>
      exact ⟨fun hs => hempty (String.isEmpty_iff.mpr hs), Bool.eq_false_iff.mpr hdot⟩

theorem importModule_builtins_iff :
    w.importModule (dotted ClassName.builtinModule) = .ok m ↔
      w.module? ClassName.builtinModule = some m := by
  have hdot : ¬ ("builtins".startsWith "." : Bool) := by
    rw [String.startsWith_string_iff]
    decide
  have hparts : splitDots "builtins" = ClassName.builtinModule := splitDots_of_not_mem (by decide)
  have himport : w.importModule (dotted ClassName.builtinModule) =
      w.importBelow [] ClassName.builtinModule := by
    rw [← hparts, dotted_splitDots, importModule, if_neg hdot, if_neg (by decide)]
  rw [himport, ClassName.builtinModule]
  cases hm : w.module? ["builtins"] <;> simp [importBelow, hm]

theorem attribute?_of_plainAttribute {t t' : Thing} (h : w.plainAttribute t s = .ok t') :
    w.attribute? t s = some t' := by
  rw [plainAttribute] at h
  split at h
  next hfound =>
    cases h
    exact hfound
  next => cases h

namespace Lives

theorem fullPath_eq (h : w.Lives c m) :
    c.fullPath = dotted c.module ++ "." ++ dotted c.path := by
  have hmodule : c.module ≠ [] := by
    intro hnil
    exact (importModule_eq_ok h.imported).1 (by rw [hnil]; rfl)
  have hpath : c.path ≠ [] := by
    intro hnil
    exact h.named (by rw [hnil]; rfl)
  exact String.intercalate_append_of_ne_nil hmodule hpath

theorem splitDots_fullPath (h : w.Lives c m) :
    splitDots c.fullPath = splitDots (dotted c.module) ++ splitDots (dotted c.path) := by
  rw [h.fullPath_eq, splitDots_append]

theorem fullPath_startsWith (h : w.Lives c m) : c.fullPath.startsWith "." = false := by
  obtain ⟨hne, hdot⟩ := importModule_eq_ok h.imported
  rw [h.fullPath_eq, String.append_assoc]
  exact startsWith_append hne hdot _

/-- The search stops at the module that the class lives in. -/
theorem imports (h : w.Lives c m) :
    w.Imports (splitDots c.fullPath) (splitDots (dotted c.module)).length m where
  lt := by
    have hpath := List.length_pos_iff.mpr (splitDots_ne_nil (dotted c.path))
    rw [h.splitDots_fullPath, List.length_append]
    omega
  imported := by
    rw [h.splitDots_fullPath, List.take_left, dotted_splitDots]
    exact h.imported
  longest := by
    intro k hlt hlength
    obtain ⟨hne, hdot⟩ := front_of_not_startsWith h.fullPath_startsWith (by omega) hlength
    rcases importModule_of_not_startsWith (w := w) hne hdot with ⟨m', hm'⟩ | hmissing
    · exact (h.longest k m' hlt hlength hm').elim
    · exact hmissing

theorem behind_eq (h : w.Lives c m) :
    behind w handle (splitDots c.fullPath) (splitDots (dotted c.module)).length m = .ok c := by
  obtain ⟨t, hattributes, hclass⟩ := h.reached
  have hnames : (splitDots c.fullPath).drop (splitDots (dotted c.module)).length =
      splitDots (dotted c.path) := by
    rw [h.splitDots_fullPath, List.drop_left]
  rw [behind, hnames, hattributes]
  dsimp only
  rw [hclass]

/-- A builtin class is shown without its module, and looked for among what that module holds. -/
theorem builtin_found (h : w.Lives c m) (hmodule : c.module = ClassName.builtinModule)
    (hdot : '.' ∉ (dotted c.path).toList) : w.builtinClass? (dotted c.path) = some c := by
  have hbuiltins : w.module? ClassName.builtinModule = some m :=
    importModule_builtins_iff.mp (hmodule ▸ h.imported)
  have hname : m.name = ClassName.builtinModule := by simpa using List.find?_some hbuiltins
  obtain ⟨t, hattributes, hclass⟩ := h.reached
  rw [splitDots_of_not_mem hdot, hname] at hattributes
  have hplain : w.plainAttribute (.module ClassName.builtinModule) (dotted c.path) = .ok t := by
    simpa [attributes, attributeOf] using hattributes
  have hfound : w.attribute? (.module ClassName.builtinModule) (dotted c.path) = some t :=
    attribute?_of_plainAttribute hplain
  have hlookup : (m.attributes.lookup (dotted c.path)).orElse
      (fun _ => w.moduleThing? (dotted c.path)) = some t := by
    simpa [attribute?, hbuiltins] using hfound
  simp only [builtinClass?, hbuiltins, Option.map_some, Option.getD_some, hlookup]
  exact hclass

theorem resolveClass_eq (h : w.Lives c m) (htrim : trim s = c.text)
    (hbuiltin : c.module = ClassName.builtinModule → '.' ∉ (dotted c.path).toList)
    (htext : handle.asText? = some s) : w.resolveClass handle = .ok c := by
  by_cases hmodule : c.module = ClassName.builtinModule
  case pos =>
    have hdot := hbuiltin hmodule
    rw [ClassName.text, if_pos hmodule] at htrim
    have hempty : ¬ (dotted c.path).isEmpty := fun hpath => h.named (String.isEmpty_iff.mp hpath)
    rw [resolveClass_of_asText htext, ofText, htrim, if_neg hempty, if_neg (by simp [hdot])]
    rw [h.builtin_found hmodule hdot]
  case neg =>
    rw [ClassName.text, if_neg hmodule] at htrim
    have himports := h.imports
    rw [← htrim] at himports
    rw [resolveClass_of_imports htext himports, htrim, h.behind_eq]

end Lives

end World

/--
A class is found under the name that it is shown by, whatever white space stands around it, and under no
name at all when it is given itself.
-/
theorem resolveClass_text (h : w.Lives c m) (htrim : trim c.text = c.text)
    (hbuiltin : c.module = ClassName.builtinModule → '.' ∉ (dotted c.path).toList) :
    (∀ before after : String, (∀ d ∈ before.toList, isBlank d) → (∀ d ∈ after.toList, isBlank d) →
      ∀ handle : Value, handle.asText? = some (before ++ c.text ++ after) →
        w.resolveClass handle = .ok c) ∧
      ∀ d : ClassName, w.resolveClass (.type d) = .ok d := by
  refine ⟨fun before after hbefore hafter handle htext => ?_, fun d => rfl⟩
  exact h.resolveClass_eq ((trim_append hbefore hafter).trans htrim) hbuiltin htext

/-- A module that holds a class with a class in it. -/
def boxModule (name : String) : ModuleInfo where
  name := [name]
  isPackage := false
  attributes := [("Box", .type ⟨[name], ["Box"]⟩)]

/-- The class in the class. -/
def lid (module : String) : ClassName := ⟨[module], ["Box", "Lid"]⟩

def boxWorld (module : String) : World where
  classes := [
    { name := ⟨[module], ["Box"]⟩
      linearization := [⟨[module], ["Box"]⟩, .object]
      isProtocol := false
      runtimeCheckable := false
      attributes := [("Lid", .nested (lid module))]
      annotations := []
      constructorCounts := none }]
  modules := [boxModule module]

theorem lid_reached (module : String) :
    (boxWorld module).attributes (.module [module]) ["Box", "Lid"] = .ok (.type (lid module)) := by
  have hbox : (boxWorld module).attributeOf (.module [module]) "Box" =
      .ok (.type ⟨[module], ["Box"]⟩) := by
    simp [attributeOf, plainAttribute, attribute?, boxWorld, boxModule, module?]
  have hlid : (boxWorld module).attributeOf (.type ⟨[module], ["Box"]⟩) "Lid" =
      .ok (.type (lid module)) := by
    simp [attributeOf, plainAttribute, attribute?, typeAttribute?, classThing?, lookup,
      linearization, info?, described?, own?, ClassInfo.attribute?, attributeThing, boxWorld]
  simp only [attributes, List.foldlM_cons, List.foldlM_nil, hbox, bind, Except.bind, hlid]
  rfl

/-- Only the module itself can be imported. -/
theorem importModule_boxWorld {module : String} (hdot : '.' ∉ module.toList) (hne : module ≠ "") :
    (boxWorld module).importModule module = .ok (boxModule module) ∧
      ∀ m, (boxWorld module).importModule (module ++ "." ++ "Box") ≠ .ok m := by
  have hstart : ¬ (module.startsWith "." : Bool) := by
    rw [String.startsWith_string_iff]
    rintro ⟨rest, hrest⟩
    exact hdot (by simp [← hrest])
  have hempty : ¬ module.isEmpty := by simpa using hne
  constructor
  · rw [importModule, if_neg hstart, if_neg hempty, splitDots_of_not_mem hdot]
    simp [importBelow, module?, boxWorld, boxModule]
  · intro m h
    rw [importModule, splitDots_append, splitDots_of_not_mem hdot] at h
    split at h
    · cases h
    split at h
    · cases h
    have hparts : splitDots "Box" = ["Box"] := rfl
    simp [hparts, importBelow, module?, boxWorld, boxModule] at h

theorem splitDots_box_lid : splitDots "Box.Lid" = ["Box", "Lid"] := by decide

theorem lives_lid {module : String} (hdot : '.' ∉ module.toList) (hne : module ≠ "") :
    (boxWorld module).Lives (lid module) (boxModule module) where
  named := by
    rw [lid]
    simp [dotted]
  imported := by
    have hname : dotted (lid module).module = module := String.intercalate_singleton
    rw [hname]
    exact (importModule_boxWorld hdot hne).1
  reached := ⟨.type (lid module), by
    rw [show dotted (lid module).path = "Box.Lid" by simp [lid, dotted], splitDots_box_lid]
    exact lid_reached module, rfl⟩
  longest := by
    intro k m' hlt hlength
    have hname : splitDots (dotted (lid module).module) = [module] := by
      rw [lid, dotted, String.intercalate_singleton, splitDots_of_not_mem hdot]
    have hparts : splitDots (lid module).fullPath = [module, "Box", "Lid"] := by
      have hpath : (lid module).fullPath = module ++ "." ++ "Box.Lid" := by
        simp [lid, ClassName.fullPath, dotted, String.append_assoc]
      rw [hpath, splitDots_append, splitDots_of_not_mem hdot, splitDots_box_lid]
      rfl
    rw [hname, List.length_singleton] at hlt
    rw [hparts] at hlength ⊢
    have hk : k = 2 := by
      simp only [List.length_cons, List.length_nil] at hlength
      omega
    have hfront : dotted ([module, "Box", "Lid"].take k) = module ++ "." ++ "Box" := by
      rw [hk]
      simp [dotted]
    rw [hfront]
    exact (importModule_boxWorld hdot hne).2 m'

/-- A class in a class, in white space, and a builtin one. -/
theorem lid_and_int_found :
    (boxWorld "shop").resolveClass (.str "\t shop.Box.Lid\n") = .ok (lid "shop") ∧
      (⟨[], [Installed.builtins]⟩ : World).resolveClass (.str " int") = .ok (.builtin "int") := by
  constructor
  · have hlives : (boxWorld "shop").Lives (lid "shop") (boxModule "shop") :=
      lives_lid (by decide) (by decide)
    have hfound := resolveClass_text hlives (by decide) fun hmodule => absurd hmodule (by decide)
    exact hfound.1 "\t " "\n" (List.all_eq_true.mp rfl) (List.all_eq_true.mp rfl) _ rfl
  · have hlives : (⟨[], [Installed.builtins]⟩ : World).Lives (.builtin "int") Installed.builtins := {
      named := by decide
      imported := importModule_builtins_iff.mpr rfl
      reached := ⟨.type (.builtin "int"), by rfl, rfl⟩
      longest := by
        intro k m' hlt hlength
        have hname : (splitDots (dotted (ClassName.builtin "int").module)).length = 1 := by rfl
        have hparts : (splitDots (ClassName.builtin "int").fullPath).length = 2 := by rfl
        omega }
    have hfound := resolveClass_text hlives (by decide) fun _ => by decide
    exact hfound.1 " " "" (List.all_eq_true.mp rfl) (List.all_eq_true.mp rfl) _ rfl

theorem misses_boxWorld {module front part : String} {rest : List String}
    (hparts : splitDots front = part :: rest) (hstart : front.startsWith "." = false)
    (hempty : front ≠ "") (hne : module ≠ part) :
    ∃ reason, (boxWorld module).importModule front = .error (.moduleMissing reason) := by
  rcases importModule_of_not_startsWith (w := boxWorld module) hempty hstart with ⟨m, hm⟩ | hmissing
  · rw [importModule, hparts] at hm
    split at hm
    · cases hm
    split at hm
    · cases hm
    simp [importBelow, module?, boxWorld, boxModule, hne] at hm
  · exact hmissing

/--
White space at the edge of a module's name is taken for white space around the text, and the module of a
builtin class is not named by its text.
-/
theorem lid_not_found :
    (boxWorld " shop").Lives (lid " shop") (boxModule " shop") ∧
      (boxWorld " shop").resolveClass (.str (lid " shop").text) =
        .error (.unknownClass (some " shop.Box.Lid") noModule) ∧
      (boxWorld "builtins").Lives (lid "builtins") (boxModule "builtins") ∧
      (boxWorld "builtins").resolveClass (.str (lid "builtins").text) =
        .error (.unknownClass (some "Box.Lid") noModule) := by
  have hstart (front : String) (h : ¬ ['.'] <+: front.toList) : front.startsWith "." = false :=
    String.startsWith_string_eq_false_iff.mpr h
  refine ⟨lives_lid (by decide) (by decide), ?_, lives_lid (by decide) (by decide), ?_⟩
  · have hparts : splitDots (trim (lid " shop").text) = ["shop", "Box", "Lid"] := by decide
    have hclassless : Classless (boxWorld " shop") (.str (lid " shop").text) noModule := by
      refine .module rfl (by decide) fun k hpos hlt => ?_
      rw [hparts] at hlt ⊢
      obtain rfl | rfl : k = 1 ∨ k = 2 := by
        simp only [List.length_cons, List.length_nil] at hlt
        omega
      · exact misses_boxWorld rfl (hstart _ (by decide)) (by decide) (by decide)
      · exact misses_boxWorld rfl (hstart _ (by decide)) (by decide) (by decide)
    rw [resolveClass_of_classless hclassless, unknown, sentence_str]
    rfl
  · have hparts : splitDots (trim (lid "builtins").text) = ["Box", "Lid"] := by decide
    have hclassless : Classless (boxWorld "builtins") (.str (lid "builtins").text) noModule := by
      refine .module rfl (by decide) fun k hpos hlt => ?_
      rw [hparts] at hlt ⊢
      obtain rfl : k = 1 := by
        simp only [List.length_cons, List.length_nil] at hlt
        omega
      exact misses_boxWorld rfl (hstart _ (by decide)) (by decide) (by decide)
    rw [resolveClass_of_classless hclassless, unknown, sentence_str]
    rfl

end Overloads
