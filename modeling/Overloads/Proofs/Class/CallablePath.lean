import Overloads.Proofs.Class.OwnName
import Overloads.Proofs.Class.Special
import Overloads.Proofs.Outcome

/-! Callables are found under their paths as far as a path tells where the module ends. -/
namespace Overloads

open Overloads.Text

namespace World

variable {w : World} {f : Callable} {m m' : ModuleInfo} {module qualified front last owner : String}

/-- A colon marks the end of the module. -/
theorem splitPath_colon (h : ':' ∉ front.toList) (last : String) :
    splitPath (front ++ ":" ++ last) = (front, last) := by
  have hjoin : (front ++ ":" ++ last).toList = front.toList ++ ':' :: last.toList := by simp
  have hmem : ':' ∈ front.toList ++ ':' :: last.toList := by simp
  have hfront : ∀ c ∈ front.toList, decide (c ≠ ':') = true := by
    intro c hc
    simpa using ne_of_mem_of_not_mem hc h
  rw [splitPath, hjoin]
  simp only [if_pos hmem, List.takeWhile_append_of_pos hfront, List.dropWhile_append_of_pos hfront]
  simp

/-- Without a colon the module ends at the last dot. -/
theorem splitPath_dot (hcolon : ':' ∉ (front ++ "." ++ last).toList) (hlast : '.' ∉ last.toList) :
    splitPath (front ++ "." ++ last) = (front, last) := by
  rw [splitPath]
  simp only [if_neg hcolon, splitDots_append, splitDots_of_not_mem hlast, List.dropLast_concat,
    dotted_splitDots, List.getLast?_concat, Option.getD_some]

/-- A text with a dot ends in a dot and a name without one. -/
theorem exists_last (h : '.' ∈ qualified.toList) :
    ∃ owner last, qualified = owner ++ "." ++ last ∧ '.' ∉ last.toList := by
  obtain ⟨behind, before, hreverse, hnone⟩ :=
    List.eq_append_cons_of_mem (List.mem_reverse.mpr h)
  refine ⟨.ofList before.reverse, .ofList behind.reverse, String.toList_injective ?_, by simpa using hnone⟩
  rw [← List.reverse_reverse qualified.toList, hreverse]
  simp

/-- From a module that can be imported, the parts of a name lead to a callable. -/
def Reaches (w : World) (module qualified : String) (f : Callable) : Prop :=
  ∃ m t, w.importModule module = .ok m ∧
    w.attributes (.module m.name) (splitDots qualified) = .ok t ∧ Thing.callable? w t = some f

theorem resolvePath_of_named {path : String} (hsplit : splitPath path = (module, qualified))
    (hmodule : module ≠ "") (hnamed : qualified ≠ "") : w.resolvePath path = (do
      let m ← w.importModule module
      let t ← w.attributes (.module m.name) (splitDots qualified)
      match Thing.callable? w t with
      | some c => return c
      | none => throw (.namesNoFunction path)) := by
  have hempty : ¬ (module.isEmpty || qualified.isEmpty) := by simp [hmodule, hnamed]
  rw [resolvePath, hsplit]
  dsimp only
  exact if_neg hempty

theorem resolvePath_eq_ok {path : String} (hsplit : splitPath path = (module, qualified)) :
    w.resolvePath path = .ok f ↔ qualified ≠ "" ∧ w.Reaches module qualified f := by
  by_cases hne : module ≠ "" ∧ qualified ≠ ""
  · obtain ⟨hmodule, hnamed⟩ := hne
    rw [resolvePath_of_named hsplit hmodule hnamed]
    constructor
    · intro h
      obtain ⟨m, himport, h⟩ := Except.bind_eq_ok.mp h
      obtain ⟨t, hattributes, h⟩ := Except.bind_eq_ok.mp h
      refine ⟨hnamed, m, t, himport, hattributes, ?_⟩
      split at h
      next c hc =>
        cases h
        exact hc
      next => cases h
    · rintro ⟨-, m, t, himport, hattributes, hcallable⟩
      refine Except.bind_eq_ok.mpr ⟨m, himport, Except.bind_eq_ok.mpr ⟨t, hattributes, ?_⟩⟩
      rw [hcallable]
      rfl
  · have hempty : module.isEmpty || qualified.isEmpty := by
      simpa [Classical.or_iff_not_imp_left] using hne
    have herror : w.resolvePath path = .error (.notADottedPath path) := by
      rw [resolvePath, hsplit]
      dsimp only
      rw [if_pos hempty]
      rfl
    rw [herror]
    constructor
    · intro h
      cases h
    · rintro ⟨hnamed, m, t, himport, -⟩
      exact (hne ⟨(importModule_eq_ok himport).1, hnamed⟩).elim

/-- Texts cannot be called, as long as no program describes their classes. -/
theorem isCallable_str (hstr : w.described? (.builtin "str") = none)
    (hobject : w.described? .object = none) (s : String) : w.isCallable (.str s) = false := by
  have hinfo : Native.info? (.builtin "str") = some
      ⟨.builtin "str", [.builtin "str", .object], false, false, Native.strAttributes, [], none, false⟩ := by
    rfl
  have hcall : w.own? (.builtin "str") "__call__" = none := by
    simp only [own?, hstr, hinfo, Native.special?_call]
    rfl
  have hroot : w.own? .object "__call__" = none := by
    simp only [own?, hobject, Native.special?_call]
    rfl
  have horder : w.linearization (.builtin "str") = [.builtin "str", .object] := by
    rw [linearization, info?, hstr, hinfo]
  simp [isCallable, classOf, hasMethod, lookup, horder, hcall, hroot]

/-- A text that cannot be called stands for what it leads to as a path. -/
theorem resolveCallable_str {path : String} (htext : w.isCallable (.str path) = false)
    (htrim : trim path = path) (hne : path ≠ "") :
    w.resolveCallable (.str path) = (w.resolvePath path).map some := by
  have hempty : ¬ path.isEmpty := by simpa using hne
  have hnone : Thing.callable? w (Thing.ofValue (.str path)) = none := by
    simp [Thing.ofValue, Thing.callable?, htext]
  have hsome : (Value.str path).asText? = some path := rfl
  simp only [resolveCallable, hnone, hsome, htrim, if_neg hempty]

theorem resolveCallable_eq_ok {path : String} (htext : w.isCallable (.str path) = false)
    (htrim : trim path = path) (hne : path ≠ "") (hsplit : splitPath path = (module, qualified)) :
    w.resolveCallable (.str path) = .ok (some f) ↔
      qualified ≠ "" ∧ w.Reaches module qualified f := by
  rw [resolveCallable_str htext htrim hne, Except.map_eq_ok, ← resolvePath_eq_ok hsplit]
  simp

/-- A callable that is found in a module under the name that its path gives it. -/
structure Callable.Lives (w : World) (f : Callable) (module qualified : String) : Prop where
  path : f.path = .ok (module ++ "." ++ qualified)
  named : qualified ≠ ""
  reached : w.Reaches module qualified f

/-- No colon stands in a path, and no white space at its ends. -/
structure Plain (module qualified : String) : Prop where
  noColon : ':' ∉ module.toList ∧ ':' ∉ qualified.toList
  head : ∀ c ∈ module.toList.head?, isBlank c = false
  last : ∀ c ∈ qualified.toList.getLast?, isBlank c = false

/-- White space would have to stand at the ends of the two parts. -/
theorem Plain.trim_eq (h : Plain module qualified) (hmodule : module ≠ "") (hnamed : qualified ≠ "")
    (mark : String) : trim (module ++ mark ++ qualified) = module ++ mark ++ qualified := by
  apply trim_of_edges
  · intro c hc
    refine h.head c ?_
    simpa [hmodule] using hc
  · intro c hc
    refine h.last c ?_
    simpa [hnamed] using hc

section Path

variable (hstr : w.described? (.builtin "str") = none) (hobject : w.described? .object = none)
include hstr hobject

/-- A colon parts the module from the name. -/
theorem resolveCallable_colon (hlives : f.Lives w module qualified) (hplain : Plain module qualified) :
    w.resolveCallable (.str (module ++ ":" ++ qualified)) = .ok (some f) := by
  obtain ⟨m, t, himport, -⟩ := id hlives.reached
  have hmodule : module ≠ "" := (importModule_eq_ok himport).1
  have htrim := hplain.trim_eq hmodule hlives.named ":"
  have hsplit := splitPath_colon hplain.noColon.1 qualified
  exact (resolveCallable_eq_ok (isCallable_str hstr hobject _) htrim (by simp [hmodule]) hsplit).mpr
    ⟨hlives.named, hlives.reached⟩

/-- A dotted path is split at its last dot, wherever the module ends. -/
theorem resolveCallable_dotted (hmodule : module ≠ "") (hnamed : qualified ≠ "")
    (hplain : Plain module qualified) {front last : String}
    (hjoin : module ++ "." ++ qualified = front ++ "." ++ last) (hlast : '.' ∉ last.toList) :
    w.resolveCallable (.str (module ++ "." ++ qualified)) = (w.resolvePath (front ++ "." ++ last)).map some ∧
      splitPath (front ++ "." ++ last) = (front, last) := by
  have htrim := hplain.trim_eq hmodule hnamed "."
  have hcolon : ':' ∉ (module ++ "." ++ qualified).toList := by
    simpa using ⟨hplain.noColon.1, hplain.noColon.2⟩
  have hne : module ++ "." ++ qualified ≠ "" := by simp [hmodule]
  rw [hjoin] at htrim hcolon hne ⊢
  exact ⟨resolveCallable_str (isCallable_str hstr hobject _) htrim hne, splitPath_dot hcolon hlast⟩

theorem resolveCallable_dotted_eq_ok (hmodule : module ≠ "") (hnamed : qualified ≠ "")
    (hplain : Plain module qualified) {front last : String}
    (hjoin : module ++ "." ++ qualified = front ++ "." ++ last) (hlast : '.' ∉ last.toList) :
    w.resolveCallable (.str (module ++ "." ++ qualified)) = .ok (some f) ↔
      last ≠ "" ∧ w.Reaches front last f := by
  obtain ⟨hresolve, hsplit⟩ := resolveCallable_dotted hstr hobject hmodule hnamed hplain hjoin hlast
  rw [hresolve, Except.map_eq_ok, ← resolvePath_eq_ok hsplit]
  simp

/-- What stands before the last dot has to be a module. -/
theorem resolveCallable_dotted_missing (hmodule : module ≠ "") (hstart : module.startsWith "." = false)
    (hplain : Plain module qualified) {owner last : String} (hjoin : qualified = owner ++ "." ++ last)
    (hlast : '.' ∉ last.toList) (hnamed : last ≠ "")
    (hmissing : ∀ m, w.importModule (module ++ "." ++ owner) ≠ .ok m) :
    ∃ reason, w.resolveCallable (.str (module ++ "." ++ qualified)) =
      .error (.moduleMissing reason) := by
  have hnested : module ++ "." ++ qualified = module ++ "." ++ owner ++ "." ++ last := by
    simp [hjoin, String.append_assoc]
  obtain ⟨hresolve, hsplit⟩ := resolveCallable_dotted hstr hobject hmodule (by simp [hjoin]) hplain
    hnested hlast
  have hfront : (module ++ "." ++ owner).startsWith "." = false := by
    rw [String.append_assoc]
    exact startsWith_append hmodule hstart _
  rcases importModule_of_not_startsWith (w := w) (by simp [hmodule]) hfront with ⟨m, hm⟩ | ⟨reason, hreason⟩
  · exact (hmissing m hm).elim
  · refine ⟨reason, ?_⟩
    rw [hresolve, resolvePath_of_named hsplit (by simp [hmodule]) hnamed, hreason]
    rfl

end Path

/--
A callable is found under its module and its name with a colon between them. Under its dotted path it is
found exactly if its name has no dot, or what stands before the last dot is a module that leads to it too.
-/
theorem resolveCallable_path (hstr : w.described? (.builtin "str") = none)
    (hobject : w.described? .object = none) (hlives : f.Lives w module qualified) (hplain : Plain module qualified) :
    w.resolveCallable (.str (module ++ ":" ++ qualified)) = .ok (some f) ∧
      ∀ path, f.path = .ok path →
        (w.resolveCallable (.str path) = .ok (some f) ↔ '.' ∉ qualified.toList ∨
          ∃ owner last, qualified = owner ++ "." ++ last ∧ '.' ∉ last.toList ∧ last ≠ "" ∧
            w.Reaches (module ++ "." ++ owner) last f) ∧
        ∀ owner last, qualified = owner ++ "." ++ last → '.' ∉ last.toList → last ≠ "" →
          (∀ m, w.importModule (module ++ "." ++ owner) ≠ .ok m) →
          ∃ reason, w.resolveCallable (.str path) = .error (.moduleMissing reason) := by
  obtain ⟨m, t, himport, -⟩ := id hlives.reached
  obtain ⟨hmodule, hstart⟩ := importModule_eq_ok himport
  have hdotted {front last : String} (hjoin : module ++ "." ++ qualified = front ++ "." ++ last)
      (hlast : '.' ∉ last.toList) : w.resolveCallable (.str (module ++ "." ++ qualified)) = .ok (some f) ↔
        last ≠ "" ∧ w.Reaches front last f :=
    resolveCallable_dotted_eq_ok hstr hobject hmodule hlives.named hplain hjoin hlast
  have hnested {owner last : String} (hjoin : qualified = owner ++ "." ++ last) :
      module ++ "." ++ qualified = module ++ "." ++ owner ++ "." ++ last := by
    simp [hjoin, String.append_assoc]
  refine ⟨resolveCallable_colon hstr hobject hlives hplain, fun path hpath => ?_⟩
  obtain rfl : module ++ "." ++ qualified = path := Except.ok.inj (hlives.path.symm.trans hpath)
  refine ⟨⟨fun hok => ?_, ?_⟩, fun owner last hjoin hlast hnamed hmissing =>
    resolveCallable_dotted_missing hstr hobject hmodule hstart hplain hjoin hlast hnamed hmissing⟩
  · by_cases hdot : '.' ∈ qualified.toList
    · obtain ⟨owner, last, hjoin, hlast⟩ := exists_last hdot
      exact .inr ⟨owner, last, hjoin, hlast, (hdotted (hnested hjoin) hlast).mp hok⟩
    · exact .inl hdot
  · rintro (hdot | ⟨owner, last, hjoin, hlast, hok⟩)
    · exact (hdotted rfl hdot).mpr ⟨hlives.named, hlives.reached⟩
    · exact (hdotted (hnested hjoin) hlast).mpr hok

theorem box_lives : (Callable.type ⟨["shop"], ["Box"]⟩).Lives (boxWorld "shop") "shop" "Box" where
  path := rfl
  named := by decide
  reached := ⟨boxModule "shop", .type ⟨["shop"], ["Box"]⟩,
    (importModule_boxWorld (by decide) (by decide)).1, by rfl, rfl⟩

theorem lid_lives : (Callable.type (lid "shop")).Lives (boxWorld "shop") "shop" "Box.Lid" where
  path := rfl
  named := by decide
  reached := ⟨boxModule "shop", .type (lid "shop"),
    (importModule_boxWorld (by decide) (by decide)).1, lid_reached "shop", rfl⟩

/-- A class is found under its path, and a class in it with a colon. -/
theorem box_found_by_dot :
    (boxWorld "shop").resolveCallable (.str "shop.Box") = .ok (some (.type ⟨["shop"], ["Box"]⟩)) ∧
      (boxWorld "shop").resolveCallable (.str "shop:Box.Lid") = .ok (some (.type (lid "shop"))) := by
  constructor
  · have hbox := resolveCallable_path rfl rfl box_lives
      ⟨by decide, by rintro _ ⟨⟩; rfl, by rintro _ ⟨⟩; rfl⟩
    exact (hbox.2 "shop.Box" rfl).1.mpr (.inl (by decide))
  · have hlid := resolveCallable_path rfl rfl lid_lives
      ⟨by decide, by rintro _ ⟨⟩; rfl, by rintro _ ⟨⟩; rfl⟩
    exact hlid.1

/-- Under its own path the class in the class is looked for in a module that does not exist. -/
theorem lid_lost_by_dot :
    (Callable.type (lid "shop")).Lives (boxWorld "shop") "shop" "Box.Lid" ∧
      (Callable.type (lid "shop")).path = .ok "shop.Box.Lid" ∧
      (boxWorld "shop").resolveCallable (.str "shop.Box.Lid") =
        .error (.moduleMissing "No module named 'shop.Box'; 'shop' is not a package") := by
  refine ⟨lid_lives, rfl, ?_⟩
  have hsplit : splitPath "shop.Box.Lid" = ("shop.Box", "Lid") := by decide
  have hstart : ¬ "shop.Box".startsWith "." = true := by
    rw [String.startsWith_string_iff]
    decide
  have hparts : splitDots "shop.Box" = ["shop", "Box"] := by decide
  have hmissing : (boxWorld "shop").importModule "shop.Box" =
      .error (.moduleMissing "No module named 'shop.Box'; 'shop' is not a package") := by
    rw [importModule, if_neg hstart, if_neg (by decide), hparts]
    rfl
  rw [resolveCallable_str (isCallable_str rfl rfl _) (by decide) (by decide),
    resolvePath_of_named hsplit (by decide) (by decide), hmissing]
  rfl

end World

end Overloads
