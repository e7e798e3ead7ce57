import Overloads.Proofs.Class.NamesOnce
import Overloads.Proofs.Class.Testability
import Overloads.Proofs.Member.Origin

/-! Reflection sees the attribute that a look-up finds, and no other of its name. -/
namespace Overloads

variable {w : World} {c k holder : ClassName} {i : ClassInfo} {name : String} {a : Attribute}
variable {binding : Binding} {f : Function} {seen : List String} {order : List ClassName}

theorem own?_of_mem (hw : w.WellFormed) (hi : w.info? k = some i) (h : (name, a) ∈ i.attributes) :
    w.own? k name = some a := by
  have hlookup : i.attribute? name = some a := lookup_of_mem (hw.info hi).entries.1 h
  unfold World.own?
  unfold World.info? at hi
  cases hd : w.described? k with
  | some found =>
    obtain rfl : found = i := by simpa [hd] using hi
    simp [hlookup]
  | none =>
    have hnative : Native.info? k = some i := by simpa [hd] using hi
    simp [hnative, hlookup]

theorem isPublic_of_implied : ∀ n ∈ World.impliedNames, World.isPublic n = false := by
  decide +kernel

theorem special?_of_public (hpublic : World.isPublic name = true) : Native.special? k name = none := by
  have hname : (!name.startsWith "_") = true := hpublic
  unfold Native.special?
  simp only [hname, if_true]

/-- Of the public names a class has those that it lists. -/
theorem own?_of_public (hpublic : World.isPublic name = true) :
    w.own? k name = (((w.info? k).map (·.attributes)).getD []).lookup name := by
  have himplied : World.impliedNames.contains name = false := by
    rw [Bool.eq_false_iff]
    intro h
    rw [isPublic_of_implied name (List.contains_iff_mem.mp h)] at hpublic
    cases hpublic
  unfold World.own? World.info?
  cases w.described? k with
  | some i =>
    simp only [himplied, ClassInfo.attribute?, Option.map_some, Option.getD_some]
    cases i.attributes.lookup name <;> rfl
  | none =>
    cases Native.info? k with
    | none => rfl
    | some i =>
      simp only [special?_of_public hpublic, ClassInfo.attribute?, Option.map_some, Option.getD_some]
      cases i.attributes.lookup name <;> rfl

theorem special?_ne_function : Native.special? k name ≠ some (.function binding f) := by
  intro h
  unfold Native.special? at h
  dsimp only at h
  repeat' split at h
  all_goals simp at h

/-- A function is found only where it is listed. -/
theorem mem_of_own? (h : w.own? k name = some (.function binding f)) :
    ∃ i, w.info? k = some i ∧ (name, .function binding f) ∈ i.attributes := by
  unfold World.own? at h
  cases hd : w.described? k with
  | some i =>
    rw [hd] at h
    refine ⟨i, by simp [World.info?, hd], ?_⟩
    dsimp only at h
    split at h
    · rename_i a ha
      cases h
      exact mem_of_lookup ha
    · split at h <;> cases h
  | none =>
    rw [hd] at h
    dsimp only at h
    split at h
    · rename_i i hi
      refine ⟨i, by simp [World.info?, hd, hi], ?_⟩
      split at h
      · rename_i a ha
        cases h
        exact mem_of_lookup ha
      · exact (special?_ne_function h).elim
    · cases h

theorem defaultsLast_of_lookup (hw : w.WellFormed)
    (h : w.lookup c name = some (holder, .function binding f)) : f.implementation.DefaultsLast := by
  obtain ⟨i, hi, hmem⟩ := mem_of_own? (own?_of_lookup h)
  exact (hw.info hi).entries.2 _ hmem

theorem own?_object_ne_function (hw : w.KeepsBoxes) :
    w.own? .object name ≠ some (.function binding f) := by
  intro h
  obtain ⟨i, hi, hmem⟩ := mem_of_own? h
  have hnone : w.described? .object = none := hw .void
  have hnative : Native.info? .object = some i := by simpa [World.info?, hnone] using hi
  cases hnative
  cases hmem

/-- A visible attribute is one that the class holding it lists. -/
theorem mem_of_visibleFrom (h : (holder, name, a) ∈ w.visibleFrom seen order) :
    ∃ i, w.info? holder = some i ∧ (name, a) ∈ i.attributes := by
  induction order generalizing seen with
  | nil => cases h
  | cons k rest ih =>
    rw [World.visibleFrom] at h
    split at h
    · exact ih h
    · rcases List.mem_append.mp h with hown | hrest
      · obtain ⟨⟨n, b⟩, hb, heq⟩ := List.mem_map.mp hown
        cases heq
        have hlisted := (List.mem_filter.mp hb).1
        cases hi : w.info? holder with
        | none => simp [hi] at hlisted
        | some i => exact ⟨i, rfl, by simpa [hi] using hlisted⟩
      · exact ih hrest

/-- A name that was seen is not looked for any more. -/
theorem filter_visibleFrom_of_seen (hseen : name ∈ seen) :
    (w.visibleFrom seen order).filter (·.2.1 = name) = [] := by
  induction order generalizing seen with
  | nil => rfl
  | cons k rest ih =>
    rw [World.visibleFrom]
    split
    · exact ih hseen
    · rw [List.filter_append, ih (List.mem_append_left _ hseen), List.append_nil]
      apply List.filter_eq_nil_iff.mpr
      intro x hx
      obtain ⟨⟨n, b⟩, hb, rfl⟩ := List.mem_map.mp hx
      have hfresh := (List.mem_filter.mp hb).2
      intro hname
      obtain rfl : n = name := by simpa using hname
      simp [hseen] at hfresh

/-- Where names are distinct, those of one name are what a look-up finds. -/
theorem filter_of_distinct {entries : List (String × Attribute)}
    (hnames : (entries.map (·.1)).Nodup) :
    entries.filter (·.1 = name) = (entries.lookup name).toList.map (name, ·) := by
  cases hlookup : entries.lookup name with
  | none =>
    apply List.filter_eq_nil_iff.mpr
    intro x hx hname
    exact not_mem_of_lookup hlookup (List.mem_map.mpr ⟨x, hx, of_decide_eq_true hname⟩)
  | some a =>
    obtain ⟨front, back, rfl, hfront⟩ := List.lookup_eq_some_iff.mp hlookup
    rw [List.map_append, List.map_cons, List.nodup_append, List.nodup_cons] at hnames
    have hnone : back.filter (·.1 = name) = [] := by
      apply List.filter_eq_nil_iff.mpr
      intro x hx hname
      exact hnames.2.1.1 (List.mem_map.mpr ⟨x, hx, of_decide_eq_true hname⟩)
    have hfirst : front.filter (·.1 = name) = [] := by
      apply List.filter_eq_nil_iff.mpr
      intro x hx hname
      have hother := hfront x hx
      simp [of_decide_eq_true hname] at hother
    simp [hfirst, hnone]

/-- Of what a class adds to the visible attributes, those of one name are those that it lists. -/
theorem filter_fresh {entries : List (String × Attribute)} (hseen : name ∉ seen) :
    ((entries.filter fun (n, _) => !seen.contains n).map fun (n, a) => (k, n, a)).filter
        (·.2.1 = name) =
      (entries.filter (·.1 = name)).map fun (n, a) => (k, n, a) := by
  rw [List.filter_map, List.filter_filter]
  congr 1
  apply List.filter_congr
  rintro ⟨n, a⟩ -
  by_cases hn : n = name
  · simp [hn, hseen]
  · simp [hn]

namespace World

/-- The first class of an order, the root class apart, that has the attribute of its own. -/
def nearestIn? (w : World) (order : List ClassName) (name : String) :
    Option (ClassName × Attribute) :=
  (order.filter (· ≠ .object)).findSome? fun k => (w.own? k name).map (k, ·)

def nearest? (w : World) (c : ClassName) (name : String) : Option (ClassName × Attribute) :=
  w.nearestIn? (w.linearization c) name

end World

/--
The visible attribute of a public name is that of the nearest class that has it. The names that were seen
on the way down the order are all those of the classes passed, whatever their attributes are.
-/
theorem filter_visibleFrom (hw : w.NamesOnce) (hpublic : World.isPublic name = true)
    (hseen : name ∉ seen) :
    (w.visibleFrom seen order).filter (·.2.1 = name) =
      (w.nearestIn? order name).toList.map fun (k, a) => (k, name, a) := by
  induction order generalizing seen with
  | nil => rfl
  | cons k rest ih =>
    rw [World.visibleFrom]
    by_cases hobject : k = .object
    · rw [if_pos hobject, ih hseen]
      simp [World.nearestIn?, hobject]
    · have hown := own?_of_public (w := w) (k := k) hpublic
      have hnames : ((((w.info? k).map (·.attributes)).getD []).map (·.1)).Nodup := by
        cases hi : w.info? k with
        | none => exact List.nodup_nil
        | some i => exact hw.info hi
      have hnearest : w.nearestIn? (k :: rest) name =
          ((w.own? k name).map (k, ·)).or (w.nearestIn? rest name) := by
        rw [World.nearestIn?, List.filter_cons_of_pos (by simpa using hobject), List.findSome?_cons]
        cases (w.own? k name) <;> rfl
      rw [if_neg hobject, hnearest, hown]
      generalize ((w.info? k).map (·.attributes)).getD [] = entries at hnames
      dsimp only
      rw [List.filter_append, filter_fresh hseen, filter_of_distinct hnames]
      cases hlookup : entries.lookup name with
      | none =>
        have hunseen : name ∉ seen ++ (entries.filter fun (n, _) => !seen.contains n).map (·.1) := by
          intro hmem
          rcases List.mem_append.mp hmem with hold | hfresh
          · exact hseen hold
          · obtain ⟨x, hx, rfl⟩ := List.mem_map.mp hfresh
            exact not_mem_of_lookup hlookup (List.mem_map_of_mem (List.mem_filter.mp hx).1)
        rw [ih hunseen]
        rfl
      | some a =>
        have hpassed : name ∈ seen ++ (entries.filter fun (n, _) => !seen.contains n).map (·.1) := by
          apply List.mem_append_right
          exact List.mem_map_of_mem
            (List.mem_filter.mpr ⟨mem_of_lookup hlookup, by simpa using hseen⟩)
        rw [filter_visibleFrom_of_seen hpassed]
        rfl

theorem filter_visible (hw : w.NamesOnce) (hpublic : World.isPublic name = true) :
    (w.visible c).filter (·.2.1 = name) =
      (w.nearest? c name).toList.map fun (k, a) => (k, name, a) :=
  filter_visibleFrom hw hpublic (by simp)

theorem filter_public_visible (hw : w.NamesOnce) (hpublic : World.isPublic name = true) :
    ((w.visible c).filter fun (_, n, _) => World.isPublic n).filter (·.2.1 = name) =
      (w.nearest? c name).toList.map fun (k, a) => (k, name, a) := by
  rw [← filter_visible hw hpublic, List.filter_filter]
  apply List.filter_congr
  rintro ⟨k, n, a⟩ -
  by_cases hn : n = name
  · simp [hn, hpublic]
  · simp [hn]

/-- The root class has no public name, so to find the nearest attribute is to look the name up. -/
theorem nearest?_eq_lookup (hboxes : w.KeepsBoxes) (hpublic : World.isPublic name = true) :
    w.nearest? c name = w.lookup c name := by
  have hobject : w.own? .object name = none := by
    have hnone : w.described? .object = none := hboxes .void
    rw [own?_of_public hpublic, World.info?, hnone]
    rfl
  unfold World.nearest? World.nearestIn? World.lookup
  induction w.linearization c with
  | nil => rfl
  | cons k rest ih =>
    by_cases hk : k = .object
    · rw [List.filter_cons_of_neg (by simpa using hk), ih, List.findSome?_cons, hk, hobject]
      rfl
    · rw [List.filter_cons_of_pos (by simpa using hk), List.findSome?_cons, ih, List.findSome?_cons]

/-- What the attributes of one name give, where each gives members of its own name only. -/
theorem filter_flatMap_members (l : List (ClassName × String × Attribute)) :
    ((l.map fun (k, n, a) => w.reflectAttribute c k n a).flatMap (·.members)).filter
        (·.name = name) =
      (l.filter (·.2.1 = name)).flatMap fun (k, n, a) => (w.reflectAttribute c k n a).members := by
  induction l with
  | nil => rfl
  | cons x rest ih =>
    obtain ⟨k, n, a⟩ := x
    rw [List.map_cons, List.flatMap_cons, List.filter_append, ih]
    by_cases hn : n = name
    · have hall : ((w.reflectAttribute c k n a).members).filter (·.name = name) =
          (w.reflectAttribute c k n a).members := by
        apply List.filter_eq_self.mpr
        intro m hm
        simp [name_of_attribute hm, hn]
      rw [hall, List.filter_cons_of_pos (by simp [hn]), List.flatMap_cons]
    · have hnone : ((w.reflectAttribute c k n a).members).filter (·.name = name) = [] := by
        apply List.filter_eq_nil_iff.mpr
        intro m hm
        simp [name_of_attribute hm, hn]
      rw [hnone, List.filter_cons_of_neg (by simp [hn]), List.nil_append]

/-- The methods of one name are what the attribute of the name gives. -/
theorem filter_methods (hboxes : w.KeepsBoxes) (hw : w.WellFormed)
    (hpublic : World.isPublic name = true)
    (h : w.lookup c name = some (holder, .function binding f)) :
    (w.methods c).filter (·.name = name) =
      (w.reflectAttribute c holder name (.function binding f)).members := by
  rw [World.methods, World.reflectedMethods, filter_flatMap_members,
    filter_public_visible hw.namesOnce hpublic, nearest?_eq_lookup hboxes hpublic, h]
  simp

end Overloads
