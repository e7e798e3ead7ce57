import Overloads.Pattern.Search

/-! Expressions whose groups have other numbers: they are as wide as before and match the same. -/
namespace Overloads.Pattern

variable {k m n : Nat} {alternatives : List (List Node)} {ns : List Node}

/-- The number of a group behind `k` others; no group has the number zero. -/
def moved (k n : Nat) : Nat := if n = 0 then 0 else n + k

@[simp] theorem moved_inj : moved k m = moved k n ↔ m = n := by
  unfold moved
  split <;> split <;> omega

@[simp] theorem moved_le : moved k m ≤ moved k n ↔ m ≤ n := by
  unfold moved
  split <;> split <;> omega

theorem moved_of_pos (h : 0 < n) : moved k n = n + k := if_neg (Nat.ne_of_gt h)

theorem moved_succ (h : 0 < n) : moved k (n + 1) = moved k n + 1 := by
  rw [moved_of_pos h, moved_of_pos (Nat.succ_pos n)]
  omega

@[simp] theorem moved_zero (n : Nat) : moved 0 n = n := by
  unfold moved
  split <;> omega

/-- What belongs to a number belongs to the moved number then. -/
theorem lookup_moved {α : Type} (l : List (Nat × α)) (n : Nat) :
    (l.map fun g => (moved k g.1, g.2)).lookup (moved k n) = l.lookup n := by
  induction l with
  | nil => rfl
  | cons g rest ih =>
    have hkey : (moved k n == moved k g.1) = (n == g.1) := by
      simp [Bool.beq_eq_decide_eq]
    rw [List.map_cons, List.lookup_cons, List.lookup_cons, hkey, ih]

mutual

/-- The expression behind `k` groups. -/
def Node.shift (k : Nat) : Node → Node
  | .branch alternatives => .branch (shiftEach k alternatives)
  | .repetition greed least most body => .repetition greed least most (shiftAll k body)
  | .group number added removed body => .group (number.map (moved k)) added removed (shiftAll k body)
  | .atomic body => .atomic (shiftAll k body)
  | .ahead negated body => .ahead negated (shiftAll k body)
  | .behind negated width body => .behind negated width (shiftAll k body)
  | .backreference number => .backreference (moved k number)
  | .conditional number yes no => .conditional (moved k number) (shiftAll k yes) (shiftAll k no)
  | .literal negated code => .literal negated code
  | .any => .any
  | .set negated items => .set negated items
  | .anchor a => .anchor a

def shiftAll (k : Nat) : List Node → List Node
  | [] => []
  | n :: rest => n.shift k :: shiftAll k rest

def shiftEach (k : Nat) : List (List Node) → List (List Node)
  | [] => []
  | ns :: rest => shiftAll k ns :: shiftEach k rest

end

theorem shiftAll_eq_map : shiftAll k ns = ns.map (Node.shift k) := by
  induction ns with
  | nil => rfl
  | cons n rest ih => rw [shiftAll, List.map_cons, ih]

theorem head?_shiftAll : (shiftAll k ns).head? = ns.head?.map (Node.shift k) := by
  rw [shiftAll_eq_map, List.head?_map]

theorem tail_shiftAll : (shiftAll k ns).tail = shiftAll k ns.tail := by
  rw [shiftAll_eq_map, shiftAll_eq_map, List.map_tail]

theorem shiftAll_append (ms ns : List Node) : shiftAll k (ms ++ ns) = shiftAll k ms ++ shiftAll k ns := by
  simp only [shiftAll_eq_map, List.map_append]

theorem shiftEach_eq_map : shiftEach k alternatives = alternatives.map (shiftAll k) := by
  induction alternatives with
  | nil => rfl
  | cons ns rest ih => rw [shiftEach, List.map_cons, ih]

namespace Node

theorem same_shift (a b : Node) : (a.shift k).same (b.shift k) = a.same b := by
  cases a <;> cases b <;> simp [shift, same, Bool.beq_eq_decide_eq]

theorem commonStart_shift (fuel : Nat) :
    commonStart fuel (alternatives.map (shiftAll k)) =
      (shiftAll k (commonStart fuel alternatives).1,
        (commonStart fuel alternatives).2.map (shiftAll k)) := by
  induction fuel generalizing alternatives with
  | zero => rfl
  | succ fuel ih =>
    have hhead : (alternatives.map (shiftAll k)).head?.bind (·.head?) =
        (alternatives.head?.bind (·.head?)).map (Node.shift k) := by
      cases alternatives with
      | nil => rfl
      | cons ns rest => simp [head?_shiftAll]
    rw [commonStart, commonStart, hhead]
    cases alternatives.head?.bind (·.head?) with
    | none => rfl
    | some n =>
      have hall : (alternatives.map (shiftAll k)).all (fun ns => ns.head?.any (n.shift k).same) =
          alternatives.all fun ns => ns.head?.any n.same := by
        rw [List.all_map]
        congr 1
        funext ns
        cases h : ns.head? <;> simp [head?_shiftAll, h, same_shift]
      have htail : (alternatives.map (shiftAll k)).map List.tail =
          (alternatives.map List.tail).map (shiftAll k) := by
        simp [tail_shiftAll]
      simp only [Option.map_some, hall, htail, ih]
      split <;> rfl

theorem setItems?_shift (ns : List Node) : setItems? (shiftAll k ns) = setItems? ns := by
  rw [shiftAll_eq_map]
  match ns with
  | [] => rfl
  | [n] => cases n <;> rfl
  | a :: b :: rest =>
    cases a with
    | literal negated _ => cases negated <;> rfl
    | set negated _ => cases negated <;> rfl
    | _ => rfl

theorem choice_shift : choice (alternatives.map (shiftAll k)) = shiftAll k (choice alternatives) := by
  match alternatives with
  | [only] => rfl
  | [] => rfl
  | first :: second :: rest =>
    have hlength : (shiftAll k first).length = first.length := by
      rw [shiftAll_eq_map, List.length_map]
    have hstart : commonStart first.length ((first :: second :: rest).map (shiftAll k)) = _ :=
      commonStart_shift first.length
    have hitems (rest : List (List Node)) :
        (rest.map (shiftAll k)).mapM setItems? = rest.mapM setItems? := by
      rw [List.mapM_map]
      congr 1
      funext ns
      exact setItems?_shift ns
    simp only [List.map_cons] at hstart ⊢
    simp only [choice, List.head?_cons, Option.getD_some, hlength, hstart, hitems, shiftAll_append]
    congr 1
    split
    · rfl
    · simp [shiftAll, shift, shiftEach_eq_map]

end Node

/-! Widths and obstacles. -/

variable {groups groups' : List (Nat × Nat × Nat)}

mutual

theorem one_shift (h : ∀ n, groups'.lookup (moved k n) = groups.lookup n) :
    ∀ n : Node, width.one groups' (n.shift k) = width.one groups n
  | .branch alternatives => widest_shift h alternatives
  | .repetition _ _ _ body | .group _ _ _ body | .atomic body => by
    simp only [Node.shift, width.one, sum_shift h body]
  | .backreference number => by simp only [Node.shift, width.one, h]
  | .conditional _ yes no => by simp only [Node.shift, width.one, sum_shift h yes, sum_shift h no]
  | .ahead _ _ | .behind _ _ _ | .literal _ _ | .any | .set _ _ | .anchor _ => rfl

theorem sum_shift (h : ∀ n, groups'.lookup (moved k n) = groups.lookup n) :
    ∀ ns : List Node, width.sum groups' (shiftAll k ns) = width.sum groups ns
  | [] => rfl
  | n :: rest => by simp only [shiftAll, width.sum, one_shift h n, sum_shift h rest]

theorem widest_shift (h : ∀ n, groups'.lookup (moved k n) = groups.lookup n) :
    ∀ alternatives : List (List Node),
      width.widest groups' (shiftEach k alternatives) = width.widest groups alternatives
  | [] => rfl
  | ns :: rest => by simp only [shiftEach, width.widest, sum_shift h ns, widest_shift h rest]

end

/-- Expressions are as wide as before if the groups are. -/
theorem width_shift (h : ∀ n, groups'.lookup (moved k n) = groups.lookup n) (ns : List Node) :
    width groups' (shiftAll k ns) = width groups ns := by
  rw [width, width, sum_shift h]

mutual

theorem obstacle?_one_shift {template : Bool} :
    ∀ n : Node, obstacle?.one template (n.shift k) = obstacle?.one template n
  | .branch alternatives => obstacle?_any_shift alternatives
  | .repetition _ _ _ body | .group _ _ _ body | .atomic body | .ahead _ body
  | .behind _ _ body => by
    simp only [Node.shift, obstacle?.one, obstacle?_all_shift body]
  | .conditional _ yes no => by
    simp only [Node.shift, obstacle?.one, obstacle?_all_shift yes, obstacle?_all_shift no]
  | .backreference _ | .literal _ _ | .any | .set _ _ | .anchor _ => rfl

theorem obstacle?_all_shift {template : Bool} :
    ∀ ns : List Node, obstacle?.all template (shiftAll k ns) = obstacle?.all template ns
  | [] => rfl
  | n :: rest => by
    simp only [shiftAll, obstacle?.all, obstacle?_one_shift n, obstacle?_all_shift rest]

theorem obstacle?_any_shift {template : Bool} : ∀ alternatives : List (List Node),
    obstacle?.any template (shiftEach k alternatives) = obstacle?.any template alternatives
  | [] => rfl
  | ns :: rest => by
    simp only [shiftEach, obstacle?.any, obstacle?_all_shift ns, obstacle?_any_shift rest]

end

mutual

theorem isTooWide_one_shift : ∀ n : Node, isTooWide.one (n.shift k) = isTooWide.one n
  | .branch alternatives => isTooWide_any_shift alternatives
  | .repetition _ _ _ body | .group _ _ _ body | .atomic body | .ahead _ body
  | .behind _ _ body => by
    simp only [Node.shift, isTooWide.one, isTooWide_all_shift body]
  | .conditional _ yes no => by
    simp only [Node.shift, isTooWide.one, isTooWide_all_shift yes, isTooWide_all_shift no]
  | .backreference _ | .literal _ _ | .any | .set _ _ | .anchor _ => rfl

theorem isTooWide_all_shift : ∀ ns : List Node, isTooWide.all (shiftAll k ns) = isTooWide.all ns
  | [] => rfl
  | n :: rest => by
    simp only [shiftAll, isTooWide.all, isTooWide_one_shift n, isTooWide_all_shift rest]

theorem isTooWide_any_shift : ∀ alternatives : List (List Node),
    isTooWide.any (shiftEach k alternatives) = isTooWide.any alternatives
  | [] => rfl
  | ns :: rest => by
    simp only [shiftEach, isTooWide.any, isTooWide_all_shift ns, isTooWide_any_shift rest]

end

/-! Matching. -/

variable {p opened : Place} {K K' : After} {M M' : Matcher} {fuel : Nat} {left last : Option Nat}

/-- The place with the texts of its groups under their other numbers. -/
def Place.renumber (k : Nat) (p : Place) : Place :=
  { p with groups := p.groups.map fun g => (moved k g.1, g.2) }

@[simp] theorem renumber_before : (p.renumber k).before = p.before := rfl

@[simp] theorem renumber_rest : (p.renumber k).rest = p.rest := rfl

theorem lookup_renumber (n : Nat) : (p.renumber k).groups.lookup (moved k n) = p.groups.lookup n :=
  lookup_moved p.groups n

theorem close_renumber (number : Option Nat) :
    (p.renumber k).close (opened.renumber k) (number.map (moved k)) =
      (p.close opened number).renumber k := by
  cases number with
  | none => rfl
  | some n => simp [Place.close, Place.renumber, List.filter_map, Function.comp_def]

theorem back_renumber (n : Nat) : (p.renumber k).back n = (p.back n).map (Place.renumber k) := by
  induction n generalizing p with
  | zero => rfl
  | succ n ih =>
    obtain ⟨before, rest, groups⟩ := p
    cases before with
    | nil => rfl
    | cons c before => exact ih (p := ⟨before, c :: rest, groups⟩)

/-- What comes after is the same for the other numbers. -/
def After.Alike (k : Nat) (K K' : After) : Prop :=
  ∀ q, K' (q.renumber k) = (K q).map (Place.renumber k)

def Matcher.Alike (k : Nat) (M M' : Matcher) : Prop :=
  ∀ p K K', After.Alike k K K' → M' (p.renumber k) K' = (M p K).map (Place.renumber k)

theorem alike_some : After.Alike k some some := fun _ => rfl

theorem alike_character (holds : Char → Bool) :
    Matcher.Alike k (character holds) (character holds) := by
  intro p K K' hK
  obtain ⟨before, rest, groups⟩ := p
  cases rest with
  | nil => rfl
  | cons c rest =>
    simp only [character, Place.renumber]
    split
    · exact hK ⟨c :: before, rest, groups⟩
    · rfl

theorem alike_runText (f : Flags) (text : List Char) :
    Matcher.Alike k (runText f text) (runText f text) := by
  induction text with
  | nil => exact fun p K K' hK => hK p
  | cons c rest ih => exact fun p K K' hK => alike_character _ p _ _ fun q => ih q K K' hK

theorem alike_exactly (hM : Matcher.Alike k M M') (n : Nat) :
    Matcher.Alike k (exactly M n) (exactly M' n) := by
  induction n with
  | zero => exact fun p K K' hK => hK p
  | succ n ih => exact fun p K K' hK => hM p _ _ fun q => ih q K K' hK

theorem alike_greedily (hM : Matcher.Alike k M M') (hK : After.Alike k K K') :
    After.Alike k (greedily M K fuel left last) (greedily M' K' fuel left last) := by
  induction fuel generalizing left last with
  | zero => exact hK
  | succ fuel ih =>
    intro p
    rw [greedily, greedily, renumber_rest]
    by_cases hstop : left = some 0 || last = some p.rest.length
    · rw [if_pos hstop, if_pos hstop, hK p]
    · rw [if_neg hstop, if_neg hstop, hM p _ _ ih, hK p]
      cases M p (greedily M K fuel (left.map (· - 1)) (some p.rest.length)) <;> rfl

theorem alike_lazily (hM : Matcher.Alike k M M') (hK : After.Alike k K K') :
    After.Alike k (lazily M K fuel left last) (lazily M' K' fuel left last) := by
  induction fuel generalizing left last with
  | zero => exact hK
  | succ fuel ih =>
    intro p
    rw [lazily, lazily, hK p, renumber_rest]
    cases K p with
    | some answer => rfl
    | none =>
      simp only [Option.map_none]
      by_cases hstop : left = some 0 || last = some p.rest.length
      · rw [if_pos hstop, if_pos hstop, Option.map_none]
      · rw [if_neg hstop, if_neg hstop, hM p _ _ ih]

theorem alike_firmly (hM : Matcher.Alike k M M') (n : Nat) :
    After.Alike k (firmly M n) (firmly M' n) := by
  induction n with
  | zero => exact alike_some
  | succ n ih =>
    intro p
    rw [firmly, firmly, hM p some some alike_some]
    cases M p some with
    | none => rfl
    | some q => exact ih q

theorem firmlyOn_renumber (hM : Matcher.Alike k M M') :
    firmlyOn M' fuel left last (p.renumber k) = (firmlyOn M fuel left last p).renumber k := by
  induction fuel generalizing left last p with
  | zero => rfl
  | succ fuel ih =>
    rw [firmlyOn, firmlyOn, hM p some some alike_some, renumber_rest]
    by_cases hstop : left = some 0 || last = some p.rest.length
    · rw [if_pos hstop, if_pos hstop]
    · rw [if_neg hstop, if_neg hstop]
      cases M p some with
      | none => rfl
      | some q => exact ih

theorem alike_repeated (greed : Greed) (least : Nat) (most : Option Nat)
    (hM : Matcher.Alike k M M') :
    Matcher.Alike k (repeated greed least most M) (repeated greed least most M') := by
  intro p K K' hK
  cases greed with
  | greedy => exact alike_exactly hM least p _ _ fun q => alike_greedily hM hK q
  | lazy => exact alike_exactly hM least p _ _ fun q => alike_lazily hM hK q
  | possessive =>
    simp only [repeated, alike_firmly hM least p]
    cases firmly M least p with
    | none => rfl
    | some q =>
      simp only [Option.map_some, Option.bind_some, firmlyOn_renumber hM]
      exact hK _

/-- Looking ahead or back keeps the place, with the texts of the groups that were closed. -/
theorem alike_looked (hK : After.Alike k K K') {negated : Bool} (found : Option Place) :
    (match found.map (Place.renumber k) with
      | some q => if negated then none else K' { p.renumber k with groups := q.groups }
      | none => if negated then K' (p.renumber k) else none) =
    (match found with
      | some q => if negated then none else K { p with groups := q.groups }
      | none => if negated then K p else none).map (Place.renumber k) := by
  cases found with
  | none => cases negated <;> simp [hK p]
  | some q =>
    cases negated with
    | true => rfl
    | false => exact hK { p with groups := q.groups }

mutual

/-- An expression behind other groups matches what it matches by itself. -/
theorem alike_run : ∀ (n : Node) (f : Flags), Matcher.Alike k (n.run f) ((n.shift k).run f)
  | .literal _ _, _ | .any, _ | .set _ _, _ => alike_character _
  | .anchor a, f => by
    intro p K K' hK
    have hholds : a.holds f (p.renumber k) = a.holds f p := by cases a <;> rfl
    rw [Node.shift, Node.run, Node.run, hholds, hK p]
    split <;> rfl
  | .branch alternatives, f => alike_runFirst alternatives f
  | .repetition greed least most body, f => alike_repeated greed least most (alike_runAll body f)
  | .group number added removed body, f => by
    intro p _ _ hK
    refine alike_runAll body _ p _ _ fun q => ?_
    rw [close_renumber]
    exact hK _
  | .atomic body, f => by
    intro p K K' hK
    simp only [Node.shift, Node.run, alike_runAll body f p some some alike_some]
    cases runAll body f p some with
    | none => rfl
    | some q => exact hK q
  | .ahead negated body, f => by
    intro p K K' hK
    have hbody := alike_runAll body f p some some alike_some
    rw [Node.shift, Node.run, Node.run, hbody]
    exact alike_looked hK _
  | .behind negated width body, f => by
    intro p K K' hK
    have hbody : ((p.renumber k).back width.1).bind (fun q => runAll (shiftAll k body) f q some) =
        ((p.back width.1).bind fun q => runAll body f q some).map (Place.renumber k) := by
      rw [back_renumber]
      cases p.back width.1 with
      | none => rfl
      | some q => exact alike_runAll body f q some some alike_some
    rw [Node.shift, Node.run, Node.run, hbody]
    exact alike_looked hK _
  | .backreference number, f => by
    intro p K K' hK
    simp only [Node.shift, Node.run, lookup_renumber]
    cases p.groups.lookup number with
    | none => rfl
    | some text => exact alike_runText f text p K K' hK
  | .conditional number yes no, f => by
    intro p K K' hK
    simp only [Node.shift, Node.run, lookup_renumber]
    split
    · exact alike_runAll yes f p K K' hK
    · exact alike_runAll no f p K K' hK

theorem alike_runAll : ∀ (ns : List Node) (f : Flags),
    Matcher.Alike k (runAll ns f) (runAll (shiftAll k ns) f)
  | [], _ => fun p _ _ hK => hK p
  | n :: rest, f => fun p K K' hK => alike_run n f p _ _ fun q => alike_runAll rest f q K K' hK

theorem alike_runFirst : ∀ (alternatives : List (List Node)) (f : Flags),
    Matcher.Alike k (runFirst alternatives f) (runFirst (shiftEach k alternatives) f)
  | [], _ => fun _ _ _ _ => rfl
  | ns :: rest, f => by
    intro p K K' hK
    rw [shiftEach, runFirst, runFirst, alike_runAll ns f p K K' hK, alike_runFirst rest f p K K' hK]
    cases runAll ns f p K <;> rfl

end

end Overloads.Pattern
