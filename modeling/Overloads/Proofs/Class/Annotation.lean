import Overloads.Class.Annotation
import Overloads.Proofs.Class.Testability
import Overloads.Proofs.Member.Attributes
import Overloads.Proofs.Outcome
import Overloads.Proofs.Routine.Guards

/-! The type that an annotation stands for: a primitive attached to it, or a class that can be tested for. -/
namespace Overloads

variable {w : World} {a b : Annotation} {as : List Annotation} {ms : List Metadata}
variable {written : Bool} {t : AnnotationText} {o : Operand} {os : List Operand}

namespace Annotation

/-- All that is attached to an annotation; what an inner one carries comes first. -/
def metadata : Annotation → List Metadata
  | .annotated base ms => base.metadata ++ ms
  | _ => []

/-- Neither a union nor with metadata around metadata. -/
def isSimple : Annotation → Bool
  | .union _ | .annotated (.annotated _ _) _ => false
  | _ => true

/-- Unions hold no unions, and metadata is not around metadata. -/
def Flat (a : Annotation) : Prop := ∀ m ∈ a.members, m.isSimple = true

theorem flat_of_isSimple (h : a.isSimple = true) : a.Flat := by
  intro m hm
  cases a with
  | union _ => cases h
  | named c =>
    rw [members] at hm
    split at hm <;> (obtain rfl := List.mem_singleton.mp hm; rfl)
  | _ =>
    obtain rfl := List.mem_singleton.mp hm
    exact h

theorem Flat.isSimple_annotated (h : (annotated b ms).Flat) : (annotated b ms).isSimple = true :=
  h _ List.mem_cons_self

theorem flat_attach (h : a.Flat) (ms : List Metadata) : (a.attach ms).Flat := by
  apply flat_of_isSimple
  cases a with
  | annotated inner first => cases inner with
    | annotated _ _ => exact absurd h.isSimple_annotated (by simp [isSimple])
    | _ => rfl
  | _ => rfl

theorem mem_or_mem_of_mem_foldl (as seen : List Annotation)
    (h : a ∈ as.foldl (fun seen b => if seen.contains b then seen else seen ++ [b]) seen) :
    a ∈ seen ∨ a ∈ as := by
  induction as generalizing seen with
  | nil => exact .inl h
  | cons b rest ih =>
    rw [List.foldl_cons] at h
    split at h
    · exact (ih seen h).imp_right (List.mem_cons_of_mem b)
    · rcases ih (seen ++ [b]) h with hseen | hrest
      · rcases List.mem_append.mp hseen with hseen | hb
        · exact .inl hseen
        · exact .inr (List.mem_cons.mpr (.inl (List.mem_singleton.mp hb)))
      · exact .inr (List.mem_cons_of_mem b hrest)

theorem mem_of_mem_distinct (h : a ∈ distinct as) : a ∈ as :=
  (mem_or_mem_of_mem_foldl as [] h).resolve_left List.not_mem_nil

theorem flat_unite (h : ∀ a ∈ as, a.Flat) : (unite as).Flat := by
  have hsimple : ∀ m ∈ distinct (as.flatMap members), m.isSimple = true := by
    intro m hm
    obtain ⟨a, ha, hm⟩ := List.mem_flatMap.mp (mem_of_mem_distinct hm)
    exact h a ha m hm
  unfold unite
  split
  next a hone => exact flat_of_isSimple (hsimple a (by simp [hone]))
  next => exact hsimple

end Annotation

/-- A union of flat annotations joined one by one. -/
theorem flat_of_foldlM_join (hos : ∀ o ∈ os, o.object.Flat) {first : Operand}
    (hfirst : first.object.Flat) (h : os.foldlM Operand.join? first = some o) : o.object.Flat := by
  induction os generalizing first with
  | nil =>
    cases h
    exact hfirst
  | cons next rest ih =>
    obtain ⟨joined, hjoin, hrest⟩ := Option.bind_eq_some_iff.mp h
    obtain ⟨joint, -, rfl⟩ := Option.map_eq_some_iff.mp hjoin
    apply ih (fun o ho => hos o (List.mem_cons_of_mem next ho)) _ hrest
    apply Annotation.flat_unite
    simp [hfirst, hos next List.mem_cons_self]

mutual

/-- Whatever is written evaluates to a flat annotation. -/
theorem flat_of_evaluate :
    ∀ (t : AnnotationText) {o : Operand}, t.evaluate written = .ok o → o.object.Flat
  | .annotated base ms, o, h => by
    obtain ⟨a, hbase, h⟩ := Except.bind_eq_ok.mp h
    split at h
    · cases h
    · cases h
      exact Annotation.flat_attach (flat_of_evaluate base hbase) ms
  | .union ts, o, h => by
    obtain ⟨as, hall, h⟩ := Except.bind_eq_ok.mp h
    split at h
    · cases h
    · cases h
      apply Annotation.flat_unite
      simpa using flat_of_evaluateAll ts hall
  | .bars ts, o, h => by
    obtain ⟨as, hall, h⟩ := Except.bind_eq_ok.mp h
    have hflat := flat_of_evaluateAll ts hall
    split at h
    · cases h
    next first rest =>
      split at h
      next joined hjoined =>
        cases h
        exact flat_of_foldlM_join (fun o ho => hflat o (List.mem_cons_of_mem first ho))
          (hflat first List.mem_cons_self) hjoined
      next => cases h
  | .generic head ts, o, h => by
    obtain ⟨as, -, h⟩ := Except.bind_eq_ok.mp h
    have hobject : ∃ args, o.object = .generic head args := by
      split at h
      · split at h
        · cases h
        · cases h
          exact ⟨_, rfl⟩
      · cases h
        exact ⟨_, rfl⟩
    obtain ⟨args, hargs⟩ := hobject
    rw [hargs]
    exact Annotation.flat_of_isSimple rfl
  | .faulty fault, o, h => by
    rw [AnnotationText.evaluate] at h
    split at h
    · cases h
    · cases h
      exact Annotation.flat_of_isSimple rfl
  | .nothing, o, h | .any, o, h | .named _, o, h | .other _, o, h | .text, o, h
  | .quoted _, o, h => by
    cases h
    exact Annotation.flat_of_isSimple rfl

theorem flat_of_evaluateAll : ∀ (ts : List AnnotationText) {os : List Operand},
    AnnotationText.evaluate.evaluateAll written ts = .ok os → ∀ o ∈ os, o.object.Flat
  | [], os, h => by
    cases h
    simp
  | t :: rest, os, h => by
    obtain ⟨first, hfirst, h⟩ := Except.bind_eq_ok.mp h
    obtain ⟨more, hmore, h⟩ := Except.bind_eq_ok.mp h
    cases h
    intro o ho
    rcases List.mem_cons.mp ho with rfl | ho
    · exact flat_of_evaluate t hfirst
    · exact flat_of_evaluateAll rest hmore o ho

end

/-- The class, or `object` where that cannot be tested for. -/
def World.testableClass (w : World) (c : ClassName) : ClassName := if w.canTest c then c else .object

/-- What an annotation without metadata stands for. -/
def World.image (w : World) : Annotation → TypeRef
  | .nothing => .primitive .void
  | .named c => if c = .builtin "NoneType" then .primitive .void else .reference (w.testableClass c)
  | .generic head _ => .reference (w.testableClass (genericOrigin head))
  | .missing | .any | .union _ | .other _ | .text | .annotated _ _ => .object

end Overloads
