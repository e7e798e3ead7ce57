import Overloads.Instance.Construction
import Overloads.Proofs.Native.Making
import Overloads.Proofs.Outcome

/-!
Converting a value runs functions of its class. It gives a number of its kind, and never fails as a routine
refuses a call.
-/
namespace Overloads

variable {w : World} {make : Maker} {c : ClassName} {v : Value} {args : List Value} {s : Store}

@[simp] theorem run_throw {α : Type} (e : Failure) : (throw e : Making α).run s = .error e := rfl

@[simp] theorem run_modify (f : Store → Store) :
    (modify f : Making Unit).run s = .ok ((), f s) := rfl

@[simp] theorem unrefused_run_ite {α : Type} {p : Prop} [Decidable p] {x y : Making α} :
    Unrefused ((if p then x else y).run s) ↔
      (p → Unrefused (x.run s)) ∧ (¬ p → Unrefused (y.run s)) := by
  by_cases h : p <;> simp [h]

/-- That calls of classes do not fail as a routine refuses a call. -/
def Maker.Unrefused (make : Maker) : Prop :=
  ∀ c args s, Overloads.Unrefused ((make c args).run s)

@[simp] theorem unrefused_bareInstance : Unrefused ((w.bareInstance c args).run s) := by
  unfold World.bareInstance
  simp

mutual

theorem unrefused_build (hmake : make.Unrefused) (r : Recipe) (s : Store) :
    Unrefused ((r.build w make).run s) := by
  cases r with
  | value v => simp [Recipe.build]
  | list items => simp [Recipe.build, unrefused_buildAll hmake items]
  | tuple items => simp [Recipe.build, unrefused_buildAll hmake items]
  | dict items => simp [Recipe.build, unrefused_buildPairs hmake items]
  | character of => simp [Recipe.build, unrefused_build hmake of]
  | hex digits => simp [Recipe.build]
  | ratio num den => simp [Recipe.build]
  | saved name =>
    simp only [Recipe.build, StateT.run_bind, StateT.run_get, pure_bind]
    split <;> simp
  | make c args => simp [Recipe.build, unrefused_buildAll hmake args, hmake c]
  | bare c => simp [Recipe.build]

theorem unrefused_buildAll (hmake : make.Unrefused) (rs : List Recipe) (s : Store) :
    Unrefused ((Recipe.build.buildAll w make rs).run s) := by
  cases rs with
  | nil => simp [Recipe.build.buildAll]
  | cons r rest =>
    simp [Recipe.build.buildAll, unrefused_build hmake r, unrefused_buildAll hmake rest]

theorem unrefused_buildPairs (hmake : make.Unrefused) (rs : List (Recipe × Recipe)) (s : Store) :
    Unrefused ((Recipe.build.buildPairs w make rs).run s) := by
  cases rs with
  | nil => simp [Recipe.build.buildPairs]
  | cons r rest =>
    obtain ⟨a, b⟩ := r
    simp [Recipe.build.buildPairs, unrefused_build hmake a, unrefused_build hmake b,
      unrefused_buildPairs hmake rest]

end

@[simp] theorem unrefused_keeper (args : List Value) : Unrefused (Body.keeper args) := by
  unfold Body.keeper
  split <;> simp

theorem unrefused_runBody (hmake : make.Unrefused) (label : String) (args : List Value) (b : Body)
    (s : Store) : Unrefused ((b.run w make label args).run s) := by
  cases b with
  | receiver => cases args <;> simp [Body.run]
  | give r => simp [Body.run, unrefused_build hmake r]
  | _ => simp [Body.run]

theorem unrefused_call (hmake : make.Unrefused) (f : Function) (args : List Value) (s : Store) :
    Unrefused ((f.call w make args).run s) := by
  unfold Function.call
  split
  · split
    case h_1 => exact unrefused_runBody hmake _ _ _ _
    case h_2 =>
      simp only [StateT.run_bind, run_modify]
      split
      · simp
      · exact unrefused_runBody hmake _ _ _ _
    all_goals simp
  · simp

namespace World

theorem unrefused_callAttribute (hmake : make.Unrefused) (c : ClassName) (self : Value)
    (args : List Value) (a : Attribute) (s : Store) :
    Unrefused ((w.callAttribute make c self args a).run s) := by
  unfold callAttribute
  split
  case h_6 => simp
  case h_4 | h_5 => exact hmake _ _ _
  all_goals exact unrefused_call hmake _ _ _

@[simp] theorem unrefused_castAnswer (c : Cast) (name : String) (v : Value) :
    Unrefused (castAnswer c name v) := by
  unfold castAnswer
  split <;> simp

@[simp] theorem unrefused_ratioPart (k : ClassName) (content : Option Value) (name : String) :
    Unrefused (w.ratioPart k content name) := by
  unfold ratioPart
  split <;> simp

@[simp] theorem unrefused_ratioDouble (k : ClassName) (content : Option Value) :
    Unrefused (w.ratioDouble k content) := by
  simp [ratioDouble]

@[simp] theorem unrefused_castContent (c : Cast) (k : ClassName) (content : Option Value) (v : Value) :
    Unrefused (w.castContent c k content v) := by
  simp [castContent, Cast.unrefused_apply]

theorem unrefused_askedFor (hmake : make.Unrefused) (c : Cast) (k : ClassName) (v : Value)
    (asked : String × Attribute) (s : Store) : Unrefused ((w.askedFor make c k v asked).run s) := by
  simp [askedFor, unrefused_callAttribute hmake]

theorem unrefused_castWith (hmake : make.Unrefused) (c : Cast) (v : Value) (s : Store) :
    Unrefused ((w.castWith make c v).run s) := by
  unfold castWith
  split
  · split
    · exact unrefused_askedFor hmake _ _ _ _ _
    · unfold castInherited
      simp only [unrefused_run_ite]
      refine ⟨fun _ => by simp, fun _ => ⟨fun _ => ?_, fun _ => by simp⟩⟩
      split <;> simp [unrefused_askedFor hmake]
  · simp [Cast.unrefused_apply]

theorem unrefused_makeNative (hmake : make.Unrefused) (c : ClassName) (args : List Value)
    (s : Store) : Unrefused ((w.makeNative make c args).run s) := by
  unfold makeNative
  split
  · split <;> simp [Native.unrefused_make, unrefused_castWith hmake]
  · simp [Native.unrefused_make]
  · simp [Native.unrefused_make]

theorem unrefused_filled (hmake : make.Unrefused) (c : ClassName) (args : List Value)
    (content : Option ClassName) (s : Store) :
    Unrefused ((allocate.filled w make c args content).run s) := by
  cases content with
  | none => simp [allocate.filled]
  | some k => simp [allocate.filled, unrefused_makeNative hmake]

theorem unrefused_allocate (hmake : make.Unrefused) (c : ClassName) (args : List Value)
    (s : Store) : Unrefused ((w.allocate make c args).run s) := by
  unfold allocate
  split
  · simp [unrefused_call hmake, unrefused_filled hmake]
  · exact unrefused_filled hmake _ _ _ _

theorem unrefused_prepareBy (hmake : make.Unrefused) (c : ClassName) (self : Value)
    (args : List Value) (a : Attribute) (s : Store) :
    Unrefused ((w.prepareBy make c self args a).run s) := by
  unfold prepareBy
  split <;> simp [unrefused_callAttribute hmake]

theorem unrefused_prepare (hmake : make.Unrefused) (c : ClassName) (self : Value)
    (args : List Value) (s : Store) : Unrefused ((w.prepare make c self args).run s) := by
  unfold prepare
  split
  · simp only [unrefused_run_ite, run_throw, unrefused_error]
    refine ⟨fun _ => unrefused_prepareBy hmake _ _ _ _ _, fun _ => ⟨by simp, fun _ => ?_⟩⟩
    split
    · simp [unrefused_prepareBy hmake]
    · simp
  · simp

theorem unrefused_constructWith (fuel : Nat) : (constructWith fuel w).Unrefused := by
  induction fuel generalizing w with
  | zero => intro c args s; simp [constructWith]
  | succ fuel ih =>
    intro c args s
    simp [constructWith, unrefused_makeNative ih, unrefused_allocate ih, unrefused_prepare ih]

/-- Whatever a conversion runs on its way, it does not fail as a routine refuses a call. -/
theorem unrefused_cast (w : World) (c : Cast) (v : Value) : Unrefused (w.cast c v) := by
  have hmake : w.construct.Unrefused := unrefused_constructWith depthLimit
  have h : Unrefused ((w.castWith w.construct c v).run .empty) :=
    unrefused_castWith hmake c v .empty
  simpa [cast, StateT.run'_eq] using h

end World

/-- That a value is a number of the kind that a conversion makes. -/
def Cast.Gives (c : Cast) (v : Value) : Prop :=
  match c with
  | .int => ∃ n, v = .int n
  | .float => ∃ x, v = .float x

/-- That whatever a computation makes is a number of that kind. -/
def Cast.Ends (c : Cast) (x : Making Value) : Prop :=
  ∀ s u s', x.run s = .ok (u, s') → c.Gives u

namespace Cast

variable {k : Cast} {u : Value}

theorem ends_liftM {x : Except Failure Value} (h : ∀ u, x = .ok u → k.Gives u) :
    k.Ends (x : Making Value) := by
  intro s u s' hrun
  obtain ⟨a, ha, hpure⟩ := Except.bind_eq_ok.mp hrun
  cases hpure
  exact h u ha

theorem ends_bind {α : Type} {x : Making α} {f : α → Making Value} (h : ∀ a, k.Ends (f a)) :
    k.Ends (x >>= f) := by
  intro s u s' hrun
  obtain ⟨⟨a, s''⟩, -, hrest⟩ := Except.bind_eq_ok.mp hrun
  exact h a s'' u s' hrest

theorem gives_of_apply (h : k.apply v = .ok u) : k.Gives u := by
  cases k with
  | int =>
    obtain ⟨n, -, rfl⟩ := Except.map_eq_ok.mp h
    exact ⟨n, rfl⟩
  | float =>
    obtain ⟨x, -, rfl⟩ := Except.map_eq_ok.mp h
    exact ⟨x, rfl⟩

theorem gives_of_castAnswer {name : String} (h : World.castAnswer k name v = .ok u) : k.Gives u := by
  unfold World.castAnswer at h
  split at h
  · cases h
    exact ⟨_, rfl⟩
  · split at h
    · obtain ⟨x, -, rfl⟩ := Except.map_eq_ok.mp h
      exact ⟨x, rfl⟩
    · cases h
  · split at h
    · cases h
      exact ⟨_, rfl⟩
    · cases h
  · cases h

theorem gives_of_ratioDouble {content : Option Value} (h : w.ratioDouble c content = .ok u) :
    Cast.float.Gives u := by
  obtain ⟨num, -, h⟩ := Except.bind_eq_ok.mp h
  obtain ⟨den, -, h⟩ := Except.bind_eq_ok.mp h
  split at h
  · cases h
  · obtain ⟨x, -, rfl⟩ := Except.map_eq_ok.mp h
    exact ⟨x, rfl⟩

theorem gives_of_castContent {content : Option Value} (h : w.castContent k c content v = .ok u) :
    k.Gives u := by
  unfold World.castContent at h
  split at h
  · cases h
  · exact gives_of_apply h

theorem ends_castInherited (content : Option Value) : k.Ends (w.castInherited make k c content v) := by
  unfold World.castInherited
  split
  · rename_i hrational
    obtain ⟨rfl, -⟩ : k = .float ∧ _ := by simpa using hrational
    exact ends_liftM fun u hu => gives_of_ratioDouble hu
  · split
    · rename_i hintegral
      obtain ⟨rfl, -⟩ : k = .float ∧ _ := by simpa using hintegral
      split
      · apply ends_bind
        intro answer
        apply ends_bind
        intro x s u s' hrun
        cases hrun
        exact ⟨x, rfl⟩
      · intro s u s' hrun
        cases hrun
    · exact ends_liftM fun u hu => gives_of_castContent hu

theorem ends_castWith (v : Value) : k.Ends (w.castWith make k v) := by
  unfold World.castWith
  split
  · split
    · exact ends_bind fun answer => ends_liftM fun u hu => gives_of_castAnswer hu
    · exact ends_castInherited _
  · exact ends_liftM fun u hu => gives_of_apply hu

/-- A conversion answers with a number of its kind, also where an instance is asked. -/
theorem gives_of_cast (h : w.cast k v = .ok u) : k.Gives u := by
  obtain ⟨⟨a, s'⟩, hrun, rfl⟩ := Except.map_eq_ok.mp h
  exact ends_castWith v _ _ _ hrun

end Cast

end Overloads
