import Overloads.Instance.Construction
import Overloads.Proofs.Class.Binding
import Overloads.Proofs.Class.Special
import Overloads.Proofs.Member.Attributes
import Overloads.Proofs.Routine.Layout

/-! Reflected members can be called with the numbers of arguments that they take. -/
namespace Overloads

variable {w : World} {c holder : ClassName} {name : String} {f : Function} {m : Member}
variable {s : Signature} {shape : Shape} {n : Nat} {a : Attribute} {counts : List Nat}

namespace World

/-- The numbers of arguments of the nearest constructor that is known to have any. -/
def constructorCounts? (w : World) (c : ClassName) : Option (List Nat) :=
  (w.linearization c).findSome? fun k => (w.info? k).bind (·.constructorCounts)

/-- That nothing on the way to the root class has a say in how instances of a class are made. -/
structure MakesPlainly (w : World) (c : ClassName) : Prop where
  described : (w.described? c).isSome
  closed : w.isAbstract c = false
  content : w.contentClass? c = none
  allocator : w.lookup c allocatorName = some (.object, .unsigned true)
  initializer : w.lookup c initializerName = some (.object, .special)

/-- That a class shows the signature of its maker: it names no other, and nothing that it wraps. -/
def ShowsMaker (w : World) (c : ClassName) : Prop :=
  (w.lookup c "__signature__" = none ∧ w.lookup c "__wrapped__" = none) ∨
    ∃ holder, w.lookup c "__signature__" = some (holder, .value .nothing)

/--
That a call of a class with `n` arguments binds. Where the class shows the signature of its maker: to the
allocator or the initializer, be it the only one or the one that the signature is taken from, if it shows
its own; to the nearest native constructor where there is neither. And to no parameters where there is no
signature to be seen.
-/
structure ConstructorBinds (w : World) (c : ClassName) (n : Nat) : Prop where
  allocator : (w.classSource c).shown ≠ none → w.ShowsMaker c →
    ∀ f, f.guise = none → w.function? c allocatorName = some f →
      w.function? c initializerName = none ∨ w.maker? c = some f → f.implementation.Binds (n + 1)
  initializer : (w.classSource c).shown ≠ none → w.ShowsMaker c →
    ∀ holder binding f, f.guise = none → binding ≠ .static →
      w.lookup c initializerName = some (holder, .function binding f) →
        w.function? c allocatorName = none ∨ w.maker? c = some f → f.implementation.Binds (n + 1)
  native : w.ShowsMaker c → ∀ counts, w.maker? c = none → w.constructorCounts? c = some counts →
    n ∈ counts
  plain : (w.classSource c).shown = none → n = 0 ∧
    (w.MakesPlainly c → ∀ s, ∃ v s', (w.construct c []).run s = .ok (v, s'))

end World

namespace Target

/-- That a call of a target with `n` arguments binds to the parameters of what it reaches. -/
def Binds (w : World) (n : Nat) : Target → Prop
  | .construct c => w.ConstructorBinds c n
  | .function f none => f.implementation.Binds n
  | .function f (some _) => f.implementation.Binds (n + 1)
  | .scripted _ _ => True
  | .native holder name (some _) => ∃ counts, w.own? holder name = some (.native true counts) ∧
    n ∈ counts
  | .native holder name none => ∃ counts, w.own? holder name = some (.native false counts) ∧
    ∃ k ∈ counts, n = k + 1

/--
That the signature of a member speaks for what its target reaches: there are no overloads, a function shows
its own signature, and what is called on an instance can take one.
-/
def Speaks (w : World) (isStatic : Bool) : Target → Prop
  | .construct c => ∀ f ∈ w.initializer? c, f.overloads = []
  | .function f _ => f.overloads = [] ∧ f.guise = none ∧
    (isStatic = false → TakesFirst (f.implementation.params.map (·.kind)))
  | .scripted _ _ | .native _ _ _ => True

end Target

/-- A plain class can be called without arguments. -/
theorem World.MakesPlainly.construct (h : w.MakesPlainly c) (s : Store) :
    ∃ v s', (w.construct c []).run s = .ok (v, s') := by
  have hnone : (w.described? c).isNone = false := Option.isNone_eq_false_iff.mpr h.described
  -- What the call itself calls may lie one less deep than the call.
  have hallocate : (w.allocate (w.constructWith 99) c []).run s =
      .ok (.object c s.instances.length none, (s.allocate []).2) := by
    unfold World.allocate World.allocate.filled World.bareInstance
    simp only [h.allocator, h.content, h.closed]
    rfl
  have hprepare (s : Store) (self : Value) :
      (w.prepare (w.constructWith 99) c self []).run s = .ok ((), s) := by
    unfold World.prepare World.prepareBy
    simp only [h.initializer]
    rfl
  refine ⟨.object c s.instances.length none, (s.allocate []).2, ?_⟩
  unfold World.construct World.depthLimit World.constructWith
  simp only [hnone, Bool.false_eq_true, if_false]
  rw [run_bind_eq_ok]
  refine ⟨_, _, hallocate, ?_⟩
  split
  · rw [run_bind_eq_ok]
    exact ⟨_, _, hprepare _ _, rfl⟩
  · rfl

theorem Source.eq_of_mem_sources (hsingle : f.overloads = []) (hguise : f.guise = none)
    {source : Source} (h : source ∈ f.sources) :
    source.shown = f.implementation.shown? f.postponed := by
  have hone : f.sources = [Source.of f.shown f.postponed f.implementation] := by
    simp [Function.sources, hsingle, Function.source_of_plain hguise]
  rw [hone, List.mem_singleton] at h
  rw [h]
  rfl

theorem accepts_of_declared (hdeclared : m.declared = shape.params)
    (hvarargs : m.varargs = shape.varargs) : m.accepts n = shape.accepts n := by
  simp [Member.accepts, Shape.accepts, Member.parameterCount, Member.isVariadic, hdeclared,
    hvarargs]

/-- A member that declares a receiver in front of a shape takes one argument more. -/
theorem accepts_of_receiver {receiver : TypeRef}
    (hdeclared : m.declared = [receiver] ++ shape.params) (hvarargs : m.varargs = shape.varargs)
    (h : m.accepts n = true) : ∃ k, n = k + 1 ∧ shape.accepts k = true := by
  simp only [Member.accepts, Member.parameterCount, Member.isVariadic, hdeclared, hvarargs,
    List.length_append, List.length_singleton, Bool.or_eq_true, Bool.and_eq_true,
    decide_eq_true_eq] at h
  refine ⟨n - 1, by omega, ?_⟩
  simp only [Shape.accepts, Bool.or_eq_true, Bool.and_eq_true, decide_eq_true_eq]
  exact h.imp (by omega) fun hopen => ⟨hopen.1, by omega⟩

theorem binds_of_attribute (hw : w.WellFormed) (hvisible : (holder, name, a) ∈ w.visible c)
    (hm : m ∈ (w.reflectAttribute c holder name a).members) (hspeaks : m.target.Speaks w m.isStatic)
    (hn : m.accepts n = true) : m.target.Binds w n := by
  obtain ⟨i, hi, hmem⟩ := mem_of_visibleFrom hvisible
  have hwell : a.WellFormed := (hw.info hi).entries.2 _ hmem
  have hown : w.own? holder name = some a := own?_of_mem hw hi hmem
  obtain ⟨r, hr, source, hsource, shown, hshown, shape, hshape, rfl⟩ := mem_reflectAttribute hm
  cases a with
  | function binding f =>
    cases binding with
    | static =>
      cases hr
      rw [Source.eq_of_mem_sources hspeaks.1 hspeaks.2.1 hsource] at hshown
      rw [accepts_of_declared rfl rfl] at hn
      exact binds_of_shapes hwell hshown hshape hn
    | owner =>
      simp only [Attribute.reading?] at hr
      split at hr
      · cases hr
        cases List.mem_singleton.mp hsource
        rw [Function.source_of_plain hspeaks.2.1] at hshown
        obtain ⟨whole, hwhole, hbound⟩ := Option.bind_eq_some_iff.mp hshown
        rw [accepts_of_declared rfl rfl] at hn
        exact binds_succ_of_bound hwell hwhole hbound hshape hn
      · rename_i hoverloads
        cases hr
        exact (hoverloads (by simp [hspeaks.1])).elim
    | receiver =>
      cases hr
      rw [Source.eq_of_mem_sources hspeaks.1 hspeaks.2.1 hsource] at hshown
      obtain ⟨k, rfl, hk⟩ := accepts_of_receiver rfl rfl hn
      exact binds_succ_of_shapes hwell hshown (hspeaks.2.2 rfl) hshape hk
  | native isStatic counts =>
    cases isStatic with
    | true =>
      cases hr
      cases List.mem_singleton.mp hsource
      cases hshown
      rw [accepts_of_declared rfl rfl] at hn
      exact ⟨counts, hown, mem_of_takes_counts hwell (takes_of_mem_shapes hshape hn)⟩
    | false =>
      cases hr
      cases List.mem_singleton.mp hsource
      cases hshown
      obtain ⟨k, rfl, hk⟩ := accepts_of_receiver rfl rfl hn
      exact ⟨counts, hown, k, mem_of_takes_counts hwell (takes_of_mem_shapes hshape hk), rfl⟩
  | unsigned _ | cached _ _ =>
    cases hr
    cases hsource
  | special | property | value _ | nested _ => cases hr

/-- The signature of a class is that of an allocator or initializer which a look-up finds. -/
theorem function?_of_maker? (h : w.maker? c = some f) :
    w.function? c allocatorName = some f ∨ w.function? c initializerName = some f := by
  obtain ⟨k, -, hk⟩ := List.exists_of_findSome?_eq_some h
  split at hk
  · exact Or.inl hk
  · split at hk
    · exact Or.inr hk
    · cases hk

theorem lookup_of_function? (h : w.function? c name = some f) :
    ∃ holder binding, w.lookup c name = some (holder, .function binding f) := by
  unfold World.function? at h
  split at h
  · rename_i holder binding g hlookup
    cases h
    exact ⟨holder, binding, hlookup⟩
  · cases h

theorem defaultsLast_of_maker? (hw : w.WellFormed) (h : w.maker? c = some f) :
    f.implementation.DefaultsLast := by
  rcases function?_of_maker? h with hf | hf
  all_goals
    obtain ⟨holder, binding, hlookup⟩ := lookup_of_function? hf
    exact defaultsLast_of_lookup hw hlookup

/-- A class with an allocator or an initializer takes its signature from one of them. -/
theorem maker?_isSome (hf : w.function? c name = some f)
    (hname : name = allocatorName ∨ name = initializerName) : (w.maker? c).isSome := by
  obtain ⟨holder, binding, hlookup⟩ := lookup_of_function? hf
  obtain ⟨k, hk, hown⟩ := List.exists_of_findSome?_eq_some hlookup
  obtain ⟨a, ha, -⟩ := Option.map_eq_some_iff.mp hown
  apply List.findSome?_isSome_iff.mpr
  refine ⟨k, hk, ?_⟩
  rcases hname with rfl | rfl
  · simp [hf, ha]
  · split
    · rename_i hallocator
      exact (Bool.and_eq_true_iff.mp hallocator).1
    · simp [hf, ha]

theorem maker?_of_allocator (hf : w.function? c allocatorName = some f)
    (hnone : w.function? c initializerName = none) : w.maker? c = some f := by
  obtain ⟨g, hg⟩ := Option.isSome_iff_exists.mp (maker?_isSome hf (Or.inl rfl))
  rcases function?_of_maker? hg with h | h
  · rw [hg, ← h, hf]
  · rw [hnone] at h
    cases h

theorem maker?_of_initializer (hf : w.function? c initializerName = some f)
    (hnone : w.function? c allocatorName = none) : w.maker? c = some f := by
  obtain ⟨g, hg⟩ := Option.isSome_iff_exists.mp (maker?_isSome hf (Or.inr rfl))
  rcases function?_of_maker? hg with h | h
  · rw [hnone] at h
    cases h
  · rw [hg, ← h, hf]

theorem classSource_of_showsMaker (h : w.ShowsMaker c) :
    w.classSource c = w.makerSource ("<class '" ++ c.text ++ "'>") c := by
  rcases h with ⟨hsignature, hwrapped⟩ | ⟨holder, hsignature⟩
  · simp [World.classSource, World.classSourceWithin, hsignature, hwrapped]
  · simp [World.classSource, World.classSourceWithin, hsignature]

theorem shown_classSource_of_maker? (hshows : w.ShowsMaker c) (h : w.maker? c = some f)
    (hguise : f.guise = none) :
    (w.classSource c).shown = (f.implementation.shown? f.postponed).bind (·.bound?) := by
  simp [classSource_of_showsMaker hshows, World.makerSource, h, Function.source_of_plain hguise, Source.bound,
    Source.of]

theorem shown_classSource_of_counts (hshows : w.ShowsMaker c) (h : w.maker? c = none) :
    (w.classSource c).shown = (w.constructorCounts? c).map Attribute.countsSignature := by
  simp only [classSource_of_showsMaker hshows, World.makerSource, h, World.constructorCounts?]
  induction w.linearization c with
  | nil => rfl
  | cons k rest ih =>
    rw [List.findSome?_cons, List.findSome?_cons, ih]
    cases (w.info? k).bind (·.constructorCounts) <;> rfl

theorem contiguous_constructorCounts (hw : w.WellFormed)
    (h : w.constructorCounts? c = some counts) : Contiguous counts := by
  obtain ⟨k, -, hk⟩ := List.exists_of_findSome?_eq_some h
  obtain ⟨i, hi, hcounts⟩ := Option.bind_eq_some_iff.mp hk
  exact (hw.info hi).counts counts hcounts

/-- Without overloads constructors come from the signature of the class, or from an empty one. -/
theorem constructors_eq (hsingle : ∀ f ∈ w.initializer? c, f.overloads = []) :
    w.constructors c = (((w.classSource c).shown.getD .nullary).shapes w.checkable).map
      c.constructorMember := by
  have hsources : w.constructorSources c = [w.classSource c] := by
    unfold World.constructorSources
    split
    · rename_i f hf
      simp [hsingle f hf]
    · rfl
  unfold World.constructors World.reflectConstructor
  rw [hsources]
  cases hshown : (w.classSource c).shown with
  | none => simp [hshown, ClassName.constructorMember]
  | some shown => simp [hshown, ClassName.constructorMember]

/-- The shapes of a class with a maker bind to the maker, behind the argument that is fixed. -/
theorem binds_of_maker? (hw : w.WellFormed) (hshows : w.ShowsMaker c) (hmaker : w.maker? c = some f)
    (hguise : f.guise = none)
    (hshape : shape ∈ ((w.classSource c).shown.getD .nullary).shapes w.checkable)
    (hshown : (w.classSource c).shown ≠ none) (hn : shape.accepts n = true) :
    f.implementation.Binds (n + 1) := by
  obtain ⟨shown, hsome⟩ := Option.ne_none_iff_exists'.mp hshown
  rw [hsome, Option.getD_some] at hshape
  rw [shown_classSource_of_maker? hshows hmaker hguise] at hsome
  obtain ⟨whole, hwhole, hbound⟩ := Option.bind_eq_some_iff.mp hsome
  exact binds_succ_of_bound (defaultsLast_of_maker? hw hmaker) hwhole hbound hshape hn

theorem binds_of_constructor (hw : w.WellFormed) (hm : m ∈ w.constructors c)
    (hspeaks : m.target.Speaks w m.isStatic) (hn : m.accepts n = true) : m.target.Binds w n := by
  rw [target_of_constructor hm] at hspeaks ⊢
  rw [constructors_eq hspeaks] at hm
  obtain ⟨shape, hshape, rfl⟩ := List.mem_map.mp hm
  rw [accepts_of_declared rfl rfl] at hn
  refine ⟨?_, ?_, ?_, ?_⟩
  · intro hshown hshows f hguise hf hor
    have hmaker : w.maker? c = some f := hor.elim (maker?_of_allocator hf) id
    exact binds_of_maker? hw hshows hmaker hguise hshape hshown hn
  · intro hshown hshows holder binding f hguise _ hlookup hor
    have hf : w.function? c initializerName = some f := by simp [World.function?, hlookup]
    have hmaker : w.maker? c = some f := hor.elim (maker?_of_initializer hf) id
    exact binds_of_maker? hw hshows hmaker hguise hshape hshown hn
  · intro hshows counts hmaker hcounts
    have hsome : (w.classSource c).shown = some (Attribute.countsSignature counts) := by
      rw [shown_classSource_of_counts hshows hmaker, hcounts, Option.map_some]
    rw [hsome, Option.getD_some] at hshape
    exact mem_of_takes_counts (contiguous_constructorCounts hw hcounts)
      (takes_of_mem_shapes hshape hn)
  · intro hnone
    rw [hnone, Option.getD_none] at hshape
    obtain ⟨-, -, hroom⟩ := takes_of_mem_shapes hshape hn
    refine ⟨?_, fun hplain s => hplain.construct s⟩
    simpa [ShownSignature.positional, ShownSignature.variadic?, ShownSignature.nullary] using hroom

/--
A member can be called with every number of arguments that it accepts, as far as the signature that
it was reflected from speaks for what it reaches.
-/
theorem binds_of_accepts (hw : w.WellFormed) (hm : m ∈ w.members c)
    (hspeaks : m.target.Speaks w m.isStatic) (hn : m.accepts n = true) : m.target.Binds w n := by
  rcases List.mem_append.mp hm with hconstructor | hmethod
  · exact binds_of_constructor hw hconstructor hspeaks hn
  · obtain ⟨reflected, hreflected, hm⟩ := List.mem_flatMap.mp hmethod
    obtain ⟨⟨holder, name, a⟩, hvisible, rfl⟩ := List.mem_map.mp hreflected
    exact binds_of_attribute hw (List.mem_filter.mp hvisible).1 hm hspeaks hn

def shelfClass : ClassName := ⟨["stall"], ["Shelf"]⟩

def itemClass : ClassName := ⟨["stall"], ["Item"]⟩

def noteClass : ClassName := ⟨["stall"], ["Note"]⟩

def crateClass : ClassName := ⟨["stall"], ["Crate"]⟩

/-- A function of a class of the stall that gives its arguments back. -/
def stallFunction (path : List String) (role : Role) (params : List Param) : Function where
  module := ["stall"]
  path := path
  role := role
  overloads := []
  implementation := ⟨params, none⟩
  body := .trace
  postponed := false

/-- A parameter without annotation or default. -/
def plainParam (name : String) : Param := ⟨name, .positional, none, none⟩

def fillFunction : Function :=
  stallFunction ["Shelf", "fill"] .plain
    [plainParam "self", plainParam "count", ⟨"rest", .variadic, none, none⟩]

/-- A function of instances that has forgotten about them. -/
def clearFunction : Function := stallFunction ["Shelf", "clear"] .plain []

def newItem : Function := stallFunction ["Item", "__new__"] .allocator [plainParam "cls"]

def initItem : Function :=
  stallFunction ["Item", "__init__"] .initializer [plainParam "self", plainParam "price"]

/-- An initializer that gets no instance. -/
def initNote : Function := stallFunction ["Note", "__init__"] .plain [plainParam "text"]

/-- An initializer with an annotation that fails. -/
def initCrate : Function :=
  stallFunction ["Crate", "__init__"] .initializer
    [plainParam "self", ⟨"size", .positional, some (.faulty .failing), none⟩]

/-- A function without parameters that wraps one with two. -/
def auditFunction : Function :=
  { stallFunction ["Shelf", "audit"] .plain [] with
    guise := some (.wrapped ⟨[plainParam "by", plainParam "date"], none⟩ false) }

/-- Classes whose signatures speak, or do not speak, for what their calls reach. -/
def stall : World where
  classes := [
    { name := shelfClass
      linearization := [shelfClass, .object]
      isProtocol := false
      runtimeCheckable := false
      attributes := [
        ("fill", .function .receiver fillFunction),
        ("clear", .function .receiver clearFunction),
        ("audit", .function .static auditFunction)]
      annotations := []
      constructorCounts := none },
    { name := itemClass
      linearization := [itemClass, .object]
      isProtocol := false
      runtimeCheckable := false
      attributes := [
        (allocatorName, .function .static newItem),
        (initializerName, .function .receiver initItem)]
      annotations := []
      constructorCounts := none },
    { name := noteClass
      linearization := [noteClass, .object]
      isProtocol := false
      runtimeCheckable := false
      attributes := [(initializerName, .function .static initNote)]
      annotations := []
      constructorCounts := none },
    { name := crateClass
      linearization := [crateClass, .object]
      isProtocol := false
      runtimeCheckable := false
      attributes := [(initializerName, .function .receiver initCrate)]
      annotations := []
      constructorCounts := none }]
  modules := []

theorem keepsBoxes_stall : stall.KeepsBoxes := by
  intro p
  cases p <;> rfl

theorem wellFormed_stall : stall.WellFormed := by
  intro i hi
  simp only [stall, List.mem_cons, List.not_mem_nil, or_false] at hi
  rcases hi with rfl | rfl | rfl | rfl
  all_goals exact ⟨by decide +kernel, by simp⟩

/-- A function of the shelf gives the one member that takes its receiver and what is declared. -/
theorem mem_shelf (hpublic : World.isPublic name = true)
    (hvisible : (shelfClass, name, a) ∈ stall.visible shelfClass)
    (hm : (stall.reflectAttribute shelfClass shelfClass name a).members = [m]) :
    m ∈ stall.members shelfClass := by
  apply List.mem_append_right
  apply List.mem_flatMap.mpr
  refine ⟨stall.reflectAttribute shelfClass shelfClass name a, ?_, by simp [hm]⟩
  exact List.mem_map.mpr ⟨_, List.mem_filter.mpr ⟨hvisible, hpublic⟩, rfl⟩

theorem fill_binds : ∃ m ∈ stall.members shelfClass, m.accepts 4 = true ∧
    m.target = .function fillFunction none ∧ m.target.Binds stall 4 := by
  have hpublic : World.isPublic "fill" = true := by decide +kernel
  have hvisible : (shelfClass, "fill", .function .receiver fillFunction) ∈
      stall.visible shelfClass := List.mem_cons_self
  have hm := mem_shelf hpublic hvisible rfl
  refine ⟨_, hm, rfl, rfl, ?_⟩
  have hfirst : TakesFirst (fillFunction.implementation.params.map (·.kind)) :=
    Or.inl ⟨.positional, rfl, rfl⟩
  exact binds_of_accepts wellFormed_stall hm ⟨rfl, rfl, fun _ => hfirst⟩ rfl

/-- A name that all classes in front of the root class lack is looked up there. -/
theorem lookup_of_front (front : List ClassName) (horder : w.linearization c = front ++ [.object])
    (hown : ∀ k ∈ front, w.own? k name = none) :
    w.lookup c name = (w.own? .object name).map (ClassName.object, ·) := by
  have hfront : front.findSome? (fun k => (w.own? k name).map (k, ·)) = none := by
    apply List.findSome?_eq_none_iff.mpr
    intro k hk
    simp [hown k hk]
  simp [World.lookup, horder, hfront]

theorem function?_eq_none (hboxes : w.KeepsBoxes) (front : List ClassName)
    (horder : w.linearization c = front ++ [.object]) (hown : ∀ k ∈ front, w.own? k name = none) :
    w.function? c name = none := by
  have hlookup := lookup_of_front front horder hown
  unfold World.function?
  split
  · rename_i holder binding f h
    rw [hlookup] at h
    obtain ⟨a, ha, heq⟩ := Option.map_eq_some_iff.mp h
    cases heq
    exact (own?_object_ne_function hboxes ha).elim
  · rfl

theorem showsMaker_of_front (hboxes : w.KeepsBoxes) (front : List ClassName)
    (horder : w.linearization c = front ++ [.object])
    (hown : ∀ k ∈ front, w.own? k "__signature__" = none ∧ w.own? k "__wrapped__" = none) :
    w.ShowsMaker c := by
  have hnone : w.described? .object = none := hboxes .void
  have hsignature : w.own? .object "__signature__" = none := by
    rw [World.own?, hnone, Native.special?_signature.1]
    rfl
  have hwrapped : w.own? .object "__wrapped__" = none := by
    rw [World.own?, hnone, Native.special?_signature.2]
    rfl
  refine .inl ⟨?_, ?_⟩
  · rw [lookup_of_front front horder fun k hk => (hown k hk).1, hsignature, Option.map_none]
  · rw [lookup_of_front front horder fun k hk => (hown k hk).2, hwrapped, Option.map_none]

/-- A class whose signature is empty or missing gives a constructor without arguments. -/
theorem accepts_zero (hinitializer : w.initializer? c = some f) (hsingle : f.overloads = [])
    (hempty : (w.classSource c).shown.getD .nullary = .nullary) :
    ∃ m ∈ w.members c, m.accepts 0 = true ∧ m.target = .construct c := by
  have hconstructors := constructors_eq (w := w) (c := c) (by simp [hinitializer, hsingle])
  rw [hempty] at hconstructors
  have hmem : c.constructorMember ⟨[], none, Annotation.missing.type w.checkable⟩ ∈
      w.constructors c := by
    rw [hconstructors]
    exact List.mem_cons_self
  exact ⟨_, List.mem_append_left _ hmem, rfl, rfl⟩

theorem not_binds (args : List Value) (h : s.bind args = none) : ¬ s.Binds args.length := by
  intro hbinds
  obtain ⟨values, hvalues⟩ := hbinds args rfl
  rw [h] at hvalues
  cases hvalues

/--
The initializer of a class that takes its signature from an allocator, an initializer without an
instance, an initializer without a signature, a function of instances without a parameter, and a function
that shows the signature of one that it wraps do not take what the members of their classes accept.
-/
theorem advertised_not_taken :
    (∃ m ∈ stall.members itemClass, m.accepts 0 = true ∧ m.target = .construct itemClass ∧
      stall.lookup itemClass initializerName = some (itemClass, .function .receiver initItem) ∧
      ¬ initItem.implementation.Binds 1 ∧
      (stall.construct itemClass []).run .empty = .error .unfitArguments) ∧
    (∃ m ∈ stall.members noteClass, m.accepts 0 = true ∧ m.target = .construct noteClass ∧
      stall.lookup noteClass initializerName = some (noteClass, .function .static initNote) ∧
      ¬ initNote.implementation.Binds 0) ∧
    (∃ m ∈ stall.members crateClass, m.accepts 0 = true ∧ m.target = .construct crateClass ∧
      stall.lookup crateClass initializerName = some (crateClass, .function .receiver initCrate) ∧
      ¬ initCrate.implementation.Binds 1) ∧
    (∃ m ∈ stall.members shelfClass, m.accepts 1 = true ∧
      m.target = .function clearFunction none ∧ ¬ clearFunction.implementation.Binds 1) ∧
    ∃ m ∈ stall.members shelfClass, m.accepts 2 = true ∧
      m.target = .function auditFunction none ∧ ¬ auditFunction.implementation.Binds 2 := by
  have hclear : (shelfClass, "clear", .function .receiver clearFunction) ∈
      stall.visible shelfClass := List.mem_cons_of_mem _ List.mem_cons_self
  have haudit : (shelfClass, "audit", .function .static auditFunction) ∈
      stall.visible shelfClass :=
    List.mem_cons_of_mem _ (List.mem_cons_of_mem _ List.mem_cons_self)
  refine ⟨?_, ?_, ?_, ?_, ?_⟩
  · have hshows : stall.ShowsMaker itemClass :=
      showsMaker_of_front keepsBoxes_stall [itemClass] rfl (List.forall_mem_singleton.mpr ⟨rfl, rfl⟩)
    have hempty : (stall.classSource itemClass).shown = some .nullary :=
      shown_classSource_of_maker? hshows (f := newItem) rfl rfl
    obtain ⟨m, hm, hn, htarget⟩ := accepts_zero rfl rfl (by rw [hempty]; rfl)
    exact ⟨m, hm, hn, htarget, rfl, not_binds [.nothing] rfl, rfl⟩
  · have hmaker : stall.maker? noteClass = some initNote :=
      maker?_of_initializer rfl
        (function?_eq_none keepsBoxes_stall [noteClass] rfl (List.forall_mem_singleton.mpr rfl))
    have hshows : stall.ShowsMaker noteClass :=
      showsMaker_of_front keepsBoxes_stall [noteClass] rfl (List.forall_mem_singleton.mpr ⟨rfl, rfl⟩)
    have hempty : (stall.classSource noteClass).shown = some .nullary :=
      shown_classSource_of_maker? hshows hmaker rfl
    obtain ⟨m, hm, hn, htarget⟩ := accepts_zero rfl rfl (by rw [hempty]; rfl)
    exact ⟨m, hm, hn, htarget, rfl, not_binds [] rfl⟩
  · have hmaker : stall.maker? crateClass = some initCrate :=
      maker?_of_initializer rfl
        (function?_eq_none keepsBoxes_stall [crateClass] rfl (List.forall_mem_singleton.mpr rfl))
    have hshows : stall.ShowsMaker crateClass :=
      showsMaker_of_front keepsBoxes_stall [crateClass] rfl (List.forall_mem_singleton.mpr ⟨rfl, rfl⟩)
    have hempty : (stall.classSource crateClass).shown = none :=
      shown_classSource_of_maker? hshows hmaker rfl
    obtain ⟨m, hm, hn, htarget⟩ := accepts_zero rfl rfl (by rw [hempty]; rfl)
    exact ⟨m, hm, hn, htarget, rfl, not_binds [.nothing] rfl⟩
  · exact ⟨_, mem_shelf (by decide +kernel) hclear rfl, rfl, rfl, not_binds [.nothing] rfl⟩
  · exact ⟨_, mem_shelf (by decide +kernel) haudit rfl, rfl, rfl,
      not_binds [.nothing, .nothing] rfl⟩

end Overloads
