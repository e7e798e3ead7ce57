import Overloads.CommandLine.Arguments

/-! Classes that are named before other arguments. -/
namespace Overloads.CommandLine

variable {handles others : List String} {a : Arguments} {width : Option Int}
variable {set before : Arguments → Arguments}

/-- The same with more classes in front. -/
def Arguments.behind (handles : List String) (a : Arguments) : Arguments :=
  { a with classes := handles ++ a.classes }

/-- Whether a change is the same behind other classes. -/
def Indifferent (handles : List String) (set : Arguments → Arguments) : Prop :=
  ∀ a : Arguments, set (a.behind handles) = (set a).behind handles

theorem Indifferent.comp (hset : Indifferent handles set) (hbefore : Indifferent handles before) :
    Indifferent handles (set ∘ before) := by
  intro a
  rw [Function.comp_apply, hbefore, hset, Function.comp_apply]

def Action.Indifferent (handles : List String) : Action → Prop
  | .flag set => CommandLine.Indifferent handles set
  | .value set => ∀ s, CommandLine.Indifferent handles (set s)

def Token.Indifferent (handles : List String) : Token → Prop
  | .complete set => CommandLine.Indifferent handles set
  | .pending set => ∀ s, CommandLine.Indifferent handles (set s)
  | .stray | .unknown => True

theorem indifferent_of_mem (handles : List String) : ∀ o ∈ options, o.2.Indifferent handles := by
  simp [options, Action.Indifferent, Indifferent, Arguments.behind]

theorem indifferent_of_action {name : String} {action : Action} (h : action? name = some action)
    (handles : List String) : action.Indifferent handles := by
  obtain ⟨o, ho, rfl⟩ := Option.map_eq_some_iff.mp h
  exact indifferent_of_mem handles o (List.mem_of_find?_eq_some ho)

theorem indifferent_readShort (hbefore : Indifferent handles before) (cs : List Char) :
    (readShort before cs).Indifferent handles := by
  induction cs generalizing before with
  | nil => exact hbefore
  | cons c rest ih =>
    rw [readShort]
    cases haction : action? (String.ofList ['-', c]) with
    | none => trivial
    | some action =>
      have haction := indifferent_of_action haction handles
      cases action with
      | flag set => exact ih (Indifferent.comp haction hbefore)
      | value set =>
        dsimp only
        split
        · exact fun s => Indifferent.comp (haction s) hbefore
        · exact Indifferent.comp (haction _) hbefore

theorem indifferent_readLong (handles : List String) (cs : List Char) :
    (readLong cs).Indifferent handles := by
  unfold readLong
  cases haction : action? (String.ofList (cs.takeWhile (· ≠ '='))) with
  | none => trivial
  | some action =>
    have haction := indifferent_of_action haction handles
    cases action with
    | flag set =>
      cases cs.dropWhile (· ≠ '=') with
      | nil => exact haction
      | cons c value => trivial
    | value set =>
      cases cs.dropWhile (· ≠ '=') with
      | nil => exact haction
      | cons c value => exact haction _

theorem indifferent_readOne (handles : List String) (s : String) :
    (readOne s).Indifferent handles := by
  unfold readOne
  split
  · exact indifferent_readLong handles _
  · have hid : Indifferent handles id := fun _ => rfl
    exact indifferent_readShort hid _
  · trivial

/-- Arguments read the same behind other classes. -/
theorem readFrom_behind (handles : List String) (a : Arguments) (args : List String) :
    readFrom (a.behind handles) args = (readFrom a args).map (·.behind handles) := by
  fun_induction readFrom a args with
  | case1 a => rfl
  | case2 a rest => rfl
  | case3 a s rest hs htoken ih =>
    rw [← ih, readFrom, if_neg hs, htoken]
    rfl
  | case4 a s rest hs set htoken ih =>
    have hset := htoken ▸ indifferent_readOne handles s
    rw [← ih, readFrom, if_neg hs, htoken, ← hset a]
  | case5 a s hs set htoken =>
    rw [readFrom, if_neg hs, htoken]
    rfl
  | case6 a s hs set htoken value rest ih =>
    have hset := htoken ▸ indifferent_readOne handles s
    rw [← ih, readFrom, if_neg hs, htoken, ← hset value a]
  | case7 a s rest hs htoken =>
    rw [readFrom, if_neg hs, htoken]
    rfl

/-- Arguments that name some classes before they go on. -/
def naming (handles others : List String) : List String := handles.flatMap (["-c", ·]) ++ others

theorem readFrom_naming (a : Arguments) (handles others : List String) :
    readFrom a (naming handles others) =
      readFrom { a with classes := a.classes ++ handles } others := by
  induction handles generalizing a with
  | nil => simp [naming]
  | cons handle rest ih =>
    have hread : readFrom a (naming (handle :: rest) others) =
        readFrom { a with classes := a.classes ++ [handle] } (naming rest others) := rfl
    rw [hread, ih]
    simp

/-- Arguments ask for classes if no help is wanted and the width, if there is one, can be read. -/
theorem ofArguments_eq_wrap {args : List String} : Request.ofArguments args = .wrap a width ↔
    readFrom .none args = some a ∧ a.help = false ∧ a.width.map width? = width.map some := by
  unfold Request.ofArguments
  cases readFrom .none args with
  | none => simp
  | some found =>
    cases hhelp : found.help with
    | true => grind
    | false =>
      cases hwidth : found.width with
      | none => cases width <;> grind
      | some s => cases hread : width? s <;> cases width <;> grind

/-- Classes named in front are asked for together with all the rest. -/
theorem ofArguments_naming (handles : List String) (hothers : Request.ofArguments others = .wrap a width)
    (hclasses : a.classes = []) :
    Request.ofArguments (naming handles others) = .wrap { a with classes := handles } width := by
  have hbehind : a.behind handles = { a with classes := handles } := by
    rw [Arguments.behind, hclasses, List.append_nil]
  have hread : readFrom .none (naming handles others) =
      (readFrom .none others).map (·.behind handles) := by
    rw [readFrom_naming, ← readFrom_behind]
    simp [Arguments.behind, Arguments.none]
  obtain ⟨hfound, hhelp, hwidth⟩ := ofArguments_eq_wrap.mp hothers
  rw [hfound, Option.map_some, hbehind] at hread
  exact ofArguments_eq_wrap.mpr ⟨hread, hhelp, hwidth⟩

end Overloads.CommandLine
