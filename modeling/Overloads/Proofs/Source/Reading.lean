import Overloads.Proofs.Source.Meaning
import Overloads.Proofs.Text.Quoted
import Overloads.Source.Printer

/-! Reading source code back: the text of a function without documentation determines its tree. -/
namespace Overloads.Source

open Overloads.Number (decimalText)
open Overloads.Text

/-- What an expression could go on with. -/
def goesOn (c : Char) : Bool := isPathChar c || c = '[' || c = '('

def readPath : Reader String := readRun isPathChar

/-- Reads an expression within so many steps. A name is followed by what shows its kind. -/
def readExprIn : Nat → Reader Expr
  | 0 => failure
  | steps + 1 => do
    let name ← readPath
    if ← accepts "[" then
      let index ← readNumber
      expect "]"
      if name = "args" then return .argument index else failure
    else if ← accepts "(" then
      let e ← readExprIn steps
      if ← accepts ", " then
        let target ← readPath
        expect ")"
        return .coerced name e target
      else
        expect ")"
        if name = Cast.int.text then return .cast .int e
        else if name = Cast.float.text then return .cast .float e
        else failure
    else if name = "value" then return .item
    else failure

def readExpr : Reader Expr := stepwise readExprIn

def readSlice : Reader Nat := do
  expect "args["
  let start ← readNumber
  expect ":]"
  return start

/-- Reads the test of an expression. -/
def readInstance : Reader (Expr × String) := do
  expect instanceTest
  expect "("
  let e ← readExpr
  expect ", "
  let path ← readPath
  expect ")"
  return (e, path)

def readTest : Reader Test := do
  if ← accepts "all(" then
    let (e, path) ← readInstance
    expect " for value in "
    let start ← readSlice
    expect ")"
    return .allInstances start e path
  else
    let (e, path) ← readInstance
    return .isInstance e path

def readCondition : Reader (List Test) := do
  if ← accepts "True" then return [] else readSeparated " and " readTest

def readPassed : Reader Passed := do
  if ← accepts "*[" then
    let e ← readExpr
    expect " for value in "
    let start ← readSlice
    expect "]"
    return .each start e
  else if ← accepts "*" then return .rest (← readSlice)
  else return .one (← readExpr)

def readInvocation : Reader Invocation := do
  let path ← readPath
  expect "("
  if ← accepts ")" then return ⟨path, []⟩
  else
    let passed ← readSeparated ", " readPassed
    expect ")"
    return ⟨path, passed⟩

/-- Reads an error, given as what stands between its arguments and its end. -/
def readRefusal (more : String) : Reader (String × String) := do
  expect "raise "
  expect refusal
  expect "("
  let owner ← readQuoted
  expect ", "
  let memberName ← readQuoted
  expect ", "
  expect "args"
  expect more
  expect ")"
  return (owner, memberName)

def readEnding : Reader Ending := do
  if ← accepts "return " then return .call (← readInvocation)
  else
    let (owner, memberName) ← readRefusal ""
    return .refusal owner memberName

/-- Reads branches within so many steps, and the indentation of what follows them. -/
def readBranchesIn : Nat → Reader (List (List Test × Invocation))
  | 0 => failure
  | steps + 1 => do
    expect indent
    expect indent
    if ← accepts "if " then
      let tests ← readCondition
      expect ":"
      expect "\n"
      expect indent
      expect indent
      expect indent
      expect "return "
      let i ← readInvocation
      expect "\n"
      return (tests, i) :: (← readBranchesIn steps)
    else return []

def readBranches : Reader (List (List Test × Invocation)) := stepwise readBranchesIn

def readOrMore : Reader Bool := do
  if ← accepts ">=" then return true
  else
    expect "=="
    return false

/-- Reads a block behind the words that open it. -/
def readBlock : Reader Block := do
  let orMore ← readOrMore
  expect " "
  let arity ← readNumber
  expect ":"
  expect "\n"
  let branches ← readBranches
  let ending ← readEnding
  expect "\n"
  return ⟨arity, orMore, branches, ending⟩

/-- Reads blocks within so many steps, and the indentation of what follows them. -/
def readBlocksIn : Nat → Reader (List Block)
  | 0 => failure
  | steps + 1 => do
    expect indent
    if ← accepts "if len(args) " then
      let b ← readBlock
      return b :: (← readBlocksIn steps)
    else return []

def readBlocks : Reader (List Block) := stepwise readBlocksIn

def readDefinition : Reader Definition := do
  expect "def "
  let name ← readRun isNameChar
  expect "(*args):"
  expect "\n"
  let blocks ← readBlocks
  let (owner, memberName) ← readRefusal wrongNumberText
  expect "\n"
  return ⟨name, none, blocks, owner, memberName⟩

/-- The function that is the whole of a text. -/
def read (text : String) : Option Definition :=
  match readDefinition.run text.toList with
  | some (d, []) => some d
  | _ => none

variable {e : Expr} {path : String} {rest : List Char} {n : Nat}

theorem isPath_iff : isPath path = true ↔ path ≠ "" ∧ ∀ c ∈ path.toList, isPathChar c = true := by
  simp [isPath]

theorem readPath_append (h : isPath path = true) (hrest : Ends isPathChar rest) :
    readPath.run (path.toList ++ rest) = some (path, rest) := by
  obtain ⟨hne, hchars⟩ := isPath_iff.mp h
  exact readRun_append hne hchars hrest

theorem length_bracket : "(".toList.length = 1 := rfl

theorem length_newline : "\n".toList.length = 1 := rfl

theorem readExprIn_append {steps : Nat} (hpaths : ∀ p ∈ e.paths, isPath p = true)
    (hrest : Ends goesOn rest) (hsteps : e.text.toList.length < steps) :
    (readExprIn steps).run (e.text.toList ++ rest) = some (e, rest) := by
  induction e generalizing rest steps with
  | argument i =>
    obtain ⟨steps, rfl⟩ := Nat.exists_eq_add_one.mpr (Nat.zero_lt_of_lt hsteps)
    have hname : isPath "args" = true := by decide
    -- The name is read by itself, though it is written together with the bracket.
    have hopen : "args[".toList = "args".toList ++ "[".toList := rfl
    rw [readExprIn, Expr.text]
    simp only [String.toList_append, List.append_assoc, hopen]
    rw [run_bind_of (readPath_append hname (ends_append (by decide) _)), run_accepts,
      run_bind_of (readNumber_append i (ends_append (by decide) _)), run_expect, if_pos rfl]
    rfl
  | item =>
    obtain ⟨steps, rfl⟩ := Nat.exists_eq_add_one.mpr (Nat.zero_lt_of_lt hsteps)
    have hname : isPath "value" = true := by decide
    have hnone : Ends isPathChar rest := hrest.mono fun c hc => by simp [goesOn, hc]
    rw [readExprIn, Expr.text, run_bind_of (readPath_append hname hnone),
      run_accepts_other (isPrefixOf_of_ends hrest (by decide)),
      run_accepts_other (isPrefixOf_of_ends hrest (by decide)), if_pos rfl]
    rfl
  | coerced hook e target ih =>
    obtain ⟨steps, rfl⟩ := Nat.exists_eq_add_one.mpr (Nat.zero_lt_of_lt hsteps)
    have hhook : isPath hook = true := hpaths hook (by simp [Expr.paths])
    have htarget : isPath target = true := hpaths target (by simp [Expr.paths])
    have he : ∀ p ∈ e.paths, isPath p = true := fun p hp => hpaths p (by simp [Expr.paths, hp])
    have hinner : e.text.toList.length < steps := by
      simp only [Expr.text, String.toList_append, List.length_append, length_bracket] at hsteps
      omega
    rw [readExprIn, Expr.text]
    simp only [String.toList_append, List.append_assoc]
    rw [run_bind_of (readPath_append hhook (ends_append (by decide) _)), run_accepts_other rfl,
      run_accepts, run_bind_of (ih he (ends_append (by decide) _) hinner), run_accepts,
      run_bind_of (readPath_append htarget (ends_append (by decide) _)), run_expect]
    rfl
  | cast c e ih =>
    obtain ⟨steps, rfl⟩ := Nat.exists_eq_add_one.mpr (Nat.zero_lt_of_lt hsteps)
    have hname : isPath c.text = true := by
      cases c <;> decide
    have hinner : e.text.toList.length < steps := by
      simp only [Expr.text, String.toList_append, List.length_append, length_bracket] at hsteps
      omega
    rw [readExprIn, Expr.text]
    simp only [String.toList_append, List.append_assoc]
    rw [run_bind_of (readPath_append hname (ends_append (by decide) _)), run_accepts_other rfl,
      run_accepts, run_bind_of (ih hpaths (ends_append (by decide) _) hinner),
      run_accepts_other rfl, run_expect]
    cases c <;> rfl

theorem readExpr_append (hpaths : ∀ p ∈ e.paths, isPath p = true) (hrest : Ends goesOn rest) :
    readExpr.run (e.text.toList ++ rest) = some (e, rest) :=
  run_stepwise fun _ => readExprIn_append hpaths hrest

theorem readSlice_append (n : Nat) (rest : List Char) :
    readSlice.run ((sliceText n).toList ++ rest) = some (n, rest) := by
  rw [readSlice, sliceText]
  simp only [String.toList_append, List.append_assoc]
  rw [run_expect, run_bind_of (readNumber_append n (ends_append (by decide) _)), run_expect]
  rfl

theorem readInstance_append (he : ∀ p ∈ e.paths, isPath p = true) (hpath : isPath path = true)
    (rest : List Char) :
    readInstance.run (instanceTest.toList ++ ("(".toList ++ (e.text.toList ++ (", ".toList ++
      (path.toList ++ (")".toList ++ rest)))))) = some ((e, path), rest) := by
  rw [readInstance, run_expect, run_expect,
    run_bind_of (readExpr_append he (ends_append (by decide) _)), run_expect,
    run_bind_of (readPath_append hpath (ends_append (by decide) _)), run_expect]
  rfl

theorem readTest_append {t : Test} (hpaths : ∀ p ∈ t.paths, isPath p = true) (rest : List Char) :
    readTest.run (t.text.toList ++ rest) = some (t, rest) := by
  cases t with
  | isInstance e path =>
    have hpath : isPath path = true := hpaths path (by simp [Test.paths])
    have he : ∀ p ∈ e.paths, isPath p = true := fun p hp => hpaths p (by simp [Test.paths, hp])
    rw [readTest, Test.text]
    simp only [String.toList_append, List.append_assoc]
    rw [run_accepts_other rfl, run_bind_of (readInstance_append he hpath rest)]
    rfl
  | allInstances start e path =>
    have hpath : isPath path = true := hpaths path (by simp [Test.paths])
    have he : ∀ p ∈ e.paths, isPath p = true := fun p hp => hpaths p (by simp [Test.paths, hp])
    have hclose : ") for value in ".toList = ")".toList ++ " for value in ".toList := rfl
    rw [readTest, Test.text]
    simp only [String.toList_append, List.append_assoc, hclose]
    rw [run_accepts, run_bind_of (readInstance_append he hpath _), run_expect,
      run_bind_of (readSlice_append start _), run_expect]
    rfl

/-- No condition but the empty one is the word for it. -/
theorem readCondition_append {tests : List Test}
    (hpaths : ∀ t ∈ tests, ∀ p ∈ t.paths, isPath p = true) (rest : List Char) :
    readCondition.run ((conditionText tests).toList ++ (":".toList ++ rest)) =
      some (tests, ":".toList ++ rest) := by
  cases tests with
  | nil =>
    rw [readCondition, conditionText, List.isEmpty_nil, if_pos rfl, run_accepts]
    rfl
  | cons t more =>
    have hread : ∀ t' ∈ t :: more, ∀ rest, Ends isPathChar rest →
        readTest.run (t'.text.toList ++ rest) = some (t', rest) :=
      fun t' ht' rest _ => readTest_append (hpaths t' ht') rest
    have hall := readSeparated_intercalate (s := " and ") hread (ends_append (by decide))
      (by decide) (List.cons_ne_nil t more) (ends_append (s := ":") (by decide) rest) rfl
    have hother : "True".toList.isPrefixOf
        ((" and ".intercalate ((t :: more).map (·.text))).toList ++ (":".toList ++ rest)) =
          false := by
      -- A test begins with one of two fixed words, and neither is the one for no tests.
      cases t with
      | isInstance e path =>
        simp only [List.map_cons, Test.text, String.append_assoc, String.intercalate_cons_append,
          String.toList_append]
        rfl
      | allInstances start e path =>
        simp only [List.map_cons, Test.text, String.append_assoc, String.intercalate_cons_append,
          String.toList_append, List.append_assoc]
        rfl
    rw [readCondition, conditionText, List.isEmpty_cons, if_neg Bool.false_ne_true,
      run_accepts_other hother, hall]

theorem ends_path (h : isPath path = true) (rest : List Char) :
    Ends (!isPathChar ·) (path.toList ++ rest) := by
  obtain ⟨hne, hchars⟩ := isPath_iff.mp h
  cases hlist : path.toList with
  | nil => exact (hne (String.toList_eq_nil_iff.mp hlist)).elim
  | cons c more =>
    have hc : isPathChar c = true := hchars c (by simp [hlist])
    simp [ends_cons, hc]

/-- The first character of an expression tells it from what is passed in other ways. -/
theorem ends_text (hpaths : ∀ p ∈ e.paths, isPath p = true) (rest : List Char) :
    Ends (!isPathChar ·) (e.text.toList ++ rest) := by
  cases e with
  | argument i =>
    simp only [Expr.text, String.toList_append, List.append_assoc]
    exact ends_append (by decide) _
  | item => exact ends_append (by decide) rest
  | coerced hook e target =>
    simp only [Expr.text, String.toList_append, List.append_assoc]
    exact ends_path (hpaths hook (by simp [Expr.paths])) _
  | cast c e =>
    simp only [Expr.text, String.toList_append, List.append_assoc]
    cases c <;> exact ends_append (by decide) _

theorem readPassed_append {a : Passed} (hpaths : ∀ p ∈ a.paths, isPath p = true)
    (hrest : Ends goesOn rest) : readPassed.run (a.text.toList ++ rest) = some (a, rest) := by
  cases a with
  | one e =>
    have hfirst := ends_text hpaths rest
    rw [readPassed, Passed.text, run_accepts_other (isPrefixOf_of_ends hfirst (by decide)),
      run_accepts_other (isPrefixOf_of_ends hfirst (by decide)),
      run_bind_of (readExpr_append hpaths hrest)]
    rfl
  | rest start =>
    have hother : "*[".toList.isPrefixOf ("*".toList ++ ((sliceText start).toList ++ rest)) =
        false := by
      simp only [sliceText, String.toList_append, List.append_assoc]
      rfl
    rw [readPassed, Passed.text]
    simp only [String.toList_append, List.append_assoc]
    rw [run_accepts_other hother, run_accepts, run_bind_of (readSlice_append start rest)]
    rfl
  | each start e =>
    rw [readPassed, Passed.text]
    simp only [String.toList_append, List.append_assoc]
    rw [run_accepts, run_bind_of (readExpr_append hpaths (ends_append (by decide) _)), run_expect,
      run_bind_of (readSlice_append start _), run_expect]
    rfl

theorem ends_passed {a : Passed} (hpaths : ∀ p ∈ a.paths, isPath p = true) (rest : List Char) :
    Ends (· = ')') (a.text.toList ++ rest) := by
  cases a with
  | one e =>
    refine (ends_text hpaths rest).mono fun c hc => ?_
    obtain rfl : c = ')' := by simpa using hc
    decide
  | rest start =>
    simp only [Passed.text, String.toList_append, List.append_assoc]
    exact ends_append (by decide) _
  | each start e =>
    simp only [Passed.text, String.toList_append, List.append_assoc]
    exact ends_append (by decide) _

theorem readInvocation_append {i : Invocation} (hpaths : ∀ p ∈ i.paths, isPath p = true)
    (rest : List Char) : readInvocation.run (i.text.toList ++ rest) = some (i, rest) := by
  obtain ⟨path, passed⟩ := i
  have hpath : isPath path = true := hpaths path (by simp [Invocation.paths])
  have hpassed : ∀ a ∈ passed, ∀ p ∈ a.paths, isPath p = true := fun a ha p hp =>
    hpaths p (List.mem_cons_of_mem path (List.mem_flatMap.mpr ⟨a, ha, hp⟩))
  rw [readInvocation, Invocation.text]
  simp only [String.toList_append, List.append_assoc]
  rw [run_bind_of (readPath_append hpath (ends_append (by decide) _)), run_expect]
  cases passed with
  | nil =>
    rw [List.map_nil, commas, String.intercalate_nil, String.toList_empty, List.nil_append,
      run_accepts]
    rfl
  | cons a more =>
    have hread : ∀ b ∈ a :: more, ∀ rest, Ends goesOn rest →
        readPassed.run (b.text.toList ++ rest) = some (b, rest) :=
      fun b hb _ hrest => readPassed_append (hpassed b hb) hrest
    have hall := readSeparated_intercalate (s := ", ") hread (ends_append (by decide))
      (by decide) (List.cons_ne_nil a more) (ends_append (s := ")") (by decide) rest) rfl
    have hother : ")".toList.isPrefixOf
        ((", ".intercalate ((a :: more).map (·.text))).toList ++ (")".toList ++ rest)) = false := by
      obtain ⟨behind, hbehind⟩ := exists_intercalate_cons ", " a.text (more.map (·.text))
      rw [List.map_cons, hbehind, String.toList_append, List.append_assoc]
      exact isPrefixOf_of_ends (ends_passed (hpassed a List.mem_cons_self) _) (by decide)
    rw [commas, run_accepts_other hother, run_bind_of hall, run_expect]
    rfl

theorem readRefusal_append (owner memberName more : String) (rest : List Char) :
    (readRefusal more).run ((refusalText owner memberName more).toList ++ rest) =
      some ((owner, memberName), rest) := by
  rw [readRefusal, refusalText, commas, String.intercalate_cons_cons, String.intercalate_cons_cons,
    String.intercalate_singleton]
  simp only [String.toList_append, List.append_assoc]
  rw [run_expect, run_expect, run_expect, run_bind_of (readQuoted_quoted owner _), run_expect,
    run_bind_of (readQuoted_quoted memberName _), run_expect, run_expect, run_expect, run_expect]
  rfl

theorem readEnding_append {ending : Ending} (hpaths : ∀ p ∈ ending.paths, isPath p = true)
    (rest : List Char) : readEnding.run (ending.text.toList ++ rest) = some (ending, rest) := by
  cases ending with
  | call i =>
    rw [readEnding, Ending.text]
    simp only [String.toList_append, List.append_assoc]
    rw [run_accepts, run_bind_of (readInvocation_append hpaths rest)]
    rfl
  | refusal owner memberName =>
    have hother : "return ".toList.isPrefixOf
        ((refusalText owner memberName "").toList ++ rest) = false := by
      simp only [refusalText, String.toList_append, List.append_assoc]
      rfl
    rw [readEnding, Ending.text, run_accepts_other hother,
      run_bind_of (readRefusal_append owner memberName "" rest)]
    rfl

theorem toList_joinLines_nil : (joinLines []).toList = [] := rfl

theorem toList_joinLines_cons (l : String) (ls : List String) :
    (joinLines (l :: ls)).toList = l.toList ++ ("\n".toList ++ (joinLines ls).toList) := by
  simp only [joinLines, List.map_cons, String.toList_join, List.flatMap_cons, String.toList_append,
    List.append_assoc]

theorem toList_joinLines_append (ls ls' : List String) :
    (joinLines (ls ++ ls')).toList = (joinLines ls).toList ++ (joinLines ls').toList := by
  simp only [joinLines, List.map_append, String.toList_join, List.flatMap_append]

/-- What a block refers to: the tests and the invocation of each branch, and its end. -/
theorem forall_mem_paths_block {b : Block} :
    (∀ p ∈ b.paths, isPath p = true) ↔
      (∀ x ∈ b.branches, (∀ t ∈ x.1, ∀ p ∈ t.paths, isPath p = true) ∧
        ∀ p ∈ x.2.paths, isPath p = true) ∧ ∀ p ∈ b.ending.paths, isPath p = true := by
  simp only [Block.paths, List.mem_append, List.mem_flatMap]
  constructor
  · intro h
    refine ⟨fun x hx => ⟨fun t ht p hp => ?_, fun p hp => ?_⟩, fun p hp => h p (Or.inr hp)⟩
    · exact h p (Or.inl ⟨x, hx, Or.inl ⟨t, ht, hp⟩⟩)
    · exact h p (Or.inl ⟨x, hx, Or.inr hp⟩)
  · rintro ⟨hbranches, hending⟩ p (⟨x, hx, ⟨t, ht, hp⟩ | hp⟩ | hp)
    · exact (hbranches x hx).1 t ht p hp
    · exact (hbranches x hx).2 p hp
    · exact hending p hp

theorem readBranches_append {branches : List (List Test × Invocation)}
    (hpaths : ∀ x ∈ branches, (∀ t ∈ x.1, ∀ p ∈ t.paths, isPath p = true) ∧
      ∀ p ∈ x.2.paths, isPath p = true) (hrest : "if ".toList.isPrefixOf rest = false) :
    readBranches.run ((joinLines ((branches.flatMap branchLines).map (indent ++ ·))).toList ++
      (indent.toList ++ (indent.toList ++ rest))) = some (branches, rest) := by
  apply run_stepwise
  intro steps hsteps
  induction branches generalizing steps with
  | nil =>
    obtain ⟨steps, rfl⟩ := Nat.exists_eq_add_one.mpr (Nat.zero_lt_of_lt hsteps)
    rw [readBranchesIn, List.flatMap_nil, List.map_nil, toList_joinLines_nil, List.nil_append,
      run_expect, run_expect, run_accepts_other hrest]
    rfl
  | cons x more ih =>
    obtain ⟨steps, rfl⟩ := Nat.exists_eq_add_one.mpr (Nat.zero_lt_of_lt hsteps)
    obtain ⟨tests, i⟩ := x
    obtain ⟨htests, hi⟩ := hpaths (tests, i) List.mem_cons_self
    rw [List.flatMap_cons, List.map_append, toList_joinLines_append, branchLines] at hsteps ⊢
    simp only [List.map_cons, List.map_nil, toList_joinLines_cons, toList_joinLines_nil,
      String.toList_append, List.append_assoc, List.nil_append, List.length_append,
      length_newline] at hsteps ⊢
    have hmore := ih (fun x hx => hpaths x (List.mem_cons_of_mem _ hx)) steps (by omega)
    rw [readBranchesIn, run_expect, run_expect, run_accepts,
      run_bind_of (readCondition_append htests _), run_expect, run_expect, run_expect, run_expect,
      run_expect, run_expect, run_bind_of (readInvocation_append hi _), run_expect,
      run_bind_of hmore]
    rfl

theorem readOrMore_append (orMore : Bool) (rest : List Char) :
    readOrMore.run ((if orMore then ">=" else "==").toList ++ rest) = some (orMore, rest) := by
  cases orMore with
  | false =>
    rw [readOrMore, if_neg Bool.false_ne_true, run_accepts_other rfl, run_expect]
    rfl
  | true =>
    rw [readOrMore, if_pos rfl, run_accepts]
    rfl

theorem readBlock_append {b : Block} (hpaths : ∀ p ∈ b.paths, isPath p = true) (rest : List Char) :
    readBlock.run ((if b.orMore then ">=" else "==").toList ++ (" ".toList ++
      ((decimalText b.arity).toList ++ (":".toList ++ ("\n".toList ++
        ((joinLines ((b.branches.flatMap branchLines).map (indent ++ ·))).toList ++
          (indent.toList ++ (indent.toList ++ (b.ending.text.toList ++
            ("\n".toList ++ rest)))))))))) = some (b, rest) := by
  obtain ⟨hbranches, hending⟩ := forall_mem_paths_block.mp hpaths
  have hother : "if ".toList.isPrefixOf (b.ending.text.toList ++ ("\n".toList ++ rest)) =
      false := by
    cases b.ending with
    | call i =>
      rw [Ending.text, String.toList_append, List.append_assoc]
      rfl
    | refusal owner memberName =>
      simp only [Ending.text, refusalText, String.toList_append, List.append_assoc]
      rfl
  rw [readBlock, run_bind_of (readOrMore_append b.orMore _), run_expect,
    run_bind_of (readNumber_append b.arity (ends_append (by decide) _)), run_expect, run_expect,
    run_bind_of (readBranches_append hbranches hother), run_bind_of (readEnding_append hending _),
    run_expect]
  rfl

theorem readBlocks_append {blocks : List Block}
    (hpaths : ∀ b ∈ blocks, ∀ p ∈ b.paths, isPath p = true)
    (hrest : "if len(args) ".toList.isPrefixOf rest = false) :
    readBlocks.run ((joinLines ((blocks.flatMap (·.lines)).map (indent ++ ·))).toList ++
      (indent.toList ++ rest)) = some (blocks, rest) := by
  apply run_stepwise
  intro steps hsteps
  induction blocks generalizing steps with
  | nil =>
    obtain ⟨steps, rfl⟩ := Nat.exists_eq_add_one.mpr (Nat.zero_lt_of_lt hsteps)
    rw [readBlocksIn, List.flatMap_nil, List.map_nil, toList_joinLines_nil, List.nil_append,
      run_expect, run_accepts_other hrest]
    rfl
  | cons b more ih =>
    obtain ⟨steps, rfl⟩ := Nat.exists_eq_add_one.mpr (Nat.zero_lt_of_lt hsteps)
    rw [List.flatMap_cons, List.map_append, toList_joinLines_append, Block.lines] at hsteps ⊢
    simp only [List.map_cons, List.map_nil, List.map_append, toList_joinLines_cons,
      toList_joinLines_append, toList_joinLines_nil, String.toList_append, List.append_assoc,
      List.nil_append, List.cons_append, List.length_append, length_newline] at hsteps ⊢
    have hmore := ih (fun b hb => hpaths b (List.mem_cons_of_mem _ hb)) steps (by omega)
    rw [readBlocksIn, run_expect, run_accepts,
      run_bind_of (readBlock_append (hpaths b List.mem_cons_self) _), run_bind_of hmore]
    rfl

theorem readDefinition_append {name owner memberName : String} {blocks : List Block}
    (hname : name ≠ "") (hchars : ∀ c ∈ name.toList, isNameChar c = true)
    (hblocks : ∀ b ∈ blocks, ∀ p ∈ b.paths, isPath p = true) :
    readDefinition.run (Definition.text ⟨name, none, blocks, owner, memberName⟩).toList =
      some (⟨name, none, blocks, owner, memberName⟩, []) := by
  have hother : "if len(args) ".toList.isPrefixOf
      ((refusalText owner memberName wrongNumberText).toList ++ ("\n".toList ++ [])) = false := by
    simp only [refusalText, String.toList_append, List.append_assoc]
    rfl
  rw [readDefinition, Definition.text, Definition.lines]
  simp only [Option.map_none, Option.getD_none, toList_joinLines_cons, toList_joinLines_append,
    toList_joinLines_nil, String.toList_append, List.append_assoc, List.cons_append,
    List.nil_append]
  rw [run_expect, run_bind_of (readRun_append hname hchars (ends_append (by decide) _)), run_expect,
    run_expect, run_bind_of (readBlocks_append hblocks hother),
    run_bind_of (readRefusal_append owner memberName wrongNumberText _), run_expect]
  rfl

/-- The text of a function without documentation is read back as the function. -/
theorem read_text {d : Definition} (hname : d.name ≠ "")
    (hchars : ∀ c ∈ d.name.toList, isNameChar c = true) (hdocumentation : d.documentation = none)
    (hpaths : ∀ p ∈ d.paths, isPath p = true) : read d.text = some d := by
  obtain ⟨name, documentation, blocks, owner, memberName⟩ := d
  obtain rfl : documentation = none := hdocumentation
  have hblocks : ∀ b ∈ blocks, ∀ p ∈ b.paths, isPath p = true := by
    intro b hb p hp
    apply hpaths
    simp only [Definition.paths, List.mem_cons, List.mem_flatMap]
    exact Or.inr (Or.inr ⟨b, hb, hp⟩)
  rw [read, readDefinition_append hname hchars hblocks]

end Overloads.Source
