import Overloads.Class.Shape
import Overloads.Member.Basic

/-! Reading the members of a class off its description. -/
namespace Overloads

/-- Why an attribute that looks like a method, or one signature of it, gives no member. -/
inductive Skip where
  | noSignature
  | requiredKeyword
  deriving DecidableEq, Repr

def Skip.text : Skip → String
  | .noSignature => "no signature"
  | .requiredKeyword => "required keyword-only parameter"

/-- What reflection remarks on the way. -/
inductive Remark where
  /-- Annotations of something, given by its text, stay text. -/
  | unresolved (target : String) (reason : Unresolved)
  | skipped (member : String) (reason : Skip)
  deriving DecidableEq, Repr

/-- A signature that was looked at: what is seen of it, if anything, and why annotations stay text. -/
structure Source where
  shown : Option ShownSignature
  remarks : List Remark

namespace Source

/-- Looks at a signature of something that is given by its text. -/
def of (target : String) (postponed : Bool) (s : Signature) : Source where
  shown := s.shown? postponed
  remarks := (s.unresolved? postponed).toList.map (.unresolved target)

/-- A signature without annotations. -/
def plain (s : ShownSignature) : Source := ⟨some s, []⟩

/-- No signature. -/
def missing : Source := ⟨none, []⟩

/-- A signature in which text stays text. -/
def given (s : Signature) : Source := ⟨s.shownWith fun a => some (a.unresolved false), []⟩

/-- What is left once the first argument is fixed. -/
def bound (s : Source) : Source := { s with shown := s.shown.bind (·.bound?) }

end Source

/-- An attribute as reflection reads it: its signatures, and how a member of it is called. -/
structure Reading where
  sources : List Source
  dropsReceiver : Bool
  receiver : List TypeRef
  target : Target
  isStatic : Bool

/-- What is reflected of something. -/
structure Reflected where
  members : List Member
  remarks : List Remark

namespace Function

/-- How a function is shown. Its place is left out. -/
def shown (f : Function) : String := "<function " ++ f.qualifiedName ++ " at 0x0>"

/-- How a function is shown that gets a class as its first argument. -/
def shownBound (f : Function) (c : ClassName) : String :=
  "<bound method " ++ f.qualifiedName ++ " of <class '" ++ c.text ++ "'>>"

/-- Looks at the signature that a function shows, for something that is given by its text. -/
def source (target : String) (f : Function) : Source :=
  match f.guise with
  | none => .of target f.postponed f.implementation
  | some (.wrapped s postponed) => .of target postponed s
  | some (.given s) => .given s
  | some .hidden => .missing

/-- The signatures of the overloads, or the one that the function shows where there are none. -/
def sources (f : Function) : List Source :=
  if f.overloads.isEmpty then [f.source f.shown]
  else f.overloads.map (Source.of f.shown f.postponed)

end Function

namespace Attribute

/-- The range of the numbers of arguments as a signature; `skipped` stands for a receiver. -/
def countsSignature (counts : List Nat) : ShownSignature :=
  .untyped (counts.head?.getD 0) (counts.getLast?.getD 0)

/-- How the attribute `name` of `holder` reads, looked up on `c`. None if it is no method. -/
def reading? (c holder : ClassName) (name : String) : Attribute → Option Reading
  | .function .static f => some ⟨f.sources, false, [], .function f none, true⟩
  | .function .owner f =>
    if f.overloads.isEmpty then
      some ⟨[(f.source (f.shownBound c)).bound], false, [], .function f (some c), true⟩
    else some ⟨f.sources, true, [], .function f (some c), true⟩
  | .function .receiver f =>
    some ⟨f.sources, true, [.reference holder], .function f none, false⟩
  | .native true counts =>
    some ⟨[.plain (countsSignature counts)], false, [], .native holder name (some c), true⟩
  | .native false counts =>
    some ⟨[.plain (countsSignature counts)], false, [.reference holder],
      .native holder name none, false⟩
  | .unsigned _ | .cached _ _ => some ⟨[], true, [], .native holder name none, false⟩
  | .special | .property | .value _ | .nested _ => none

end Attribute

namespace World

/-- The members that one attribute gives. -/
def reflectAttribute (w : World) (c holder : ClassName) (name : String) (a : Attribute) :
    Reflected :=
  match a.reading? c holder name with
  | none => ⟨[], []⟩
  | some r =>
    let shapes := (r.sources.filterMap (·.shown)).map fun s =>
      (if r.dropsReceiver then s.withoutReceiver else s).shapes w.checkable
    let member (s : Shape) : Member :=
      { name := name
        kind := .method
        declared := r.receiver ++ s.params
        returns := s.returns
        owner := holder
        target := r.target
        path := c.text ++ "." ++ name
        varargs := s.varargs
        isStatic := r.isStatic }
    { members := shapes.flatten.map member
      remarks := r.sources.flatMap (·.remarks) ++
        if shapes.isEmpty then [.skipped name .noSignature]
        else (shapes.filter (·.isEmpty)).map fun _ => .skipped name .requiredKeyword }

/-- Names that begin with an underscore are not public. -/
def isPublic (name : String) : Bool := !name.startsWith "_"

/--
The attributes along the linearization that no nearer class hides, each with the class that holds it.
The root class is left out.
-/
def visibleFrom (w : World) : List String → List ClassName → List (ClassName × String × Attribute)
  | _, [] => []
  | seen, k :: rest =>
    if k = .object then w.visibleFrom seen rest
    else
      let own := ((w.info? k).map (·.attributes)).getD []
      let fresh := own.filter fun (n, _) => !seen.contains n
      fresh.map (fun (n, a) => (k, n, a)) ++ w.visibleFrom (seen ++ fresh.map (·.1)) rest

def visible (w : World) (c : ClassName) : List (ClassName × String × Attribute) :=
  w.visibleFrom [] (w.linearization c)

/-- What is reflected of the public attributes, nearest class first. -/
def reflectedMethods (w : World) (c : ClassName) : List Reflected :=
  ((w.visible c).filter fun (_, n, _) => isPublic n).map fun (k, n, a) =>
    w.reflectAttribute c k n a

def methods (w : World) (c : ClassName) : List Member :=
  (w.reflectedMethods c).flatMap (·.members)

/-- The nearest initializer below the root class, if it is a described function. -/
def initializer? (w : World) (c : ClassName) : Option Function :=
  match ((w.linearization c).takeWhile (· ≠ .object)).findSome? (w.own? · initializerName) with
  | some (.function _ f) => some f
  | _ => none

/--
The allocator or the initializer that the signature of a class is taken from: whichever of them a class
along the linearization has first, where only described functions count.
-/
def maker? (w : World) (c : ClassName) : Option Function :=
  let allocator := w.function? c allocatorName
  let initializer := w.function? c initializerName
  (w.linearization c).findSome? fun k =>
    if allocator.isSome && (w.own? k allocatorName).isSome then allocator
    else if initializer.isSome && (w.own? k initializerName).isSome then initializer
    else none

/-- The signature of the maker of a class without its first argument, for something given by its text. -/
def makerSource (w : World) (target : String) (c : ClassName) : Source :=
  match w.maker? c with
  | some f => (f.source target).bound
  | none =>
    ⟨(w.linearization c).findSome? fun k =>
      ((w.info? k).bind (·.constructorCounts)).map Attribute.countsSignature, []⟩

/--
The signature of a class: its maker's, unless the class says that it wraps something else. What a class names
as its signature is none, but for None. `depth` bounds how many classes wrap one another.
-/
def classSourceWithin (w : World) (target : String) : Nat → ClassName → Source
  | 0, _ => .missing
  | depth + 1, c =>
    match w.lookup c "__signature__", w.lookup c "__wrapped__" with
    | some (_, .value .nothing), _ | none, none => w.makerSource target c
    | some _, _ => .missing
    | none, some (_, .value (.type k)) | none, some (_, .nested k) =>
      w.classSourceWithin target depth k
    | none, some (_, .function .owner f) => (f.source target).bound
    | none, some (_, .function _ f) => f.source target
    | none, some _ => .missing

/-- The signature of the class itself. -/
def classSource (w : World) (c : ClassName) : Source :=
  w.classSourceWithin ("<class '" ++ c.text ++ "'>") (w.classes.length + 1) c

/--
The signatures that a constructor is reflected from. Overloads of the initializer come first; their
receivers are left out.
-/
def constructorSources (w : World) (c : ClassName) : List Source :=
  match w.initializer? c with
  | some f =>
    if f.overloads.isEmpty then [w.classSource c]
    else f.sources.map fun s => { s with shown := s.shown.map (·.withoutReceiver) }
  | none => [w.classSource c]

/-- The members that a constructor gives. Without any signature it takes no arguments. -/
def reflectConstructor (w : World) (c : ClassName) : Reflected :=
  let sources := w.constructorSources c
  let shown := match sources.filterMap (·.shown) with
    | [] => [ShownSignature.nullary]
    | found => found
  { members := shown.flatMap fun s => (s.shapes w.checkable).map fun shape =>
      { name := c.simpleName
        kind := .constructor
        declared := shape.params
        returns := .reference c
        owner := c
        target := .construct c
        path := c.text
        varargs := shape.varargs
        isStatic := true }
    remarks := sources.flatMap (·.remarks) }

/-- What is reflected of a class, its constructor first. -/
def reflected (w : World) (c : ClassName) : List Reflected :=
  w.reflectConstructor c :: w.reflectedMethods c

def constructors (w : World) (c : ClassName) : List Member := (w.reflectConstructor c).members

/-- Every member of a class, constructors first. -/
def members (w : World) (c : ClassName) : List Member := w.constructors c ++ w.methods c

/-- Everything that reflection remarks about a class. -/
def remarks (w : World) (c : ClassName) : List Remark := (w.reflected c).flatMap (·.remarks)

end World

end Overloads
