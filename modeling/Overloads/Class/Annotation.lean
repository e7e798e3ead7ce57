import Overloads.Value

/-! Annotations: how they are written, what they evaluate to, and the type each stands for. -/
namespace Overloads

/-- An item attached to an annotated type. -/
inductive Metadata where
  | primitive (p : Primitive)
  | note (text : String)
  deriving DecidableEq, Repr

/-- Why the text of an annotation means nothing. -/
inductive Unresolved where
  | unknownName (name : String)
  | unknownAttribute (module name : String)
  /-- The text ends inside a bracket. -/
  | unclosed (bracket : Char)
  deriving DecidableEq, Repr

def Unresolved.message : Unresolved → String
  | .unknownName name => "name '" ++ name ++ "' is not defined"
  | .unknownAttribute module name => "module '" ++ module ++ "' has no attribute '" ++ name ++ "'"
  | .unclosed bracket =>
    "'" ++ String.singleton bracket ++ "' was never closed (<string>, line 1)"

/-- Why an annotation does not evaluate. -/
inductive Fault where
  /-- An unknown name or attribute, or text that is no expression. -/
  | unresolved (reason : Unresolved)
  /-- An expression that fails with its operands. -/
  | failing
  deriving DecidableEq, Repr

/-- An annotation as it is written. -/
inductive AnnotationText where
  | nothing
  | any
  | named (c : ClassName)
  | annotated (base : AnnotationText) (metadata : List Metadata)
  | union (members : List AnnotationText)
  /-- A union written with bars. -/
  | bars (members : List AnnotationText)
  | generic (head : String) (args : List AnnotationText)
  | other (shown : String)
  /-- A text that is meant as a text. -/
  | text
  | quoted (text : AnnotationText)
  | faulty (fault : Fault)
  deriving BEq, Repr, Inhabited

/-- The alias of a primitive: its plain class with the primitive attached. -/
def AnnotationText.primitive (p : Primitive) : AnnotationText :=
  let base : AnnotationText := match p with
    | .byte | .short | .int | .long => .named (.builtin "int")
    | .float | .double => .named (.builtin "float")
    | .char => .named (.builtin "str")
    | .boolean => .named (.builtin "bool")
    | .void => .nothing
  .annotated base [.primitive p]

/-- An annotation as an object. Metadata is flat and unions have two or more distinct members. -/
inductive Annotation where
  | missing
  | nothing
  | any
  | named (c : ClassName)
  | annotated (base : Annotation) (metadata : List Metadata)
  | union (members : List Annotation)
  | generic (head : String) (args : List Annotation)
  /-- Literals and type variables. -/
  | other (shown : String)
  | text
  deriving BEq, Repr, Inhabited

namespace Annotation

/-- Attaches metadata; what an inner annotation carries comes first. -/
def attach (base : Annotation) (metadata : List Metadata) : Annotation :=
  match base with
  | .annotated inner first => .annotated inner (first ++ metadata)
  | _ => .annotated base metadata

/-- The members of a union, or the annotation alone. -/
def members : Annotation → List Annotation
  | .union ms => ms
  | .named c => if c = .builtin "NoneType" then [.nothing] else [.named c]
  | a => [a]

def distinct (as : List Annotation) : List Annotation :=
  as.foldl (fun seen a => if seen.contains a then seen else seen ++ [a]) []

/-- The union of some annotations: nested unions open up, and a single member stands for itself. -/
def unite (as : List Annotation) : Annotation :=
  match distinct (as.flatMap members) with
  | [a] => a
  | ms => .union ms

end Annotation

/-- What an annotation can be joined with by a bar. -/
inductive Joint where
  /-- None, which joins with classes. -/
  | void
  /-- Classes and what bars build of them; they join with each other and with None. -/
  | plain
  /-- Text, which joins only with what joins with anything. -/
  | text
  | free
  deriving DecidableEq, Repr

/-- The joint of two annotations joined by a bar, if they can be. -/
def Joint.join? : Joint → Joint → Option Joint
  | .free, _ | _, .free => some .free
  | .text, _ | _, .text => none
  | .void, .void => none
  | _, _ => some .plain

/-- How many arguments a generic type takes; none where any number will do. -/
def genericCount? (head : String) : Option Nat :=
  match head with
  | "typing.List" | "typing.Set" | "typing.Type" | "typing.Iterable" | "typing.Sequence" => some 1
  | "typing.Dict" | "typing.Mapping" => some 2
  | _ => none

/-- Generic types join with anything, but for those that are classes. -/
def genericJoint (head : String) : Joint := if head.startsWith "typing." then .free else .plain

/-- The joint of a union, which may have come down to one member. -/
def Annotation.unionJoint : Annotation → Joint
  | .nothing | .named _ | .any | .missing => .plain
  | .generic head _ => genericJoint head
  | .annotated _ _ | .union _ | .other _ | .text => .free

/-- An annotation as an object, with what it can be joined with. -/
structure Operand where
  object : Annotation
  joint : Joint

namespace Operand

/-- The union of two annotations joined by a bar, if they can be. -/
def join? (a b : Operand) : Option Operand :=
  let united := Annotation.unite [a.object, b.object]
  (a.joint.join? b.joint).map (⟨united, ·⟩)

end Operand

namespace AnnotationText

/--
What an expression evaluates to, and what it can be joined with. Text quoted inside it stays text. Where
the whole expression is `written` as text, so are its faulty parts, and the first of them is the fault.
-/
def evaluate (written : Bool) : AnnotationText → Except Fault Operand
  | .nothing => .ok ⟨.nothing, .void⟩
  | .any => .ok ⟨.any, .plain⟩
  | .named c => .ok ⟨.named c, .plain⟩
  | .annotated base metadata => do
    let a ← base.evaluate written
    if metadata.isEmpty then throw .failing
    return ⟨a.object.attach metadata, .free⟩
  | .union ms => do
    let as ← evaluateAll ms
    if as.isEmpty then throw .failing
    let united := Annotation.unite <| as.map (·.object)
    return ⟨united, united.unionJoint⟩
  | .bars ms => do
    match ← evaluateAll ms with
    | [] => throw .failing
    | first :: rest =>
      match rest.foldlM Operand.join? first with
      | some a => return a
      | none => throw .failing
  | .generic head args => do
    let as ← evaluateAll args
    match genericCount? head with
    | some n => if as.length ≠ n && !as.isEmpty then throw .failing
    | none => pure ()
    return ⟨.generic head (as.map (·.object)), genericJoint head⟩
  | .other shown => .ok ⟨.other shown, .free⟩
  | .text | .quoted _ => .ok ⟨.text, .text⟩
  | .faulty fault => if written then .error fault else .ok ⟨.text, .text⟩
where
  evaluateAll : List AnnotationText → Except Fault (List Operand)
    | [] => .ok []
    | a :: as => do return (← a.evaluate written) :: (← evaluateAll as)

/-- The object that an annotation evaluates to. -/
def object (written : Bool) (a : AnnotationText) : Except Fault Annotation :=
  (a.evaluate written).map (·.object)

/-- What the annotation of a parameter evaluates to once text is evaluated too. -/
def resolve (postponed : Bool) : AnnotationText → Except Fault Annotation
  | .faulty fault => .error fault
  | .quoted a => if postponed then .ok .text else a.object true
  | a => a.object postponed

/-- What it is when text stays text. -/
def unresolved (postponed : Bool) : AnnotationText → Annotation
  | .faulty _ | .quoted _ => .text
  | a => if postponed then .text else (a.object false).toOption.getD .text

/-- Whether the annotation can be part of a definition. What is kept as text always can. -/
def isDefinable (postponed : Bool) : AnnotationText → Bool
  | .faulty _ | .quoted _ => true
  | a => postponed || (a.object false).toOption.isSome

end AnnotationText

/-- The class behind the head of a generic type. -/
def genericOrigin (head : String) : ClassName :=
  let collection (name : String) : ClassName := ⟨["collections", "abc"], [name]⟩
  match head with
  | "typing.List" => .builtin "list"
  | "typing.Dict" => .builtin "dict"
  | "typing.Tuple" => .builtin "tuple"
  | "typing.Set" => .builtin "set"
  | "typing.Type" => .builtin "type"
  | "typing.Iterable" => collection "Iterable"
  | "typing.Sequence" => collection "Sequence"
  | "typing.Mapping" => collection "Mapping"
  | "typing.Callable" => collection "Callable"
  | name => .builtin name

/-- The first primitive among the metadata. -/
def Metadata.firstPrimitive? : List Metadata → Option Primitive
  | [] => none
  | .primitive p :: _ => some p
  | .note _ :: rest => firstPrimitive? rest

namespace Annotation

/-- The type that a parameter with this annotation has; `checkable` adapts a class to testing. -/
def type (checkable : ClassName → ClassName) : Annotation → TypeRef
  | .missing | .any | .union _ | .other _ | .text => .object
  | .nothing => .primitive .void
  | .named c =>
    if c = .builtin "NoneType" then .primitive .void else .reference (checkable c)
  | .annotated base metadata =>
    match Metadata.firstPrimitive? metadata with
    | some p => .primitive p
    | none => base.type checkable
  | .generic head _ => .reference (checkable (genericOrigin head))

end Annotation

end Overloads
