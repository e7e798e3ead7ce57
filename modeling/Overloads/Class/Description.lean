import Overloads.Class.Annotation
import Overloads.Value.Recipe

/-! Descriptions of classes: signatures, functions and attributes. -/
namespace Overloads

inductive ParamKind where
  | positionalOnly | positional | variadic | keywordOnly | keywords
  deriving DecidableEq, Repr

namespace ParamKind

def isPositional : ParamKind → Bool
  | .positionalOnly | .positional => true
  | _ => false

end ParamKind

structure Param where
  name : String
  kind : ParamKind
  hint : Option AnnotationText
  default : Option Value
  deriving BEq, Repr

/-- A signature as it is written, receiver included. -/
structure Signature where
  params : List Param
  returns : Option AnnotationText
  deriving BEq, Repr

namespace Signature

/-- Puts a plain receiver in front. -/
def withReceiver (name : String) (s : Signature) : Signature :=
  { s with params := ⟨name, .positional, none, none⟩ :: s.params }

/-- Takes any number of positional arguments. -/
def anyArguments : Signature := ⟨[⟨"args", .variadic, none, none⟩], none⟩

/-- Takes any positional arguments and any keywords. -/
def anyArgumentsAndKeywords : Signature :=
  ⟨[⟨"args", .variadic, none, none⟩, ⟨"kwargs", .keywords, none, none⟩], none⟩

/-- The parameters in the order in which their annotations are evaluated. -/
def evaluationOrder (s : Signature) : List Param :=
  let of (k : ParamKind) := s.params.filter (·.kind = k)
  of .positional ++ of .positionalOnly ++ of .variadic ++ of .keywordOnly ++ of .keywords

end Signature

/-- The kinds of error that a described body can raise. -/
inductive RaisedKind where
  | value | type | key | runtime | attribute | zeroDivision
  deriving DecidableEq, Repr

namespace RaisedKind

def name : RaisedKind → String
  | .value => "ValueError"
  | .type => "TypeError"
  | .key => "KeyError"
  | .runtime => "RuntimeError"
  | .attribute => "AttributeError"
  | .zeroDivision => "ZeroDivisionError"

def all : List RaisedKind := [.value, .type, .key, .runtime, .attribute, .zeroDivision]

def ofName? (s : String) : Option RaisedKind := all.find? (·.name = s)

end RaisedKind

/-- What a described function does when it is called. -/
inductive Body where
  /-- Records the call. -/
  | trace
  /-- Returns its first argument. -/
  | receiver
  /-- Extends the receiver's items with the other arguments and returns their number. -/
  | append
  | items
  | give (r : Recipe)
  | raise (kind : RaisedKind) (message : String)
  /-- Refuses to make an instance: the initializer that protocol classes get. -/
  | refuse
  deriving BEq, Repr

/-- What a function is to its class. -/
inductive Role where
  | plain
  /-- Keeps its arguments in the instance that it gets first. -/
  | initializer
  /-- Makes an instance of the class that it gets first, which keeps the other arguments. -/
  | allocator
  deriving DecidableEq, Repr

/-- What a function shows in place of its own signature. -/
inductive Guise where
  /-- The signature of a function that it wraps. -/
  | wrapped (s : Signature) (postponed : Bool)
  /-- A signature that it was given, in which text stays text. -/
  | given (s : Signature)
  /-- No signature, as where it wraps something that has none. -/
  | hidden
  deriving BEq, Repr

/--
A function, by its module and its path there. `postponed` says that its annotations are kept as text
until somebody asks for them. Several declared overloads share one implementation, which is what a call
runs; most functions show it, and those with a guise show something else.
-/
structure Function where
  module : List String
  path : List String
  role : Role
  overloads : List Signature
  implementation : Signature
  body : Body
  postponed : Bool
  guise : Option Guise := none
  deriving BEq, Repr

namespace Function

/-- The path inside the module. -/
def qualifiedName (f : Function) : String := dotted f.path

def label (f : Function) : String := dotted (f.module ++ f.path)

end Function

/-- What a function gets in front of its arguments when it is looked up on a class. -/
inductive Binding where
  | receiver | static | owner
  deriving DecidableEq, Repr

inductive Attribute where
  | function (binding : Binding) (f : Function)
  /-- A native function, given by the numbers of arguments that it takes beside its receiver. -/
  | native (static : Bool) (counts : List Nat)
  /-- A native function whose signature is unknown. -/
  | unsigned (static : Bool)
  /-- A native special method. -/
  | special
  /--
  A property that is computed once, which reflection cannot tell from a function. It belongs to the name it
  was made under, and `place` tells it from others of that name.
  -/
  | cached (made : String) (place : Nat)
  | property
  | value (v : Value)
  | nested (c : ClassName)
  deriving BEq, Repr

/--
A class. `constructorCounts` belongs to native classes whose constructor has a signature. A typed dictionary
lists the keys of plain dictionaries, and makes such.
-/
structure ClassInfo where
  name : ClassName
  linearization : List ClassName
  isProtocol : Bool
  runtimeCheckable : Bool
  attributes : List (String × Attribute)
  annotations : List String
  constructorCounts : Option (List Nat)
  isTypedDict : Bool := false
  deriving BEq, Repr

/-- The names under which a class keeps its initializer and its allocator. -/
def initializerName : String := "__init__"

def allocatorName : String := "__new__"

/-- The initializer that a protocol class gets, which makes no instances. -/
def Function.refusal (module path : List String) : Function where
  module := module
  path := path ++ [initializerName]
  role := .plain
  overloads := []
  implementation := Signature.anyArgumentsAndKeywords.withReceiver "self"
  body := .refuse
  postponed := false

namespace ClassInfo

def attribute? (c : ClassInfo) (name : String) : Option Attribute := c.attributes.lookup name

/-- That a class is no protocol, or one that asks to be tested for. -/
def isCheckable (c : ClassInfo) : Bool := !c.isProtocol || c.runtimeCheckable

end ClassInfo

end Overloads
