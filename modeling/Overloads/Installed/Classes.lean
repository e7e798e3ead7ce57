import Overloads.Class.Reference
import Overloads.Class.World

/-! The classes that are there before any is described, beside the native ones. -/
namespace Overloads.Installed

/-- The package whose types, errors and hooks rendered source imports. -/
def packageModules : List (List String) := [
  "tortilla", "tortilla.cli", "tortilla.config", "tortilla.deps", "tortilla.exceptions",
  "tortilla.invariants", "tortilla.order_contract", "tortilla.reflect",
  "tortilla.reflect.adapter_contract", "tortilla.reflect.filters", "tortilla.reflect.members",
  "tortilla.reflect.model", "tortilla.reflect.python_adapter", "tortilla.reflect.resolve",
  "tortilla.runtime", "tortilla.runtime.log_policy", "tortilla.schema", "tortilla.synthesis",
  "tortilla.synthesis.assembler", "tortilla.synthesis.coercion", "tortilla.synthesis.dispatch",
  "tortilla.synthesis.emission", "tortilla.synthesis.grouping", "tortilla.synthesis.model",
  "tortilla.synthesis.naming", "tortilla.synthesis.source", "tortilla.types", "typing", "enum",
  "pydantic.main"].map splitDots

def className (s : String) : ClassName := .ofText packageModules s

/-- The annotation that names a type; no text, no annotation. -/
def hint (type : String) : Option AnnotationText :=
  if type.isEmpty then none
  else match TypeRef.ofText packageModules type with
    | .primitive p => some (.primitive p)
    | .reference c => some (.named c)

def required (name type : String) : Param := ⟨name, .positional, hint type, none⟩

def optional (name type : String) : Param := ⟨name, .positional, hint type, some .nothing⟩

def keyword (name type : String) : Param := ⟨name, .keywordOnly, hint type, some .nothing⟩

/-- A function of a class: its parameters after the first, and the written type of its result. -/
structure Method where
  name : String
  binding : Binding
  params : List Param
  returns : String

def method (name : String) (params : List Param) (returns : String) : Method :=
  ⟨name, .receiver, params, returns⟩

def ofClass (name : String) (params : List Param) (returns : String) : Method :=
  ⟨name, .owner, params, returns⟩

/--
A class by its written name. One with `fields` is a record, whose initializer takes them. What is
`hidden` is no function.
-/
structure Listing where
  name : String
  ancestors : List String := []
  fields : Option (List Param) := none
  annotations : List String := []
  methods : List Method := []
  hidden : List String := []

def listings : List Listing := [
  { name := "tortilla.deps.Coordinate"
    fields := some [required "group" "str", required "artifact" "str", required "version" "str"]
    methods := [method "__str__" [] "str"]
    hidden := ["requirement"] },
  { name := "tortilla.exceptions.TortillaError"
    ancestors := ["Exception", "BaseException"] },
  { name := "tortilla.exceptions.ClassNotResolvable"
    ancestors := ["tortilla.exceptions.TortillaError", "LookupError", "Exception", "BaseException"]
    methods := [method "__init__" [required "handle" "object", optional "reason" "str"] "@void"] },
  { name := "tortilla.exceptions.InvalidFilterPattern"
    ancestors := ["tortilla.exceptions.TortillaError", "ValueError", "Exception", "BaseException"]
    methods := [method "__init__" [required "pattern" "str", required "reason" "str"] "@void"] },
  { name := "tortilla.exceptions.DependencyResolutionError"
    ancestors := ["tortilla.exceptions.TortillaError", "Exception", "BaseException"]
    methods := [
      method "__init__" [
        required "coordinates" "collections.abc.Sequence", required "reason" "str"] "@void"] },
  { name := "tortilla.exceptions.OverloadResolutionError"
    ancestors := ["tortilla.exceptions.TortillaError", "TypeError", "Exception", "BaseException"]
    methods := [
      method "__init__" [
        required "owner" "str", required "member_name" "str",
        required "args" "collections.abc.Sequence", keyword "reason" "str"] "@void"] },
  { name := "tortilla.exceptions.NeverRaise"
    ancestors := ["RuntimeError", "Exception", "BaseException"]
    methods := [method "__init__" [required "message" "str", keyword "env" "object"] ""]
    hidden := ["payload"] },
  { name := "tortilla.exceptions.NeverThrown"
    ancestors := ["tortilla.exceptions.NeverRaise", "RuntimeError", "Exception", "BaseException"] },
  { name := "tortilla.order_contract.OrderPolicy"
    ancestors := ["str", "enum.Enum"]
    hidden := ["SORT", "TRUST"] },
  { name := "tortilla.reflect.adapter_contract.ReflectionAdapter"
    ancestors := ["typing.Protocol", "typing.Generic"]
    annotations := ["platform_id"]
    methods := [
      method "class_members" [required "cls" "type"] "list",
      method "constructors" [required "cls" "type"] "list",
      method "methods" [required "cls" "type"] "list"] },
  { name := "tortilla.reflect.filters.MemberFilter"
    fields := some [optional "include" "object", optional "exclude" "object"]
    methods := [
      ofClass "from_patterns" [
        optional "include" "object",
        optional "exclude" "object"] "tortilla.reflect.filters.MemberFilter",
      method "__call__" [required "member" "tortilla.reflect.model.Member"] "bool"] },
  { name := "tortilla.reflect.model.MemberKind"
    ancestors := ["str", "enum.Enum"]
    hidden := ["CONSTRUCTOR", "METHOD"] },
  { name := "tortilla.reflect.model.Member"
    fields := some [
      required "name" "str", required "kind" "tortilla.reflect.model.MemberKind",
      required "declared_types" "tuple", required "return_type" "object",
      required "declaring_class" "type", required "invocation_target" "collections.abc.Callable",
      optional "invocation_path" "str", optional "varargs_type" "object",
      optional "is_static" "bool"]
    methods := [
      method "parameter_types" [] "collections.abc.Iterator", method "descriptor" [] "str",
      method "signature" [] "tuple",
      method "invoke" [required "args" "collections.abc.Sequence"] "object",
      method "__str__" [] "str"]
    hidden := ["is_varargs", "parameter_count", "owner"] },
  { name := "tortilla.reflect.python_adapter._Shape"
    fields := some [
      required "params" "tuple", required "varargs" "object", required "returns" "object"] },
  { name := "tortilla.reflect.python_adapter.PythonReflectionAdapter"
    ancestors := [
      "tortilla.reflect.adapter_contract.ReflectionAdapter", "typing.Protocol", "typing.Generic"]
    methods := [
      method "class_members" [required "cls" "type"] "list",
      method "constructors" [required "cls" "type"] "list",
      method "methods" [required "cls" "type"] "list",
      method "_method_members" [
        required "cls" "type", required "klass" "type", required "name" "str",
        required "attr" "object"] "list"]
    hidden := ["platform_id"] },
  { name := "tortilla.schema.WrapSettings"
    ancestors := ["pydantic.main.BaseModel"]
    methods := [
      ofClass "_split_patterns" [required "value" "object"] "object",
      ofClass "_known_order" [required "value" "object"] "object",
      method "order_policy" [] "object"] },
  { name := "tortilla.schema.LoggingSettings"
    ancestors := ["pydantic.main.BaseModel"] },
  { name := "tortilla.synthesis.assembler.MemberDescriptors"
    fields := some [
      required "cls" "type", optional "options" "tortilla.synthesis.model.WrapOptions",
      optional "adapter" "object"]
    methods := [method "__iter__" [] "collections.abc.Iterator"] },
  { name := "tortilla.synthesis.model.ArityBucket"
    fields := some [
      required "arity" "int", optional "fixed" "tuple", optional "variadic" "tuple"] },
  { name := "tortilla.synthesis.model.ArityGroup"
    ancestors := [
      "collections.abc.Mapping", "collections.abc.Collection", "collections.abc.Sized",
      "collections.abc.Iterable", "collections.abc.Container", "typing.Generic"]
    fields := some [optional "buckets" "tuple"]
    methods := [
      method "__getitem__" [required "arity" "int"] "tortilla.synthesis.model.ArityBucket",
      method "__iter__" [] "collections.abc.Iterator", method "__len__" [] "int"]
    hidden := ["variadics"] },
  { name := "tortilla.synthesis.model.DispatchClause"
    fields := some [
      required "member" "tortilla.reflect.model.Member", required "arity" "int",
      optional "tail" "bool", optional "guarded" "bool", optional "coerce" "object"]
    methods := [
      method "guard_types" [] "tuple",
      method "coerced" [required "value" "object", required "t" "object"] "object",
      method "bind" [required "value" "object", required "t" "object"] "object",
      method "matches" [required "args" "collections.abc.Sequence"] "bool",
      method "invoke" [required "args" "collections.abc.Sequence"] "object"] },
  { name := "tortilla.synthesis.model.ClauseSet"
    fields := some [
      required "arity" "int", required "clauses" "tuple", required "owner" "str",
      required "member_name" "str", optional "tail" "bool"]
    methods := [
      method "accepts" [required "count" "int"] "bool",
      method "dispatch" [required "args" "collections.abc.Sequence"] "object"] },
  { name := "tortilla.synthesis.model.RoutineSpec"
    fields := some [
      required "name" "str", required "identifier" "str", required "member_name" "str",
      required "owner" "str", required "declared_signatures" "tuple",
      required "clause_sets" "tuple"]
    methods := [
      method "clause_set_for" [required "count" "int"] "object",
      method "dispatch" [required "args" "collections.abc.Sequence"] "object"]
    hidden := ["tail", "fixed_arities"] },
  { name := "tortilla.synthesis.model.WrapOptions"
    fields := some [
      optional "prefix" "str", optional "coerce" "object", optional "filter_predicate" "object",
      optional "members_only" "bool", optional "order" "object"] },
  { name := "tortilla.synthesis.source._RoutineWriter"
    methods := [
      method "__init__" [required "spec" "tortilla.synthesis.model.RoutineSpec"] "@void",
      method "ref" [required "path" "str"] "str", method "type_ref" [required "t" "object"] "str",
      method "coerced" [
        required "clause" "tortilla.synthesis.model.DispatchClause", required "expr" "str",
        required "t" "object"] "str",
      method "guard" [required "clause" "tortilla.synthesis.model.DispatchClause"] "str",
      method "bind" [
        required "clause" "tortilla.synthesis.model.DispatchClause", required "index" "int",
        required "t" "object"] "str",
      method "invocation" [required "clause" "tortilla.synthesis.model.DispatchClause"] "str",
      method "clause_set_lines" [required "clause_set" "tortilla.synthesis.model.ClauseSet"] "list",
      method "source" [] "str"] },
  { name := "tortilla.types.Primitive"
    fields := some [required "name" "str"]
    methods := [method "__str__" [] "str"] }]

/-- What every record has beside its initializer. -/
def recordMethods : List Method := [
  method "__repr__" [] "", method "__eq__" [required "other" ""] "",
  method "__setattr__" [required "name" "", required "value" ""] "",
  method "__delattr__" [required "name" ""] "", method "__hash__" [] ""]

namespace Method

def entry (m : Method) (owner : ClassName) : String × Attribute :=
  (m.name, .function m.binding
    { module := owner.module
      path := owner.path ++ [m.name]
      role := .plain
      overloads := []
      implementation := Signature.withReceiver "self" ⟨m.params, hint m.returns⟩
      body := .give (.value .nothing)
      postponed := true })

end Method

namespace Listing

def className (l : Listing) : ClassName := Installed.className l.name

def isProtocol (l : Listing) : Bool := l.ancestors.head? = some Native.protocolClass.fullPath

/-- A class below a protocol that has made an instance has lost the refusal to make one. -/
def initializers (l : Listing) : List (String × Attribute) :=
  if l.isProtocol then
    [(initializerName, .function .receiver (.refusal l.className.module l.className.path))]
  else if l.ancestors.contains Native.protocolClass.fullPath then [(initializerName, .special)]
  else []

/-- The attributes of the class, functions first. -/
def attributes (l : Listing) : List (String × Attribute) :=
  let c := l.className
  let of (ms : List Method) := ms.map (·.entry c)
  let record := match l.fields with
    | none => []
    | some fields =>
      let inherited := recordMethods.filter fun m => l.methods.all (·.name ≠ m.name)
      (fields.filter (·.default.isSome)).map (fun p => (p.name, Attribute.value .nothing)) ++
        of (method initializerName fields "@void" :: inherited) ++
        [("__match_args__", .value (.tuple (fields.map fun p => .str p.name)))]
  of l.methods ++ l.hidden.map (·, .property) ++ record ++ l.initializers

def info (l : Listing) : ClassInfo where
  name := l.className
  linearization := l.className :: l.ancestors.map Installed.className ++ [.object]
  isProtocol := l.isProtocol
  runtimeCheckable := l.ancestors.contains Native.protocolClass.fullPath
  attributes := l.attributes
  annotations := l.annotations
  constructorCounts := if l.ancestors.contains Native.enumeration.fullPath then some [1, 2] else none

end Listing

/-- Classes of other packages, of which no attribute is listed. -/
def foreignInfos : List ClassInfo :=
  [Native.enumeration, className "pydantic.main.BaseModel"].map fun c =>
    { name := c
      linearization := [c, .object]
      isProtocol := false
      runtimeCheckable := false
      attributes := []
      annotations := []
      constructorCounts := if c = Native.enumeration then some [1, 2] else some [0] }

def classes : List ClassInfo := listings.map (·.info) ++ foreignInfos

end Overloads.Installed
