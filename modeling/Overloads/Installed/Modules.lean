import Overloads.Installed.Classes

/-! The modules that are there before any is defined. -/
namespace Overloads.Installed

/--
A module of the package. Borrowed names are kept with the module that they come from, and so are
functions and types from elsewhere.
-/
structure ModuleListing where
  name : String
  isPackage : Bool := false
  functions : List String := []
  classes : List String := []
  borrowed : List (String × List String) := []
  modules : List String := []
  foreignFunctions : List (String × List String) := []
  foreignTypes : List (String × List String) := []
  constants : List String := []
  others : List (String × Thing) := []

def moduleListings : List ModuleListing := [
  { name := "tortilla"
    isPackage := true
    borrowed := [
      ("tortilla.exceptions", ["NeverRaise", "NeverThrown", "OverloadResolutionError"]),
      ("tortilla.invariants", ["never"]),
      ("tortilla.synthesis.emission", ["install_wrappers", "wrap_class"])]
    constants := ["__all__", "__version__"] },
  { name := "tortilla.cli"
    functions := ["_fail", "_combined_pattern", "_coercion", "_emit_class", "wrap", "main"]
    borrowed := [
      ("tortilla.config", ["logging_settings", "wrap_settings"]),
      ("tortilla.deps", ["fetch_dependencies", "parse_coords"]),
      ("tortilla.exceptions", [
        "ClassNotResolvable", "DependencyResolutionError", "InvalidFilterPattern", "NeverRaise",
        "TortillaError"]),
      ("tortilla.invariants", ["proof_mode_scope"]), ("tortilla.order_contract", ["OrderPolicy"]),
      ("tortilla.reflect.filters", ["MemberFilter", "compile_pattern"]),
      ("tortilla.reflect.resolve", ["resolve_class"]),
      ("tortilla.runtime.log_policy", ["configure_logging"]),
      ("tortilla.synthesis.assembler", ["generate"]),
      ("tortilla.synthesis.coercion", ["resolve_callable"]),
      ("tortilla.synthesis.model", ["Coercion", "WrapOptions"]),
      ("tortilla.synthesis.source", ["render_routines"]), ("tortilla.types", ["type_name"])]
    modules := ["sys", "structlog", "typer"]
    foreignFunctions := [("typing", ["List", "NoReturn", "Optional", "Sequence"])]
    foreignTypes := [("pathlib", ["Path"]), ("pydantic_core._pydantic_core", ["ValidationError"])]
    constants := ["annotations", "log"]
    others := [
      ("default_coerce", .function "tortilla.synthesis.coercion.coerce"),
      ("app", .anonymous "Typer" none)] },
  { name := "tortilla.config"
    functions := [
      "_load_toml", "load_config", "_section", "wrap_defaults", "logging_defaults",
      "merge_payload", "wrap_settings", "logging_settings"]
    borrowed := [("tortilla.schema", ["LoggingSettings", "WrapSettings"])]
    modules := ["tomllib"]
    foreignFunctions := [("typing", ["TypeAlias"])]
    foreignTypes := [("datetime", ["date", "datetime", "time"]), ("pathlib", ["Path"])]
    constants := ["annotations", "DEFAULT_CONFIG_NAME", "TomlScalar", "TomlValue"]
    others := [("TomlTable", .function "builtins.dict")] },
  { name := "tortilla.deps"
    functions := ["_coordinate", "parse_coords", "fetch_dependencies"]
    classes := ["Coordinate"]
    borrowed := [("tortilla.exceptions", ["DependencyResolutionError"])]
    modules := ["importlib", "re", "subprocess", "sys", "tempfile", "structlog"]
    foreignFunctions := [("dataclasses", ["dataclass"]), ("typing", ["Callable", "Sequence"])]
    foreignTypes := [("pathlib", ["Path"])]
    constants := ["annotations", "log", "_BRACKETED_RE"] },
  { name := "tortilla.exceptions"
    classes := [
      "TortillaError", "ClassNotResolvable", "InvalidFilterPattern", "DependencyResolutionError",
      "OverloadResolutionError", "NeverRaise", "NeverThrown"]
    foreignFunctions := [("typing", ["Mapping", "Sequence"])]
    constants := ["annotations"] },
  { name := "tortilla.invariants"
    functions := ["never", "proof_mode", "proof_mode_scope"]
    borrowed := [("tortilla.exceptions", ["NeverThrown"])]
    foreignFunctions := [("contextlib", ["contextmanager"]), ("typing", ["NoReturn"])]
    foreignTypes := [("_contextvars", ["ContextVar"])]
    constants := ["annotations", "_PROOF_MODE"] },
  { name := "tortilla.order_contract"
    functions := [
      "ordered_or_sorted", "_resolve_policy", "normalize_policy", "get_order_policy",
      "set_order_policy", "reset_order_policy", "order_policy"]
    classes := ["OrderPolicy"]
    borrowed := [("tortilla.invariants", ["never"])]
    modules := ["os"]
    foreignFunctions := [
      ("contextlib", ["contextmanager"]), ("typing", ["Callable", "Iterable", "Iterator"])]
    foreignTypes := [
      ("_contextvars", ["ContextVar", "Token"]), ("enum", ["Enum"]),
      ("typing", ["Any", "TypeVar"])]
    constants := [
      "annotations", "T", "_ORDER_POLICY_ENV", "_ORDER_POLICY_CONTEXT", "_POLICY_ALIASES"] },
  { name := "tortilla.reflect"
    isPackage := true
    borrowed := [
      ("tortilla.reflect.adapter_contract", ["ReflectionAdapter"]),
      ("tortilla.reflect.filters", [
        "MemberFilter", "MemberPredicate", "compile_pattern", "current_member_filter",
        "member_filter_scope"]),
      ("tortilla.reflect.members", ["members_of"]),
      ("tortilla.reflect.model", ["Member", "MemberKind"]),
      ("tortilla.reflect.python_adapter", ["PythonReflectionAdapter"]),
      ("tortilla.reflect.resolve", ["resolve_class"])]
    constants := ["__all__"] },
  { name := "tortilla.reflect.adapter_contract"
    classes := ["ReflectionAdapter"]
    borrowed := [("tortilla.reflect.model", ["Member"])]
    foreignFunctions := [("typing", ["runtime_checkable"])]
    foreignTypes := [("typing", ["Protocol"])]
    constants := ["annotations"] },
  { name := "tortilla.reflect.filters"
    functions := [
      "compile_pattern", "always", "current_member_filter", "set_member_filter",
      "reset_member_filter", "member_filter_scope"]
    classes := ["MemberFilter"]
    borrowed := [
      ("tortilla.exceptions", ["InvalidFilterPattern"]), ("tortilla.reflect.model", ["Member"])]
    modules := ["re"]
    foreignFunctions := [
      ("contextlib", ["contextmanager"]), ("dataclasses", ["dataclass"]),
      ("typing", ["Callable", "Iterator"])]
    foreignTypes := [("_contextvars", ["ContextVar", "Token"])]
    constants := ["annotations", "_MEMBER_FILTER"]
    others := [("MemberPredicate", .function "typing.Callable")] },
  { name := "tortilla.reflect.members"
    functions := ["_member_order_key", "members_of"]
    borrowed := [
      ("tortilla.order_contract", ["OrderPolicy", "ordered_or_sorted"]),
      ("tortilla.reflect.adapter_contract", ["ReflectionAdapter"]),
      ("tortilla.reflect.filters", ["MemberPredicate", "current_member_filter"]),
      ("tortilla.reflect.model", ["Member"]),
      ("tortilla.reflect.python_adapter", ["PythonReflectionAdapter"]),
      ("tortilla.reflect.resolve", ["resolve_class"]), ("tortilla.types", ["type_name"])]
    modules := ["structlog"]
    constants := ["annotations", "log", "_DEFAULT_ADAPTER"] },
  { name := "tortilla.reflect.model"
    classes := ["MemberKind", "Member"]
    borrowed := [("tortilla.types", ["TypeRef", "type_name"])]
    foreignFunctions := [
      ("dataclasses", ["dataclass", "field"]), ("typing", ["Callable", "Iterator", "Sequence"])]
    foreignTypes := [("enum", ["Enum"]), ("itertools", ["chain", "repeat"])]
    constants := ["annotations"] },
  { name := "tortilla.reflect.python_adapter"
    functions := ["_signature", "_shapes", "_overloads", "_signature_sources", "_own_initializer"]
    classes := ["_Shape", "PythonReflectionAdapter"]
    borrowed := [
      ("tortilla.reflect.adapter_contract", ["ReflectionAdapter"]),
      ("tortilla.reflect.model", ["Member", "MemberKind"]),
      ("tortilla.types", ["TypeRef", "from_annotation", "type_name"])]
    modules := ["inspect", "types", "typing", "structlog"]
    foreignFunctions := [("dataclasses", ["dataclass"]), ("typing", ["Callable", "Iterable"])]
    constants := ["annotations", "log", "_POSITIONAL"] },
  { name := "tortilla.reflect.resolve"
    functions := ["resolve_class"]
    borrowed := [("tortilla.exceptions", ["ClassNotResolvable"])]
    modules := ["builtins", "importlib", "structlog"]
    constants := ["annotations", "log"] },
  { name := "tortilla.runtime"
    isPackage := true },
  { name := "tortilla.runtime.log_policy"
    functions := ["resolve_level", "configure_logging"]
    modules := ["logging", "sys", "structlog"]
    constants := ["annotations", "_LEVEL_MAP"] },
  { name := "tortilla.schema"
    classes := ["WrapSettings", "LoggingSettings"]
    borrowed := [
      ("tortilla.exceptions", ["NeverThrown"]),
      ("tortilla.order_contract", ["OrderPolicy", "normalize_policy"])]
    foreignFunctions := [
      ("pydantic.fields", ["Field"]), ("pydantic.functional_validators", ["field_validator"]),
      ("typing", ["List", "Optional", "Union"])]
    foreignTypes := [("pydantic.main", ["BaseModel"])]
    constants := ["annotations"] },
  { name := "tortilla.synthesis"
    isPackage := true
    borrowed := [
      ("tortilla.synthesis.assembler", [
        "MemberDescriptors", "assemble_class", "assemble_routine", "generate",
        "member_descriptors"]),
      ("tortilla.synthesis.coercion", ["coerce", "resolve_callable"]),
      ("tortilla.synthesis.dispatch", ["generate_fixed", "generate_tail"]),
      ("tortilla.synthesis.emission", [
        "build_routine", "describe_routine", "install_wrappers", "wrap_class"]),
      ("tortilla.synthesis.grouping", ["group_by_arity"]),
      ("tortilla.synthesis.model", [
        "ArityBucket", "ArityGroup", "ClauseSet", "DispatchClause", "RoutineSpec", "WrapOptions"]),
      ("tortilla.synthesis.naming", ["transform_name"]),
      ("tortilla.synthesis.source", ["render_routines"])]
    constants := ["__all__"] },
  { name := "tortilla.synthesis.assembler"
    functions := [
      "assemble_routine", "verify_routine", "_group_by_name", "assemble_class",
      "member_descriptors", "generate"]
    classes := ["MemberDescriptors"]
    borrowed := [
      ("tortilla.invariants", ["never", "proof_mode"]),
      ("tortilla.order_contract", ["OrderPolicy", "get_order_policy"]),
      ("tortilla.reflect.adapter_contract", ["ReflectionAdapter"]),
      ("tortilla.reflect.filters", ["current_member_filter"]),
      ("tortilla.reflect.members", ["members_of"]), ("tortilla.reflect.model", ["Member"]),
      ("tortilla.reflect.resolve", ["resolve_class"]),
      ("tortilla.synthesis.dispatch", ["generate_fixed", "generate_tail"]),
      ("tortilla.synthesis.grouping", ["group_by_arity"]),
      ("tortilla.synthesis.model", ["ClauseSet", "RoutineSpec", "WrapOptions"]),
      ("tortilla.synthesis.naming", ["python_identifier", "transform_name", "unique_identifier"]),
      ("tortilla.types", ["type_name"])]
    modules := ["structlog"]
    foreignFunctions := [
      ("dataclasses", ["dataclass", "field", "replace"]), ("typing", ["Iterator", "Sequence"])]
    constants := ["annotations", "log", "_DEFAULT_OPTIONS"] },
  { name := "tortilla.synthesis.coercion"
    functions := ["coerce", "_coerce_real", "identity", "callable_path", "resolve_callable"]
    borrowed := [("tortilla.types", ["Byte", "Float", "Integer", "Short"])]
    modules := ["functools", "importlib", "numbers"]
    foreignFunctions := [("typing", ["Callable"])]
    constants := ["annotations", "_INTEGRAL_TARGETS"] },
  { name := "tortilla.synthesis.dispatch"
    functions := ["generate_fixed", "generate_tail"]
    borrowed := [
      ("tortilla.invariants", ["never"]), ("tortilla.reflect.model", ["Member"]),
      ("tortilla.synthesis.model", ["ClauseSet", "Coercion", "DispatchClause"])]
    foreignFunctions := [("typing", ["Sequence"])]
    constants := ["annotations"] },
  { name := "tortilla.synthesis.emission"
    functions := [
      "describe_routine", "build_routine", "build_namespace", "wrap_class", "install_wrappers"]
    borrowed := [
      ("tortilla.order_contract", ["OrderPolicy"]),
      ("tortilla.reflect.adapter_contract", ["ReflectionAdapter"]),
      ("tortilla.reflect.filters", ["MemberPredicate"]),
      ("tortilla.synthesis.assembler", ["assemble_class"]),
      ("tortilla.synthesis.model", ["Coercion", "RoutineSpec", "WrapOptions"])]
    modules := ["textwrap", "types", "structlog"]
    foreignFunctions := [("typing", ["Callable", "Iterable"])]
    foreignTypes := [("collections.abc", ["MutableMapping"])]
    constants := ["annotations", "log"] },
  { name := "tortilla.synthesis.grouping"
    functions := ["group_by_arity"]
    borrowed := [
      ("tortilla.reflect.model", ["Member"]),
      ("tortilla.synthesis.model", ["ArityBucket", "ArityGroup"])]
    foreignFunctions := [("typing", ["Iterable"])]
    constants := ["annotations"] },
  { name := "tortilla.synthesis.model"
    classes := [
      "ArityBucket", "ArityGroup", "DispatchClause", "ClauseSet", "RoutineSpec", "WrapOptions"]
    borrowed := [
      ("tortilla.exceptions", ["OverloadResolutionError"]),
      ("tortilla.order_contract", ["OrderPolicy"]),
      ("tortilla.reflect.filters", ["MemberPredicate"]), ("tortilla.reflect.model", ["Member"]),
      ("tortilla.types", ["TypeRef", "binding_cast", "boxed", "is_instance"])]
    foreignFunctions := [
      ("dataclasses", ["dataclass", "field"]),
      ("typing", ["Callable", "Iterator", "Sequence", "TypeAlias"])]
    foreignTypes := [("collections.abc", ["Mapping"]), ("itertools", ["islice"])]
    constants := ["annotations"]
    others := [("Coercion", .function "typing.Callable")] },
  { name := "tortilla.synthesis.naming"
    functions := [
      "camel_to_kebab", "transform_name", "_normalize_identifier", "python_identifier",
      "unique_identifier"]
    modules := ["keyword", "re"]
    foreignFunctions := [("typing", ["Iterable"])]
    constants := ["annotations", "_WORD_BOUNDARY_RE", "_LOWER_UPPER_RE"] },
  { name := "tortilla.synthesis.source"
    functions := [
      "_module_for", "_docstring", "render_routine", "_import_line", "render_module",
      "render_routines"]
    classes := ["_RoutineWriter"]
    borrowed := [
      ("tortilla.synthesis.coercion", ["callable_path"]),
      ("tortilla.synthesis.emission", ["describe_routine"]),
      ("tortilla.synthesis.model", ["ClauseSet", "DispatchClause", "RoutineSpec"]),
      ("tortilla.types", ["TypeRef", "binding_cast", "boxed", "type_name"])]
    modules := ["sys"]
    foreignFunctions := [("typing", ["Iterable"])]
    constants := ["annotations", "_INDENT", "_IS_INSTANCE", "_OVERLOAD_ERROR", "_HEADER"]
    others := [("cst", .module ["libcst"])] },
  { name := "tortilla.types"
    functions := [
      "boxed", "binding_cast", "is_instance", "type_name", "_checkable", "from_annotation"]
    classes := ["Primitive", "Byte", "Short", "Integer", "Float", "Character"]
    modules := ["inspect", "types", "typing"]
    foreignFunctions := [
      ("dataclasses", ["dataclass"]), ("typing", ["Callable", "TypeAlias", "Union"])]
    foreignTypes := [("typing", ["Annotated"])]
    constants := [
      "annotations", "BYTE", "SHORT", "INT", "LONG", "FLOAT", "DOUBLE", "CHAR", "BOOLEAN", "VOID",
      "_BOXED", "_BINDING_CASTS", "_NUMERIC_BOXES"]
    others := [
      ("jbyte", .function "builtins.Annotated"), ("jshort", .function "builtins.Annotated"),
      ("jint", .function "builtins.Annotated"), ("jlong", .function "builtins.Annotated"),
      ("jfloat", .function "builtins.Annotated"), ("jdouble", .function "builtins.Annotated"),
      ("jchar", .function "builtins.Annotated"), ("jboolean", .function "builtins.Annotated"),
      ("TypeRef", .function "typing.Union"), ("Long", .type (.builtin "int")),
      ("Double", .type (.builtin "float")), ("Boolean", .type (.builtin "bool")),
      ("Object", .type (.builtin "object")), ("String", .type (.builtin "str"))] }]

def builtinFunctions : List String := [
  "abs", "all", "any", "ascii", "bin", "breakpoint", "callable", "chr", "compile", "delattr", "dir",
  "divmod", "eval", "exec", "format", "getattr", "globals", "hasattr", "hash", "hex", "id", "input",
  "isinstance", "issubclass", "iter", "aiter", "len", "locals", "max", "min", "next", "anext",
  "oct", "ord", "pow", "print", "repr", "round", "setattr", "sorted", "sum", "vars", "quit", "exit",
  "copyright", "credits", "license", "help", "__build_class__", "__import__"]

namespace ModuleListing

def moduleName (l : ModuleListing) : List String := splitDots l.name

/-- What the module holds without borrowing it. -/
def own (l : ModuleListing) : List (String × Thing) :=
  l.functions.map (fun n => (n, .function (l.name ++ "." ++ n))) ++
    l.classes.map (fun n => (n, .type ⟨l.moduleName, [n]⟩)) ++
    l.modules.map (fun n => (n, .module [n])) ++
    l.foreignFunctions.flatMap (fun (source, names) =>
      names.map fun n => (n, .function (source ++ "." ++ n))) ++
    l.foreignTypes.flatMap (fun (source, names) =>
      names.map fun n => (n, .type ⟨splitDots source, [n]⟩)) ++
    l.others ++ l.constants.map (·, .inert "object")

/-- What a name stands for, at most `fuel` modules away. -/
def thing? : Nat → ModuleListing → String → Option Thing
  | 0, _, _ => none
  | fuel + 1, l, name =>
    match l.own.lookup name, l.borrowed.find? (·.2.contains name) with
    | some t, _ => some t
    | none, some (source, _) =>
      (moduleListings.find? (·.name = source)).bind fun l => thing? fuel l name
    | none, none => none

/-- The modules directly below. -/
def children (l : ModuleListing) : List (String × Thing) :=
  moduleListings.filterMap fun c =>
    if c.moduleName.dropLast = l.moduleName then
      some (c.moduleName.getLast?.getD "", .module c.moduleName)
    else none

def info (l : ModuleListing) : ModuleInfo where
  name := l.moduleName
  isPackage := l.isPackage
  attributes :=
    l.children ++ l.own ++
      (l.borrowed.flatMap (·.2)).filterMap fun n => (thing? 4 l n).map (n, ·)

end ModuleListing

/-- The native classes of a module. -/
def nativeTypes (module : List String) : List (String × Thing) :=
  (Native.rows.filter (·.name.module = module)).map fun r => (r.name.simpleName, .type r.name)

/-- Names under which builtin values other than classes and functions are found. -/
def builtinValues : List (String × Thing) := [
  ("None", .value .nothing), ("True", .value (.bool true)), ("False", .value (.bool false)),
  ("NotImplemented", .inert "NotImplementedType"), ("Ellipsis", .inert "ellipsis"),
  ("__debug__", .value (.bool true))]

def builtins : ModuleInfo where
  name := ClassName.builtinModule
  isPackage := false
  attributes :=
    (nativeTypes ClassName.builtinModule).filter (·.1 ≠ "NoneType") ++
      ["IOError", "EnvironmentError"].map (·, .type (.builtin "OSError")) ++
      builtinFunctions.map (fun n => (n, .function ("builtins." ++ n))) ++
      ("open", .function "io.open") :: builtinValues

/-- Modules of native classes, and others that are loaded but hold nothing of interest. -/
def nativeModules : List ModuleInfo :=
  let plain (name : List String) : ModuleInfo := ⟨name, false, nativeTypes name⟩
  [builtins, ⟨["collections"], true, [("abc", .module ["collections", "abc"])]⟩,
    plain ["collections", "abc"], plain ["fractions"], plain ["numbers"],
    ⟨["os"], false, [("path", .module ["os", "path"])]⟩, ⟨["os", "path"], false, []⟩] ++
    ["abc", "contextlib", "dataclasses", "datetime", "enum", "functools", "inspect", "itertools",
      "json", "keyword", "logging", "math", "pathlib", "re", "string", "sys", "textwrap", "types",
      "typing"].map fun n => ⟨[n], false, []⟩

end Overloads.Installed

namespace Overloads.World

/-- The world before anything is described. -/
def initial : World where
  classes := Installed.classes
  modules := Installed.moduleListings.map (·.info) ++ Installed.nativeModules

end Overloads.World
