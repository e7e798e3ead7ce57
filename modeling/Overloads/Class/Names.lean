import Overloads.Installed.Modules
import Overloads.Instance.Construction

/-! Finding modules, classes and functions by their dotted paths. -/
namespace Overloads

open Overloads.Text

namespace World

def module? (w : World) (name : List String) : Option ModuleInfo :=
  w.modules.find? (·.name = name)

def missing (name : List String) : String := "No module named " ++ quoted (dotted name)

/-- Imports the module that lies `below` some parents already imported. -/
def importBelow (w : World) (parents : List String) : List String → Except Failure ModuleInfo
  | [] =>
    match w.module? parents with
    | some m => .ok m
    | none => .error (.moduleMissing (missing parents))
  | part :: rest =>
    let name := parents ++ [part]
    match w.module? name with
    | some _ => w.importBelow name rest
    | none =>
      let isFile := ((w.module? parents).map (!·.isPackage)).getD false
      .error (.moduleMissing (missing name ++
        (if isFile then "; " ++ quoted (dotted parents) ++ " is not a package" else "")))

/-- Imports a module by its dotted name. -/
def importModule (w : World) (name : String) : Except Failure ModuleInfo :=
  if name.startsWith "." then .error (.relativeModule name)
  else if name.isEmpty then .error .emptyModuleName
  else w.importBelow [] (splitDots name)

/-- The class in which the attributes of something found are looked up. -/
def classOfThing (w : World) : Thing → ClassName
  | .module _ => .builtin "module"
  | .type c => w.metaclass c
  | .function path =>
    .builtin (if path.startsWith "builtins." then "builtin_function_or_method" else "function")
  | .anonymous kind _ | .inert kind => .builtin kind
  | .value v => w.classOf v

/-- How an attribute of the class `k` appears when it is asked of a class. -/
def attributeThing (k : ClassName) (name : String) (a : Attribute) : Thing :=
  let named (kind described : String) : Thing :=
    if k.module = ClassName.builtinModule then
      .anonymous kind (some
        ("<" ++ described ++ " " ++ quoted name ++ " of " ++ quoted k.text ++ " objects>"))
    else .function (k.fullPath ++ "." ++ name)
  match a with
  | .function _ f => .function f.label
  | .native true _ | .unsigned true =>
    if k.module = ClassName.builtinModule then .anonymous "builtin_function_or_method" none
    else .function (k.fullPath ++ "." ++ name)
  | .native false _ | .unsigned false => named "method_descriptor" "method"
  | .special => named "wrapper_descriptor" "slot wrapper"
  | .cached _ _ => .inert "cached_property"
  | .property =>
    if name = "__doc__" then .value .nothing
    else if name = "__module__" then .value (.str (dotted k.module))
    else .inert (if k.module = ClassName.builtinModule then "getset_descriptor" else "property")
  | .value v => .value v
  | .nested c => .type c

/-- How an attribute appears when it is asked of an instance. -/
def boundThing : Attribute → Thing
  | .function _ f => .function f.label
  | .native _ _ | .unsigned _ => .anonymous "builtin_function_or_method" none
  | .special => .anonymous "method-wrapper" none
  | .cached _ _ | .property => .inert "object"
  | .value v => .value v
  | .nested c => .type c

/-- The class above a class that its instances are laid out by. -/
def base? (w : World) (c : ClassName) : Option ClassName :=
  ((w.linearization c).drop 1).find? fun k =>
    w.layout k = w.layout c || (w.hasOwnLayout c && w.isSubclass c k)

/-- What every class has by being a class. -/
def classThing? (w : World) (c : ClassName) (name : String) : Option Thing :=
  match name with
  | "__class__" => some (.type (w.metaclass c))
  | "__name__" => some (.value (.str c.simpleName))
  | "__qualname__" => some (.value (.str (dotted c.path)))
  | "__module__" => some (.value (.str (dotted c.module)))
  | "__base__" => some ((w.base? c).elim (.value .nothing) .type)
  | "__bases__" | "__mro__" => some (.inert "tuple")
  | "__dict__" => some (.inert "mappingproxy")
  | "__basicsize__" | "__itemsize__" | "__flags__" | "__weakrefoffset__" | "__dictoffset__" =>
    some (.inert "int")
  | "__text_signature__" => some (.value .nothing)
  | _ => none

/-- Attributes of functions that can be called and those that cannot. -/
def functionThing? (w : World) (c : ClassName) (name : String) : Option Thing :=
  if c = .builtin "function" && ["__code__", "__globals__", "__defaults__", "__kwdefaults__",
      "__closure__", "__annotations__", "__dict__", "__builtins__"].contains name then
    some (.inert "object")
  else if ["__name__", "__qualname__", "__module__", "__doc__"].contains name then
    some (.inert "str")
  else if name = "__class__" then some (.type c)
  else if ["__call__", "__get__"].contains name then some (.anonymous "method-wrapper" none)
  else (w.own? .object name).map boundThing

/-- What a sentence calls something found. -/
def subject (w : World) : Thing → String
  | .module m => "module '" ++ dotted m ++ "'"
  | .type c | .value (.type c) => "type object '" ++ c.simpleName ++ "'"
  | t => "'" ++ (w.classOfThing t).simpleName ++ "' object"

/-- The attribute of a class: what all classes have, its own and inherited ones, its metaclass's. -/
def typeAttribute? (w : World) (c : ClassName) (name : String) : Option Thing :=
  match w.classThing? c name, w.lookup c name, w.lookup (w.metaclass c) name with
  | some t, _, _ => some t
  | none, some (k, a), _ => some (attributeThing k name a)
  | none, none, some (_, a) => some (boundThing a)
  | none, none, none => none

/-- What a module has beside what it holds. -/
def moduleThing? (w : World) (name : String) : Option Thing :=
  if name = "__class__" then some (.type (.builtin "module"))
  else if ["__name__", "__package__", "__loader__", "__spec__", "__dict__"].contains name then
    some (.inert "object")
  else (w.own? .object name).map boundThing

/-- What the instances of a class name as their class, where a described class along the way says that. -/
def statedClass? (w : World) (c : ClassName) : Option Thing :=
  (w.linearization c).findSome? fun k =>
    ((w.described? k).bind (·.attribute? "__class__")).map boundThing

/-- The attribute of something found, if it is known to have it. -/
def attribute? (w : World) (t : Thing) (name : String) : Option Thing :=
  match t with
  | .module m =>
    (w.module? m).bind fun m => (m.attributes.lookup name).orElse fun _ => w.moduleThing? name
  | .type c | .value (.type c) => w.typeAttribute? c name
  | .value v =>
    if name = "__class__" then some ((w.statedClass? (w.classOf v)).getD (.type (w.classOf v)))
    else (w.lookup (w.classOf v) name).map fun (_, a) => boundThing a
  | .function _ | .anonymous _ _ | .inert _ => w.functionThing? (w.classOfThing t) name

/-- What a value is as something found; classes among values are the same as classes by name. -/
def Thing.ofValue : Value → Thing
  | .type c => .type c
  | v => .value v

/-- The attribute of something found, by the usual rules. -/
def plainAttribute (w : World) (t : Thing) (name : String) : Except Failure Thing :=
  match w.attribute? t name with
  | some t => .ok t
  | none => .error (.attributeMissing (w.subject t ++ " has no attribute '" ++ name ++ "'"))

/-- Whether a failure tells that an attribute is not there. -/
def isMissing (f : Failure) : Bool := f.kind = "AttributeError"

/--
The attribute of something found. An instance whose class has functions for that is asked for it, first by
the one for all attributes and then by the one for missing ones.
-/
def attributeOf (w : World) (t : Thing) (name : String) : Except Failure Thing :=
  match t with
  | .value (.object c number content) =>
    let v : Value := .object c number content
    let ask (a : Attribute) : Except Failure Thing :=
      ((w.callAttribute w.construct c v [.str name] a).run' .empty).map Thing.ofValue
    let found := match w.customized? c "__getattribute__" with
      | some a => ask a
      | none => w.plainAttribute t name
    match found, w.customized? c "__getattr__" with
    | .error f, some a => if isMissing f then ask a else .error f
    | found, _ => found
  | t => w.plainAttribute t name

def attributes (w : World) (t : Thing) (names : List String) : Except Failure Thing :=
  names.foldlM w.attributeOf t

/-- The class that something found is. -/
def Thing.class? : Thing → Option ClassName
  | .type c | .value (.type c) => some c
  | _ => none

/-- The class that the module of builtin names has under a name. -/
def builtinClass? (w : World) (name : String) : Option ClassName :=
  let builtins := ((w.module? ClassName.builtinModule).map (·.attributes)).getD []
  ((builtins.lookup name).orElse fun _ => w.moduleThing? name).bind Thing.class?

/-- Whether a value can be called. -/
def isCallable (w : World) : Value → Bool
  | .type _ => true
  | v => w.hasMethod (w.classOf v) "__call__"

end World

/-- The outcome of a search for a class, with the failed imports on the way: module and reason. -/
structure ClassSearch where
  result : Except Failure ClassName
  failedImports : List (String × String)

namespace ClassSearch

def notAClass : String := "expected a class or a dotted class name"

def noBuiltin : String := "no builtin class with that name"

def noModule : String := "module not found"

/-- Nothing was found. The handle is named in the failure, as far as it gives its text. -/
def unknown (w : World) (handle : Value) (reason : String) : ClassSearch :=
  ⟨(w.sentence handle).bind fun shown => .error (.unknownClass shown reason), []⟩

/-- Tries the first `split` parts as a module and the others as attributes, then fewer. -/
def splitting (w : World) (handle : Value) (parts : List String) : Nat → ClassSearch
  | 0 => unknown w handle noModule
  | split + 1 =>
    let moduleName := dotted (parts.take (split + 1))
    let names := parts.drop (split + 1)
    match w.importModule moduleName with
    | .error (.moduleMissing reason) =>
      let next := splitting w handle parts split
      { next with failedImports := (moduleName, reason) :: next.failedImports }
    | .error e => ⟨.error e, []⟩
    | .ok m =>
      match w.attributes (.module m.name) names with
      | .error f =>
        if World.isMissing f then
          unknown w handle ("module " ++ moduleName ++ " has no attribute " ++ dotted names)
        else ⟨.error f, []⟩
      | .ok t =>
        match World.Thing.class? t with
        | some c => ⟨.ok c, []⟩
        | none => unknown w handle (dotted parts ++ " is not a class")

/-- The class that a text names: a builtin one, or one in the longest module that can be imported. -/
def ofText (w : World) (handle : Value) (text : String) : ClassSearch :=
  let name := trim text
  if name.isEmpty then unknown w handle notAClass
  else if name.contains '.' then
    let parts := splitDots name
    splitting w handle parts (parts.length - 1)
  else
    match w.builtinClass? name with
    | some c => ⟨.ok c, []⟩
    | none => unknown w handle noBuiltin

/-- The class that a handle stands for: a class itself or the name of one. -/
def of (w : World) (handle : Value) : ClassSearch :=
  match handle, handle.asText? with
  | .type c, _ => ⟨.ok c, []⟩
  | _, some s => ofText w handle s
  | _, none => unknown w handle notAClass

end ClassSearch

namespace World

def resolveClass (w : World) (handle : Value) : Except Failure ClassName :=
  (ClassSearch.of w handle).result

/-- Something that can be called as a hook. -/
inductive Callable where
  | type (c : ClassName)
  | function (path : String)
  | anonymous (shown : Option String)
  deriving DecidableEq, Repr

/--
The dotted path under which a callable can be imported. What has no name, or was made inside a function, has
none.
-/
def Callable.path : Callable → Except (Option String) String
  | .type c =>
    let name := dotted c.path
    if (dotted c.module).isEmpty || name.isEmpty || '<' ∈ name.toList then
      .error (Value.literal (.type c))
    else .ok c.fullPath
  | .function path => .ok path
  | .anonymous shown => .error shown

def Thing.callable? (w : World) : Thing → Option Callable
  | .type c | .value (.type c) => some (.type c)
  | .function path => some (.function path)
  | .anonymous _ shown => some (.anonymous shown)
  | .value v => if w.isCallable v then some (.anonymous v.literal) else none
  | .module _ | .inert _ => none

/-- Splits a path at its first colon, or else at its last dot. -/
def splitPath (path : String) : String × String :=
  let cs := path.toList
  if ':' ∈ cs then
    (String.ofList (cs.takeWhile (· ≠ ':')), String.ofList ((cs.dropWhile (· ≠ ':')).drop 1))
  else
    let parts := splitDots path
    (dotted parts.dropLast, parts.getLast?.getD "")

/-- The callable that a path names. -/
def resolvePath (w : World) (path : String) : Except Failure Callable := do
  let (moduleName, attributePath) := splitPath path
  if moduleName.isEmpty || attributePath.isEmpty then throw (.notADottedPath path)
  let m ← w.importModule moduleName
  let t ← w.attributes (.module m.name) (splitDots attributePath)
  match Thing.callable? w t with
  | some c => return c
  | none => throw (.namesNoFunction path)

/-- The callable that a value stands for: none for None, itself, or the one that a path names. -/
def resolveCallable (w : World) (v : Value) : Except Failure (Option Callable) :=
  match v with
  | .nothing => .ok none
  | v =>
    match Thing.callable? w (Thing.ofValue v), v.asText? with
    | some c, _ => .ok (some c)
    | none, some s =>
      let path := trim s
      if path.isEmpty then .error (.notAHook v.literal) else (w.resolvePath path).map some
    | none, none => .error (.notAHook v.literal)

end World

end Overloads
