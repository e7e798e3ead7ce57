import Overloads.Class.Shape
import Overloads.Instance.Construction
import Overloads.Installed.Modules

/-! Defining classes and modules, one statement after another. -/
namespace Overloads

structure ParamText where
  name : String
  kind : ParamKind
  hint : Option AnnotationText
  default : Option Recipe
  deriving Repr

/-- A signature as it is declared, before its receiver is put in front. -/
structure Declaration where
  params : List ParamText
  returns : Option AnnotationText
  hasReceiver : Bool
  deriving Repr

namespace Declaration

/-- Takes any number of arguments after the receiver. -/
def anyArguments : Declaration := ⟨[⟨"args", .variadic, none, none⟩], none, true⟩

end Declaration

inductive FunctionKind where
  | method | static | owner | initializer | allocator
  deriving DecidableEq, Repr

namespace FunctionKind

def takesReceiver : FunctionKind → Bool
  | .static => false
  | _ => true

def binding : FunctionKind → Binding
  | .method | .initializer => .receiver
  | .static | .allocator => .static
  | .owner => .owner

def role : FunctionKind → Role
  | .initializer => .initializer
  | .allocator => .allocator
  | .method | .static | .owner => .plain

end FunctionKind

structure FunctionText where
  kind : FunctionKind
  name : String
  overloads : List Declaration
  implementation : Option Declaration
  body : Body
  deriving Repr

inductive ProtocolKind where
  | plain | runtime
  deriving DecidableEq, Repr

mutual

/-- The statement that defines a class. -/
inductive ClassText where
  | mk (name : String) (bases : List ClassName) (protocol : Option ProtocolKind)
      (members : List MemberText)

/-- A statement in the body of a class. -/
inductive MemberText where
  | function (f : FunctionText)
  | property (name : String)
  /-- A property that is computed once. -/
  | cached (name : String)
  | value (name : String) (r : Recipe)
  | hint (name : String)
  | rename (name target : String)
  | nested (c : ClassText)

end

instance : Inhabited MemberText := ⟨.property ""⟩

instance : Inhabited ClassText := ⟨.mk "" [] none []⟩

structure ModuleText where
  name : List String
  postponed : Bool
  classes : List ClassText
  functions : List String
  constants : List (String × Recipe)

/-- Sets a name: in its place if it is there already, at the end otherwise. -/
def setEntry {α : Type} (entries : List (String × α)) (name : String) (a : α) :
    List (String × α) :=
  if entries.any (·.1 = name) then entries.map fun e => if e.1 = name then (name, a) else e
  else entries ++ [(name, a)]

/-- Where statements are run: a module, and the path of the class whose body they are in. -/
structure Scope where
  module : List String
  path : List String
  postponed : Bool

namespace Declaration

/-- The signature that a function of this kind gets, if its annotations mean something. -/
def build (w : World) (postponed : Bool) (kind : FunctionKind) (d : Declaration) :
    Making Signature := do
  let params ← d.params.mapM fun p => do
    return (⟨p.name, p.kind, p.hint, ← p.default.mapM w.make⟩ : Param)
  let s : Signature := ⟨params, d.returns⟩
  unless s.isDefinable postponed do throw .failingHint
  return if kind.takesReceiver && d.hasReceiver then s.withReceiver "self" else s

end Declaration

/-- A class body in progress: its names so far, and the overloads declared under each path. -/
structure ClassBody where
  attributes : List (String × Attribute)
  annotations : List String
  overloads : List (List String × List Signature)

namespace ClassBody

def empty : ClassBody := ⟨[], [], []⟩

def set (b : ClassBody) (name : String) (a : Attribute) : ClassBody :=
  { b with attributes := setEntry b.attributes name a }

/-- Declares overloads of a function, and the function. -/
def define (b : ClassBody) (f : FunctionText) (g : Function) (declared : List Signature) :
    ClassBody :=
  { b.set f.name (.function f.kind.binding g) with
    overloads := b.overloads ++ [(g.path, declared)] }

/-- All overloads that were declared under a path. -/
def overloadsOf (b : ClassBody) (path : List String) : List Signature :=
  (b.overloads.filter (·.1 = path)).flatMap (·.2)

/-- The names of the finished body. Overloads belong to a path and not to one definition. -/
def finish (b : ClassBody) : List (String × Attribute) :=
  b.attributes.map fun (name, a) =>
    match a with
    | .function binding f => (name, .function binding { f with overloads := b.overloadsOf f.path })
    | a => (name, a)

/-- The second name of a property that is computed once, which has room for one name only. -/
def cachedTwice? : List (String × Attribute) → Option String
  | [] => none
  | (_, .cached made place) :: rest =>
    match rest.find? (·.2 == .cached made place) with
    | some (name, _) => some name
    | none => cachedTwice? rest
  | _ :: rest => cachedTwice? rest

/-- What a second name for an attribute stands for. An allocator is special by its name alone. -/
def shared : Attribute → Attribute
  | .function binding f => .function (if f.role = .allocator then .receiver else binding) f
  | a => a

end ClassBody

namespace World

/-- Abstract collections that protocols can extend. -/
def collectionProtocols : List ClassName :=
  ["Callable", "Iterable", "Sized", "Container", "Collection", "Reversible"].map
    Native.collectionClass

def isProtocolBase (w : World) (c : ClassName) : Bool :=
  c = .object || c = Native.protocolClass || c = Native.genericClass ||
    collectionProtocols.contains c || w.isProtocol c

/-- Adds a class whose body is finished. -/
def addClass (w : World) (name : ClassName) (bases : List ClassName)
    (protocol : Option ProtocolKind) (body : ClassBody) : Except Failure World := do
  if bases.any w.isClosed || !w.layoutsAgree (.object :: bases) then throw .inconsistentBases
  let direct := match bases ++ (if protocol.isSome then [Native.protocolClass] else []) with
    | [] => [.object]
    | cs => cs
  let some order := w.linearize? name direct | throw .inconsistentBases
  let attributes := body.finish
  if let some twice := ClassBody.cachedTwice? attributes then
    throw (.raised .runtime ("Error calling __set_name__ on 'cached_property' instance " ++
      Text.quoted twice ++ " in " ++ Text.quoted name.simpleName))
  if protocol.isSome && !bases.all w.isProtocolBase then throw .inconsistentBases
  let initializes (c : ClassName) : Bool := c ≠ .object && (w.own? c initializerName).isSome
  let refuses := protocol.isSome && (attributes.lookup initializerName).isNone &&
    !(order.drop 1).any initializes
  let refusals := if refuses then
    [(initializerName, Attribute.function .receiver (.refusal name.module name.path))] else []
  let runtime := protocol = some .runtime ||
    bases.any fun c => ((w.info? c).map (·.runtimeCheckable)).getD false
  return { w with classes :=
    { name := name
      linearization := order
      isProtocol := protocol.isSome
      runtimeCheckable := runtime
      attributes := attributes ++ refusals
      annotations := body.annotations
      constructorCounts := none } :: w.classes }

/-- What a name means in a class body that has not set it: something of the module, or builtin. -/
def global? (w : World) (module : List String) (name : String) : Option Attribute :=
  let found (m : List String) : Option Thing :=
    (w.modules.find? (·.name = m)).bind (·.attributes.lookup name)
  match (found module).orElse fun _ => found ClassName.builtinModule with
  | some (.type c) => some (.value (.type c))
  | some (.value v) => some (.value v)
  | some _ => some .property
  | none => none

/-- Defines a function in a class body. -/
def defineFunction (w : World) (scope : Scope) (body : ClassBody) (f : FunctionText) :
    Making ClassBody := do
  let overloads ← f.overloads.mapM (·.build w scope.postponed f.kind)
  let implementation ←
    (f.implementation.getD .anyArguments).build w scope.postponed f.kind
  let g : Function :=
    { module := scope.module
      path := scope.path ++ [f.name]
      role := f.kind.role
      overloads := []
      implementation := implementation
      body := f.body
      postponed := scope.postponed }
  return body.define f g overloads

mutual

/-- Defines a class. -/
def defineClass (w : World) (scope : Scope) : ClassText → Making (World × ClassName)
  | .mk name bases protocol members => do
    let path := scope.path ++ [name]
    let (w, body) ← defineMembers w { scope with path := path } .empty members
    let c : ClassName := ⟨scope.module, path⟩
    return (← w.addClass c bases protocol body, c)

/-- Runs the statements of a class body. -/
def defineMembers (w : World) (scope : Scope) (body : ClassBody) :
    List MemberText → Making (World × ClassBody)
  | [] => return (w, body)
  | m :: rest => do
    let (w, body) ← defineMember w scope body m
    defineMembers w scope body rest

def defineMember (w : World) (scope : Scope) (body : ClassBody) :
    MemberText → Making (World × ClassBody)
  | .function f => return (w, ← w.defineFunction scope body f)
  | .property name => return (w, body.set name .property)
  | .cached name => return (w, body.set name (.cached name body.attributes.length))
  | .value name r => return (w, body.set name (.value (← w.make r)))
  | .hint name => return (w, { body with annotations := body.annotations ++ [name] })
  | .rename name target => do
    match (body.attributes.lookup target).orElse fun _ => w.global? scope.module target with
    | some a => return (w, body.set name (ClassBody.shared a))
    | none => throw (.unknownName target)
  | .nested c => do
    let (w, n) ← defineClass w scope c
    return (w, body.set n.simpleName (.nested n))

end

/-- Sets a name in a module that exists. -/
def setModuleEntry (w : World) (module : List String) (name : String) (t : Thing) : World :=
  { w with modules := w.modules.map fun m =>
      if m.name = module then { m with attributes := setEntry m.attributes name t } else m }

/-- Adds an empty module unless it exists, and names it in its parent. -/
def addModule (w : World) (name : List String) : World :=
  if w.modules.any (·.name = name) then w
  else
    let w := { w with modules := ⟨name, true, []⟩ :: w.modules }
    w.setModuleEntry name.dropLast (name.getLast?.getD "") (.module name)

/-- Defines a module and the packages above it. -/
def defineModule (w : World) (m : ModuleText) : Making World := do
  let w := (List.range m.name.length).foldl (fun w i => w.addModule (m.name.take (i + 1))) w
  let w := if m.postponed then w.setModuleEntry m.name "annotations" (.inert "_Feature") else w
  let w ← m.classes.foldlM (fun (w : World) c => do
    let (w, n) ← w.defineClass ⟨m.name, [], m.postponed⟩ c
    return w.setModuleEntry m.name n.simpleName (.type n)) w
  let w := m.functions.foldl (fun (w : World) f =>
    w.setModuleEntry m.name f (.function (dotted (m.name ++ [f])))) w
  m.constants.foldlM (fun (w : World) (n, r) =>
    return w.setModuleEntry m.name n (.value (← w.make r))) w

def defineModules (ms : List ModuleText) : Making World := ms.foldlM defineModule initial

/-- The world in which classes have the initializers that they got since they were described. -/
def settledBy (w : World) (s : Store) : World :=
  { w with classes := w.classes.map fun i =>
      match s.initializers.lookup i.name with
      | some a => { i with attributes := setEntry i.attributes initializerName a }
      | none => i }

end World

end Overloads
