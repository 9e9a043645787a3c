import MexBridge.Registry.Basic

/-!
# Calls to a registry

A registry is used by calls: a class is named, an overload is registered, the registry is frozen, or
it is asked for something.  `Registry.serve` answers one call and gives the registry afterwards; a
call that is refused leaves the registry as it is.  `Registry.serveAll` serves calls one after the
other, and keeps each of them with its answer.

`Registry` keeps the naming of a class and its methods together.  `TwoTableRegistry` keeps a map of
the namings and another one of the methods, and serves the same calls.
-/

namespace MexBridge

set_option autoImplicit false

/-- What can be asked of a registry. -/
inductive RegistryQuery
  | classNames
  | namingOf (className : String)
  | methodNames (className : String)
  | overloadsOf (className method : String)
  | size
  deriving DecidableEq

/-- A call to a registry. -/
inductive RegistryCall
  | registerClass (declaration : ClassDeclaration)
  | register (className method : String) (overload : Overload)
  | freeze
  | query (asked : RegistryQuery)
  deriving DecidableEq

/-- What a registry answers to a call. -/
inductive RegistryAnswer
  | names (names : List String)
  | naming (naming : ClassNaming)
  | overload (overload : Overload)
  | overloads (overloads : List Overload)
  | count (count : Nat)
  | snapshot (taken : Snapshot)

/-- A call with its answer. -/
abbrev RegistryExchange := RegistryCall × Except RegistryRefusal RegistryAnswer

namespace Registry

/-- The answer to a question. -/
def answer (registry : Registry) : RegistryQuery → Except RegistryRefusal RegistryAnswer
  | .classNames => .ok (.names registry.classNames)
  | .namingOf className => (registry.namingOf className).map .naming
  | .methodNames className => .ok (.names (registry.methodNames className))
  | .overloadsOf className method => .ok (.overloads (registry.overloadsOf className method))
  | .size => .ok (.count registry.size)

/-- The answer to a call, and the registry afterwards. -/
def serve (registry : Registry) :
    RegistryCall → Except RegistryRefusal RegistryAnswer × Registry
  | .registerClass declaration =>
    match registry.registerClass declaration with
    | .ok (naming, later) => (.ok (.naming naming), later)
    | .error refusal => (.error refusal, registry)
  | .register className method overload =>
    match registry.register className method overload with
    | .ok later => (.ok (.overload overload), later)
    | .error refusal => (.error refusal, registry)
  | .freeze =>
    let (taken, closed) := registry.freeze
    (.ok (.snapshot taken), closed)
  | .query asked => (registry.answer asked, registry)

/-- The calls with their answers, in order, and the registry after the last of them. -/
def serveAll (registry : Registry) : List RegistryCall → List RegistryExchange × Registry
  | [] => ([], registry)
  | call :: rest =>
    let (answer, later) := registry.serve call
    let (exchanges, last) := later.serveAll rest
    ((call, answer) :: exchanges, last)

/-- The exchanges of a new registry that serves calls. -/
def exchanges (calls : List RegistryCall) : List RegistryExchange :=
  (empty.serveAll calls).1

/-- A new registry after it served calls. -/
def after (calls : List RegistryCall) : Registry :=
  (empty.serveAll calls).2

end Registry

/-! ## A registry with two tables -/

/-- A registry that keeps the namings of the classes and their methods in two maps. -/
structure TwoTableRegistry where
  namings : OrderedMap String ClassNaming := .empty
  methods : OrderedMap String (OrderedMap String (List Overload)) := .empty
  frozen : Bool := false

namespace TwoTableRegistry

/-- Fixes the naming of a class in the one map, and makes room for its methods in the other. -/
def registerClass (registry : TwoTableRegistry) (declaration : ClassDeclaration) :
    Except RegistryRefusal (ClassNaming × TwoTableRegistry) :=
  let naming := declaration.naming
  if registry.frozen then .error .frozen
  else if (registry.namings.get? declaration.name).any fun existing => existing ≠ naming then
    .error (.conflictingNaming declaration.name)
  else .ok (naming, { registry with
    namings := registry.namings.insert declaration.name naming
    methods := registry.methods.setDefault declaration.name .empty })

/-- Appends an overload to those of a method, in the map of the methods. -/
def addOverload (registry : TwoTableRegistry) (className method : String) (overload : Overload) :
    Except RegistryRefusal TwoTableRegistry :=
  match registry.methods.get? className with
  | none => .error (.unknownClass className)
  | some methods =>
    let earlier := (methods.get? method).getD []
    .ok { registry with
      methods := registry.methods.insert className (methods.insert method (earlier ++ [overload])) }

/-- Records an overload of a method; a class without a naming is named first. -/
def register (registry : TwoTableRegistry) (className method : String) (overload : Overload) :
    Except RegistryRefusal TwoTableRegistry :=
  if registry.frozen then .error .frozen
  else if registry.namings.contains className then registry.addOverload className method overload
  else match registry.registerClass { name := className } with
    | .ok (_, named) => named.addOverload className method overload
    | .error refusal => .error refusal

/-- The methods of a class; an unknown class has none. -/
def methodsOf (registry : TwoTableRegistry) (className : String) :
    OrderedMap String (List Overload) :=
  (registry.methods.get? className).getD .empty

/-- The answer to a question. -/
def answer (registry : TwoTableRegistry) : RegistryQuery → Except RegistryRefusal RegistryAnswer
  | .classNames => .ok (.names registry.namings.keys)
  | .namingOf className =>
    match registry.namings.get? className with
    | some naming => .ok (.naming naming)
    | none => .error (.unknownClass className)
  | .methodNames className => .ok (.names (registry.methodsOf className).keys)
  | .overloadsOf className method =>
    .ok (.overloads (((registry.methodsOf className).get? method).getD []))
  | .size => .ok (.count
      (registry.methods.values.flatMap fun methods => methods.values.flatten).length)

/-- What a session reads of the registry. -/
def snapshot (registry : TwoTableRegistry) : Snapshot where
  classes := registry.namings.values
  methods := registry.methods.mapValues fun methods =>
    methods.entries.map fun (name, overloads) => ⟨name, overloads⟩

/-- The answer to a call, and the registry afterwards. -/
def serve (registry : TwoTableRegistry) :
    RegistryCall → Except RegistryRefusal RegistryAnswer × TwoTableRegistry
  | .registerClass declaration =>
    match registry.registerClass declaration with
    | .ok (naming, later) => (.ok (.naming naming), later)
    | .error refusal => (.error refusal, registry)
  | .register className method overload =>
    match registry.register className method overload with
    | .ok later => (.ok (.overload overload), later)
    | .error refusal => (.error refusal, registry)
  | .freeze => (.ok (.snapshot registry.snapshot), { registry with frozen := true })
  | .query asked => (registry.answer asked, registry)

/-- The calls with their answers, in order, and the registry after the last of them. -/
def serveAll (registry : TwoTableRegistry) :
    List RegistryCall → List RegistryExchange × TwoTableRegistry
  | [] => ([], registry)
  | call :: rest =>
    let (answer, later) := registry.serve call
    let (exchanges, last) := later.serveAll rest
    ((call, answer) :: exchanges, last)

end TwoTableRegistry

end MexBridge
