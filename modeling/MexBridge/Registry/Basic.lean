import MexBridge.Registry.Snapshot
import MexBridge.Text.Quoted

/-!
# The registry

The registry records declarations and resolves nothing.  Classes stand in the order in which they
were first mentioned, the methods of a class in the order of their first overload, and the
overloads of a method in the order of registration, since that is the order in which a proxy tries
them.  Freezing ends registration; `Registry.freeze` also gives the snapshot for a session.
-/

namespace MexBridge

set_option autoImplicit false

/-- A class of the registry: its naming and its methods. -/
structure RegisteredClass where
  naming : ClassNaming
  methods : OrderedMap String (List Overload) := .empty

/-- The declarations recorded so far, under the names of their classes. -/
structure Registry where
  classes : OrderedMap String RegisteredClass := .empty
  frozen : Bool := false

/-- Why a registry refuses a request. -/
inductive RegistryRefusal
  | frozen
  | conflictingNaming (className : String)
  | unknownClass (className : String)
  deriving DecidableEq

/-- The complaint about a refused request. -/
def RegistryRefusal.message : RegistryRefusal → String
  | frozen => "registry is frozen; create a new one for another session"
  | conflictingNaming className =>
    "class " ++ Text.quoted className ++ " already registered with different naming"
  | unknownClass className => Text.quoted className

namespace RegisteredClass

/-- The overloads of a method; an unknown method has none. -/
def overloadsOf (registered : RegisteredClass) (method : String) : List Overload :=
  (registered.methods.get? method).getD []

/-- The class with one more overload, the last of its method. -/
def addOverload (registered : RegisteredClass) (method : String) (overload : Overload) :
    RegisteredClass :=
  { registered with
    methods := registered.methods.insert method (registered.overloadsOf method ++ [overload]) }

/-- The methods with their overloads, in order. -/
def staticMethods (registered : RegisteredClass) : List StaticMethod :=
  registered.methods.entries.map fun (name, overloads) => ⟨name, overloads⟩

end RegisteredClass

namespace Registry

/-- A registry without declarations. -/
def empty : Registry := {}

/-- The names of the classes, in the order in which they were first mentioned. -/
def classNames (registry : Registry) : List String :=
  registry.classes.keys

/-- The naming of a class. -/
def namingOf (registry : Registry) (className : String) : Except RegistryRefusal ClassNaming :=
  match registry.classes.get? className with
  | some registered => .ok registered.naming
  | none => .error (.unknownClass className)

/-- The names of a class's methods, in the order of their first overload. -/
def methodNames (registry : Registry) (className : String) : List String :=
  match registry.classes.get? className with
  | some registered => registered.methods.keys
  | none => []

/-- The overloads of a method of a class, in order of registration. -/
def overloadsOf (registry : Registry) (className method : String) : List Overload :=
  match registry.classes.get? className with
  | some registered => registered.overloadsOf method
  | none => []

/-- All recorded overloads: class by class, and method by method. -/
def overloads (registry : Registry) : List Overload :=
  registry.classes.values.flatMap fun registered => registered.methods.values.flatten

/-- The number of recorded overloads. -/
def size (registry : Registry) : Nat :=
  registry.overloads.length

/-- Fixes the naming of a class; saying the same again changes nothing. -/
def registerClass (registry : Registry) (declaration : ClassDeclaration) :
    Except RegistryRefusal (ClassNaming × Registry) :=
  if registry.frozen then .error .frozen
  else match registry.classes.get? declaration.name with
    | some registered =>
      if registered.naming = declaration.naming then .ok (declaration.naming, registry)
      else .error (.conflictingNaming declaration.name)
    | none => .ok (declaration.naming, { registry with
        classes := registry.classes.insert declaration.name { naming := declaration.naming } })

/-- Records an overload of a method.  A class that was not mentioned before gets the naming that
its name alone gives it. -/
def register (registry : Registry) (className method : String) (overload : Overload) :
    Except RegistryRefusal Registry :=
  if registry.frozen then .error .frozen
  else
    let registered := (registry.classes.get? className).getD
      { naming := ClassDeclaration.naming { name := className } }
    .ok { registry with
      classes := registry.classes.insert className (registered.addOverload method overload) }

/-- What a session reads of the registry. -/
def snapshot (registry : Registry) : Snapshot where
  classes := registry.classes.values.map RegisteredClass.naming
  methods := registry.classes.mapValues RegisteredClass.staticMethods

/-- Ends registration, and gives what was recorded. -/
def freeze (registry : Registry) : Snapshot × Registry :=
  (registry.snapshot, { registry with frozen := true })

end Registry

end MexBridge
