import MexBridge.OrderedMap
import MexBridge.Registry.Declaration

/-!
# Snapshots

A session reads a snapshot: the classes in order, and the methods of each class name.  A snapshot
of a registry has the same names in both parts; one that is put together by hand need not.
-/

namespace MexBridge

set_option autoImplicit false

/-- What a session reads: the classes in order, and the methods of each class name. -/
structure Snapshot where
  classes : List ClassNaming
  methods : OrderedMap String (List StaticMethod)

namespace Snapshot

/-- A snapshot from its two parts; of a class name given twice the last methods count. -/
def ofParts (classes : List ClassNaming) (methods : List (String × List StaticMethod)) :
    Snapshot where
  classes := classes
  methods := OrderedMap.ofList methods

/-- The first class of a name. -/
def classNamed? (snapshot : Snapshot) (name : String) : Option ClassNaming :=
  snapshot.classes.find? fun naming => naming.name = name

/-- The methods of a class name; an unknown name has none. -/
def methodsOf (snapshot : Snapshot) (className : String) : List StaticMethod :=
  (snapshot.methods.get? className).getD []

/-- The overloads of all methods, whether their class is listed or not. -/
def overloads (snapshot : Snapshot) : List Overload :=
  snapshot.methods.values.flatMap fun methods => methods.flatMap StaticMethod.overloads

/-- The number of overloads of all methods. -/
def overloadCount (snapshot : Snapshot) : Nat :=
  snapshot.overloads.length

end Snapshot

end MexBridge
