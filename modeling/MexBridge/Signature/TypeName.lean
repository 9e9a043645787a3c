/-!
# Type names

A native type is a name inside a chain of namespaces.  It is written with `::` in C++ text, with a
point in the tag that the proxy tests, and with nothing between the parts in the name under which
handles are stored.
-/

namespace MexBridge

set_option autoImplicit false

/-- A native type: its name and the namespaces around it, the outermost first. -/
structure TypeName where
  base : String
  namespaces : List String := []
  deriving DecidableEq

namespace TypeName

/-- The name with every namespace in front, each followed by the delimiter. -/
def qualified (type : TypeName) (delimiter : String) : String :=
  String.join (type.namespaces.map (· ++ delimiter)) ++ type.base

/-- The name in C++ text. -/
def cpp (type : TypeName) : String :=
  type.qualified "::"

/-- The name under which handles to objects of the type are stored. -/
def mangled (type : TypeName) : String :=
  type.qualified ""

end TypeName

end MexBridge
