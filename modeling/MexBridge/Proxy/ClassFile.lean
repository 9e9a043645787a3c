import MexBridge.Proxy.Function
import MexBridge.Registry.Declaration

/-!
# Proxy class files

The proxy file of a class is a comment and a class definition.  A class with methods has one block
of static methods, in which the functions follow each other with empty lines between them.
-/

namespace MexBridge.ClassFile

set_option autoImplicit false

/-- The level of the functions in a class file. -/
def functionLevel : Int := 2

/-- The comment and the line that opens the class. -/
def header (naming : ClassNaming) : List NestedLine :=
  [⟨0, "%class " ++ naming.matlabName ++ ", generated by mexwrap for " ++ naming.cppName⟩,
    ⟨0, "classdef " ++ naming.matlabName ++ " < handle"⟩]

/-- The line that opens the block of methods. -/
def blockOpening : NestedLine := ⟨1, "methods(Static = true)"⟩

/-- The line that closes the block of methods. -/
def blockClosing : NestedLine := ⟨1, "end"⟩

/-- The empty line between two functions. -/
def separator : NestedLine := ⟨0, ""⟩

/-- The line that closes the class. -/
def closing : NestedLine := ⟨0, "end"⟩

end MexBridge.ClassFile
