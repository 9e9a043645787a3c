import MexBridge.Signature.Overload

/-!
# Declared classes and methods

A wrapped class has a name in C++ text and a name in MATLAB.  Unless they are given, both come
from the registered name and the namespaces around the class.
-/

namespace MexBridge

set_option autoImplicit false

/-- The naming of one wrapped class on both sides of the boundary. -/
structure ClassNaming where
  name : String
  cppName : String
  matlabName : String
  namespaces : List String := []
  deriving DecidableEq

/-- What a caller says about a class; a name that is missing or empty is derived. -/
structure ClassDeclaration where
  name : String
  cppName : Option String := none
  matlabName : Option String := none
  namespaces : List String := []
  deriving DecidableEq

/-- A static method with its overloads, in order of registration. -/
structure StaticMethod where
  name : String
  overloads : List Overload
  deriving DecidableEq

/-- A name that was given and is not empty, or else the derived one. -/
def givenOrDerived (given : Option String) (derived : String) : String :=
  match given with
  | some name => if name = "" then derived else name
  | none => derived

namespace ClassDeclaration

/-- The naming that a declaration fixes. -/
def naming (declaration : ClassDeclaration) : ClassNaming where
  name := declaration.name
  cppName := givenOrDerived declaration.cppName
    (String.intercalate "::" (declaration.namespaces ++ [declaration.name]))
  matlabName := givenOrDerived declaration.matlabName
    (String.join declaration.namespaces ++ declaration.name)
  namespaces := declaration.namespaces

end ClassDeclaration

end MexBridge
