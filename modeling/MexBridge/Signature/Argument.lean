import MexBridge.Magnitude
import MexBridge.Signature.TypeName

/-!
# Arguments

An argument crosses the boundary twice described: the proxy tests its value against the tag
`Argument.matlabClass`, and the native function binds it by the statement `Argument.unwrapping`.
Pointers and references to objects are bound through their handles; everything else is copied.
-/

namespace MexBridge

set_option autoImplicit false

/-- How an argument is passed to the native method. -/
inductive Passing
  | value
  | reference
  | pointer
  deriving DecidableEq

/-- A pointer mark counts before a reference mark. -/
def Passing.ofMarks (isReference isPointer : Bool) : Passing :=
  if isPointer then .pointer else if isReference then .reference else .value

/-- One declared parameter of a static method. -/
structure Argument where
  type : TypeName
  name : String
  isConst : Bool := false
  passing : Passing := .value
  deriving DecidableEq

/-- The types that are copied even when they are declared by reference. -/
def valueTypes : List String :=
  ["string", "Vector", "Matrix", "double", "float", "int", "size_t", "bool", "char",
    "unsigned char"]

/-- The MATLAB class of a built-in native type. -/
def builtinMatlabClass? : String → Option String
  | "string" => some "char"
  | "char" => some "char"
  | "unsigned char" => some "char"
  | "Vector" => some "double"
  | "Matrix" => some "double"
  | "int" => some "numeric"
  | "size_t" => some "numeric"
  | "bool" => some "logical"
  | _ => none

namespace TypeName

/-- The MATLAB class of a type: that of the built-in type, or else the qualified name. -/
def matlabClass (type : TypeName) (delimiter : String) : String :=
  (builtinMatlabClass? type.base).getD (type.qualified delimiter)

/-- Whether values of the type are always copied. -/
def isValueType (type : TypeName) : Bool :=
  valueTypes.contains type.base

end TypeName

namespace Argument

/-- The tag that the proxy tests an argument's value against. -/
def tag (argument : Argument) : String :=
  argument.type.matlabClass "."

/-- The statement that binds an argument to an input of the native function. -/
def unwrapping (argument : Argument) (input : String) : String :=
  let cppType := argument.type.cpp
  let copied :=
    cppType ++ " " ++ argument.name ++ " = unwrap< " ++ cppType ++ " >(" ++ input ++ ");"
  let fromHandle :=
    "unwrap_shared_ptr< " ++ cppType ++ " >(" ++ input ++ ", \"ptr_" ++ argument.type.mangled ++
      "\");"
  match argument.passing with
  | .pointer => "boost::shared_ptr<" ++ cppType ++ "> " ++ argument.name ++ " = " ++ fromHandle
  | .reference =>
    if argument.type.isValueType then copied
    else cppType ++ "& " ++ argument.name ++ " = *" ++ fromHandle
  | .value => copied

/-- The tags of the arguments, in order. -/
def tags (arguments : List Argument) : List String :=
  arguments.map tag

/-- The names of the arguments as the native call passes them on. -/
def callList (arguments : List Argument) : String :=
  String.intercalate ", " (arguments.map name)

/-- The input of the native function at a position. -/
def input (position : Int) : String :=
  "in[" ++ toString position ++ "]"

/-- The binding statements of the arguments, which read consecutive inputs. -/
def unwrappings (start : Int) (arguments : List Argument) : List String :=
  arguments.mapIdx fun offset argument => argument.unwrapping (input (start + offset))

/-- The binding statements of the arguments, provided that the positions of all inputs can be
written. -/
def checkedUnwrappings (start : Int) (arguments : List Argument) :
    Except MagnitudeFault (List String) :=
  if (List.range arguments.length).all fun offset => isWritable (start + offset) then
    .ok (unwrappings start arguments)
  else .error .tooManyDigits

end Argument

/-- Why an argument list has no argument at an index. -/
inductive IndexFault
  | outOfRange
  | notAWord
  deriving DecidableEq

/-- The complaint about an index. -/
def IndexFault.message : IndexFault → String
  | outOfRange => "tuple index out of range"
  | notAWord => MagnitudeFault.notAWord.message

/-- The argument at an index; a negative index counts from the end, and an index has to be a
signed word of sixty-four bits before it is looked at. -/
def Argument.atIndex (arguments : List Argument) (index : Int) : Except IndexFault Argument :=
  if !fitsWord index then .error .notAWord
  else
    let position := if index < 0 then index + arguments.length else index
    if position < 0 then .error .outOfRange
    else match arguments[position.toNat]? with
      | some argument => .ok argument
      | none => .error .outOfRange

end MexBridge
