import MexBridge.Config
import MexBridge.Registry.Declaration

/-!
# Native functions

Every overload has a native function of its own.  All of them have one signature, so that the
gateway can call any of them by its number.  A body declares aliases for shared pointers, checks
the number of arguments, binds each argument to its input, calls the wrapped method, and moves
the result to the outputs.  Static methods have no receiver, so the inputs are read from the first
one on.

`NativeFunction.ofOverload` builds the function of an overload from its checked result, and
`NativeFunction.lines` prints it.  The margin of the body is fixed: the indent unit of the
configuration is for proxies alone.
-/

namespace MexBridge

set_option autoImplicit false

/-- The call of the wrapped method; without a result type its value is not kept. -/
structure NativeCall where
  resultType : Option String
  callee : String
  arguments : List Argument
  deriving DecidableEq

/-- The local that holds the result of the native call. -/
def resultLocal : String := "result"

/-- The call as a C++ statement. -/
def NativeCall.text (call : NativeCall) : String :=
  let invocation := call.callee ++ "(" ++ Argument.callList call.arguments ++ ");"
  match call.resultType with
  | none => invocation
  | some cppType => cppType ++ " " ++ resultLocal ++ " = " ++ invocation

/-- A statement in the body of a native function. -/
inductive Statement
  | usingNamespace (name : String)
  | sharedPointer (cppType sharedAlias : String)
  | checkArguments (label : String) (count : Nat)
  | bind (argument : Argument) (position : Nat)
  | call (call : NativeCall)
  | marshal (marshalling : Marshalling)
  deriving DecidableEq

/-- A statement in C++. -/
def Statement.text : Statement → String
  | usingNamespace name => "using namespace " ++ name ++ ";"
  | sharedPointer cppType sharedAlias =>
    "typedef boost::shared_ptr<" ++ cppType ++ "> " ++ sharedAlias ++ ";"
  | checkArguments label count =>
    "checkArguments(\"" ++ label ++ "\",nargout,nargin," ++ toString count ++ ");"
  | bind argument position => argument.unwrapping (Argument.input position)
  | call nativeCall => nativeCall.text
  | marshal marshalling => marshalling.text

/-- A native function: its symbol and its body. -/
structure NativeFunction where
  symbol : String
  body : List Statement
  deriving DecidableEq

namespace NativeFunction

/-- The parameters of every native function. -/
def boundaryParameters : String :=
  "int nargout, mxArray *out[], int nargin, const mxArray *in[]"

/-- The margin of the statements of a body. -/
def margin : String := "  "

/-- The alias declarations for the results that become handles, and for the class itself. -/
def aliasStatements (naming : ClassNaming) (outcome : Outcome) : List Statement :=
  (handleSlots outcome.slots).map (fun slot => .sharedPointer slot.type.cpp slot.sharedAlias) ++
    [.sharedPointer naming.cppName "Shared"]

/-- The call of the wrapped method. -/
def callOf (naming : ClassNaming) (method : String) (arguments : List Argument)
    (outcome : Outcome) : NativeCall where
  resultType := if outcome = .nothing then none else some outcome.cppType
  callee := naming.cppName ++ "::" ++ method
  arguments := arguments

/-- The native function of an overload whose result was checked. -/
def ofOverload (config : Config) (naming : ClassNaming) (method symbol : String)
    (arguments : List Argument) (outcome : Outcome) : NativeFunction where
  symbol := symbol
  body :=
    config.usingNamespaces.map .usingNamespace ++
    aliasStatements naming outcome ++
    [.checkArguments (naming.matlabName ++ "." ++ method) arguments.length] ++
    arguments.mapIdx (fun position argument => .bind argument position) ++
    [.call (callOf naming method arguments outcome)] ++
    (outcome.marshalling resultLocal).map .marshal

/-- The function in C++, followed by an empty line. -/
def lines (function : NativeFunction) : List String :=
  ["void " ++ function.symbol ++ "(" ++ boundaryParameters ++ ")", "\x7b"] ++
    function.body.map (fun statement => margin ++ statement.text) ++ ["\x7d", ""]

end NativeFunction

end MexBridge
