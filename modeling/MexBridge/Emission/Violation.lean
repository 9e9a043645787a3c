import MexBridge.Config
import MexBridge.Diagnostic
import MexBridge.FunctionTable
import MexBridge.Registry.Declaration

/-!
# What stops a session

`Violation` lists the causes for which declarations cannot be emitted, and `Violation.diagnostic`
words each of them.  A session can also be stopped by its function table, by an indentation that
cannot be made, or by a number that cannot be written; `EmissionFault` is any of these.
-/

namespace MexBridge

set_option autoImplicit false

/-- Why declarations cannot be emitted; methods are named with the MATLAB name of their class. -/
inductive Violation
  /-- A class has the MATLAB name of an earlier class. -/
  | classCollision (naming : ClassNaming)
  /-- Two methods of a class have one capitalised name. -/
  | methodCollision (matlabClass earlier later capitalized : String)
  /-- A method has no overloads. -/
  | noOverloads (matlabClass method : String)
  /-- The result of an overload cannot be marshalled. -/
  | malformedResult (matlabClass method : String) (overload : Int) (fault : ShapeFault)
  /-- The table gave an overload another number than its proxy branch calls. -/
  | numberMismatch (matlabClass method : String) (overload assigned referenced : Nat)
  deriving DecidableEq

namespace Violation

/-- The code of the kind of violation. -/
def code : Violation → String
  | classCollision .. => "E-NAME-COLLISION"
  | methodCollision .. => "E-NAME-COLLISION"
  | noOverloads .. => "E-NO-OVERLOADS"
  | malformedResult .. => "E-RETURN-SHAPE"
  | numberMismatch .. => "E-ID-DESYNC"

/-- Where the violation was found. -/
def site : Violation → Site
  | classCollision naming => { className := some naming.matlabName }
  | methodCollision matlabClass _ later _ =>
    { className := some matlabClass, methodName := some later }
  | noOverloads matlabClass method => { className := some matlabClass, methodName := some method }
  | malformedResult matlabClass method overload _ =>
    { className := some matlabClass, methodName := some method, overloadIndex := some overload }
  | numberMismatch matlabClass method overload _ _ =>
    { className := some matlabClass, methodName := some method, overloadIndex := some overload }

/-- What was found. -/
def message : Violation → String
  | classCollision naming =>
    "class " ++ Text.quoted naming.cppName ++ " has the same MATLAB name as an earlier class"
  | methodCollision _ earlier later capitalized =>
    "methods " ++ Text.quoted earlier ++ " and " ++ Text.quoted later ++
      " both map to MATLAB function " ++ Text.quoted capitalized
  | noOverloads .. => "method has no overloads"
  | malformedResult _ _ _ fault => fault.message
  | numberMismatch _ _ _ assigned referenced =>
    "function table assigned id " ++ toString assigned ++ " but proxy branch references " ++
      toString referenced

/-- The violation as a diagnostic. -/
def diagnostic (violation : Violation) : Diagnostic :=
  .ofEmission violation.message (some violation.code) violation.site

end Violation

/-- What stops an emitter. -/
inductive EmissionFault
  | violation (cause : Violation)
  | table (refusal : TableRefusal)
  | indentation (fault : IndentFault)
  | number (fault : MagnitudeFault)
  deriving DecidableEq

/-- The fault that is reported where a complaint has to be written out: that about a mismatch names
the number which the table gave, and this number may have too many digits. -/
def EmissionFault.worded : EmissionFault → EmissionFault
  | .violation (.numberMismatch matlabClass method overload assigned referenced) =>
    if isWritable assigned then
      .violation (.numberMismatch matlabClass method overload assigned referenced)
    else .number .tooManyDigits
  | fault => fault

end MexBridge
