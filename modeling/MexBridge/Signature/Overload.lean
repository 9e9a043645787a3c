import MexBridge.Signature.Argument
import MexBridge.Signature.Result

/-!
# Overloads

An overload is one signature of a static method.  A proxy can tell two overloads apart only by
the number of their arguments and by the tags of these: the `Overload.dispatchKey`.
-/

namespace MexBridge

set_option autoImplicit false

/-- One signature of a static method. -/
structure Overload where
  arguments : List Argument := []
  result : DeclaredResult
  deriving DecidableEq

namespace Overload

/-- The number of arguments. -/
def arity (overload : Overload) : Nat :=
  overload.arguments.length

/-- The tags of the arguments, in order. -/
def tags (overload : Overload) : List String :=
  Argument.tags overload.arguments

/-- What a proxy can tell about an overload from the values of a call. -/
def dispatchKey (overload : Overload) : Nat × List String :=
  (overload.arity, overload.tags)

theorem length_tags (overload : Overload) : overload.tags.length = overload.arity := by
  simp [tags, Argument.tags, arity]

end Overload

end MexBridge
