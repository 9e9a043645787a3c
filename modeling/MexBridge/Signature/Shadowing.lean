import MexBridge.Signature.Overload

/-!
# Shadowed overloads

A proxy takes the first overload whose number of arguments and tags fit, so an overload that
repeats an earlier dispatch key is never taken.  `shadowings` lists these overloads, each with the
first overload that has its key.
-/

namespace MexBridge

set_option autoImplicit false

/-- An overload that is never taken, and the earlier one that is taken instead. -/
structure Shadowing where
  shadowed : Nat
  winner : Nat
  deriving DecidableEq

/-- The positions whose key occurred before, each with the first position of that key. -/
def repeatedKeys {κ : Type} [BEq κ] (keys : List κ) : List Shadowing :=
  keys.zipIdx.filterMap fun (key, position) =>
    let first := keys.idxOf key
    if first < position then some ⟨position, first⟩ else none

/-- The shadowed overloads, in order. -/
def shadowings (overloads : List Overload) : List Shadowing :=
  repeatedKeys (overloads.map Overload.dispatchKey)

end MexBridge
