import MexBridge.Text.Pieces

/-!
# Paths

A path is an anchor, where it begins, and the steps from there.  Steps that stay in place are left
out and repeated slashes count once; upward steps are kept, since what they lead to depends on the
files.  Exactly two leading slashes make an anchor of their own.

`Path.join` follows one path from another; a path with an anchor of its own replaces the other.
-/

namespace MexBridge

set_option autoImplicit false

/-- Where a path begins. -/
inductive Anchor
  /-- The working directory. -/
  | here
  /-- The root. -/
  | root
  /-- The root, written with two slashes. -/
  | doubleRoot
  deriving DecidableEq

/-- An anchor and the steps from there. -/
structure Path where
  anchor : Anchor := .here
  steps : List String := []
  deriving DecidableEq

namespace Path

/-- The step to the directory above. -/
def upward : String := ".."

/-- The anchor that the leading slashes of a text give. -/
def anchorOf : List Char → Anchor
  | '/' :: '/' :: '/' :: _ => .root
  | '/' :: '/' :: _ => .doubleRoot
  | '/' :: _ => .root
  | _ => .here

/-- Whether a piece between slashes is a step: it is not empty, and it does not stay in place. -/
def isStep (piece : String) : Bool :=
  piece ≠ "" && piece ≠ "."

/-- The path that a text gives. -/
def ofText (text : String) : Path where
  anchor := anchorOf text.toList
  steps := ((Text.splitOnCharacter '/' text.toList).map String.ofList).filter isStep

/-- The written form of a path; without anchor and steps it is a point. -/
def render (path : Path) : String :=
  let steps := String.intercalate "/" path.steps
  match path.anchor with
  | .here => if path.steps = [] then "." else steps
  | .root => "/" ++ steps
  | .doubleRoot => "//" ++ steps

/-- The path that follows a second path from the end of a first one. -/
def join (path : Path) (further : Path) : Path :=
  match further.anchor with
  | .here => { path with steps := path.steps ++ further.steps }
  | _ => further

/-- The path of a name under a path. -/
def child (path : Path) (name : String) : Path :=
  path.join (ofText name)

end Path

end MexBridge
