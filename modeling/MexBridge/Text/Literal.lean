import MexBridge.Text.Quoted

/-!
# Plain values in messages

A declaration may hold a plain value where a return kind or a category belongs.  The complaint
about it shows the value as it was written: a text quoted, a number in decimal, and the three
words for the truth values and for nothing.
-/

namespace MexBridge

set_option autoImplicit false

/-- A plain value found in a declaration. -/
inductive Literal
  | absent
  | truth (value : Bool)
  | integer (value : Int)
  | text (value : String)
  deriving DecidableEq

namespace Literal

/-- The value as messages show it. -/
def written : Literal → String
  | absent => "None"
  | truth true => "True"
  | truth false => "False"
  | integer value => toString value
  | text value => Text.quoted value

end Literal

end MexBridge
