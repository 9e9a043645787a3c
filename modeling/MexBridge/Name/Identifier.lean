import MexBridge.Text.Pieces

/-!
# Identifiers and qualified names

Module and wrapper names go into C++ text and into file names, so they have to be ASCII
identifiers; a namespace is a chain of identifiers joined by `::`.  One line end is let through
after an identifier: a name is read as a line, and a line may be ended.

`splitScopes` cuts a qualified name at every `::`, from the left and without overlap.
`joinScopes_splitScopes` says that joining the pieces again gives the name back.
-/

namespace MexBridge.Name

set_option autoImplicit false

/-- The characters that begin an identifier: ASCII letters and the underscore. -/
def isInitial (character : Char) : Bool :=
  character.isAlpha || character == '_'

/-- The characters that continue an identifier: ASCII letters, digits and the underscore. -/
def isContinuing (character : Char) : Bool :=
  character.isAlphanum || character == '_'

/-- Whether characters continue an identifier to its end, before one line end at most. -/
def continuesToEnd : List Char → Bool
  | [] => true
  | character :: rest =>
    (isContinuing character && continuesToEnd rest) || (character == '\n' && rest.isEmpty)

/-- Whether characters are those of an identifier. -/
def areIdentifier : List Char → Bool
  | [] => false
  | character :: rest => isInitial character && continuesToEnd rest

/-- Whether a text is an ASCII identifier, as a line: one line end may follow. -/
def isIdentifier (text : String) : Bool :=
  areIdentifier text.toList

/-- The pieces of a qualified name between its `::` marks, found from the left. -/
def splitScopes : List Char → List (List Char)
  | [] => [[]]
  | ':' :: ':' :: rest => [] :: splitScopes rest
  | character :: rest => Text.prependToFirst character (splitScopes rest)

/-- Pieces with `::` between them. -/
def joinScopes (pieces : List (List Char)) : List Char :=
  [':', ':'].intercalate pieces

/-- Whether a text is a chain of one or more identifiers joined by `::`. -/
def isQualifiedName (text : String) : Bool :=
  (splitScopes text.toList).all areIdentifier

theorem splitScopes_ne_nil (characters : List Char) : splitScopes characters ≠ [] := by
  fun_cases splitScopes characters with
  | case1 => simp
  | case2 => simp
  | case3 character rest => exact Text.prependToFirst_ne_nil character _

theorem joinScopes_splitScopes (characters : List Char) :
    joinScopes (splitScopes characters) = characters := by
  fun_induction splitScopes characters with
  | case1 => rfl
  | case2 rest ih =>
    rw [joinScopes, Text.intercalate_nil_cons _ (splitScopes_ne_nil rest)]
    exact congrArg ([':', ':'] ++ ·) ih
  | case3 character rest _ ih =>
    rw [joinScopes, Text.intercalate_prependToFirst _ _ (splitScopes_ne_nil rest)]
    exact congrArg (character :: ·) ih

end MexBridge.Name
