/-!
# Cutting texts into pieces

A text is cut at every occurrence of a separator.  There is always a first piece, which may be
empty, and putting the separator back between the pieces gives the text again
(`joined_splitOnCharacter`).
-/

namespace MexBridge.Text

set_option autoImplicit false

/-- Puts a character in front of the first piece. -/
def prependToFirst (character : Char) : List (List Char) → List (List Char)
  | [] => [[character]]
  | piece :: pieces => (character :: piece) :: pieces

theorem prependToFirst_ne_nil (character : Char) (pieces : List (List Char)) :
    prependToFirst character pieces ≠ [] := by
  cases pieces <;> simp [prependToFirst]

theorem intercalate_prependToFirst (separator : List Char) (character : Char)
    {pieces : List (List Char)} (nonempty : pieces ≠ []) :
    separator.intercalate (prependToFirst character pieces) =
      character :: separator.intercalate pieces := by
  match pieces with
  | [] => exact absurd rfl nonempty
  | [_] => simp [prependToFirst]
  | _ :: _ :: _ => simp [prependToFirst, List.intercalate]

theorem intercalate_nil_cons (separator : List Char) {pieces : List (List Char)}
    (nonempty : pieces ≠ []) :
    separator.intercalate ([] :: pieces) = separator ++ separator.intercalate pieces := by
  match pieces with
  | [] => exact absurd rfl nonempty
  | _ :: _ => simp [List.intercalate]

/-- The pieces of a text between the occurrences of a character. -/
def splitOnCharacter (separator : Char) : List Char → List (List Char)
  | [] => [[]]
  | character :: rest =>
    if character = separator then [] :: splitOnCharacter separator rest
    else prependToFirst character (splitOnCharacter separator rest)

theorem splitOnCharacter_ne_nil (separator : Char) (characters : List Char) :
    splitOnCharacter separator characters ≠ [] := by
  cases characters with
  | nil => simp [splitOnCharacter]
  | cons character rest =>
    unfold splitOnCharacter
    split
    · simp
    · exact prependToFirst_ne_nil character _

theorem joined_splitOnCharacter (separator : Char) (characters : List Char) :
    [separator].intercalate (splitOnCharacter separator characters) = characters := by
  induction characters with
  | nil => rfl
  | cons character rest ih =>
    have nonempty := splitOnCharacter_ne_nil separator rest
    unfold splitOnCharacter
    split
    · next same => rw [intercalate_nil_cons _ nonempty, ih, same]; rfl
    · rw [intercalate_prependToFirst _ _ nonempty, ih]

end MexBridge.Text
