import MexBridge.Text.CodeRange

/-!
# White space

An indent unit may hold white space only.  White space is the class of the Unicode standard
together with the four separator controls U+001C to U+001F, which makes twenty-nine characters.
`isBlank_of_isWhitespace` says that every ASCII blank is among them.
-/

namespace MexBridge.Text

set_option autoImplicit false

/-- The code points of white space, in increasing order. -/
def blankRanges : List CodeRange :=
  [⟨0x9, 0xd⟩, ⟨0x1c, 0x20⟩, ⟨0x85, 0x85⟩, ⟨0xa0, 0xa0⟩, ⟨0x1680, 0x1680⟩, ⟨0x2000, 0x200a⟩,
    ⟨0x2028, 0x2029⟩, ⟨0x202f, 0x202f⟩, ⟨0x205f, 0x205f⟩, ⟨0x3000, 0x3000⟩]

/-- Whether a character is white space. -/
def isBlank (character : Char) : Bool :=
  CodeRange.inAny blankRanges character.toNat

/-- Whether a text holds white space only; the empty text does. -/
def allBlank (text : String) : Bool :=
  text.toList.all isBlank

theorem isBlank_of_isWhitespace {character : Char} (blank : character.isWhitespace = true) :
    isBlank character = true := by
  simp only [Char.isWhitespace, Bool.or_eq_true, decide_eq_true_eq] at blank
  rcases blank with ((rfl | rfl) | rfl) | rfl <;> decide

end MexBridge.Text
