import MexBridge.Text.Printable

/-!
# Quoted text

Messages show a name between quotation marks, so that blanks, line ends and unprintable characters
in it can be seen.  The mark is the apostrophe, unless the text holds apostrophes and no double
mark.  Inside, the mark and the backslash follow a backslash, the three common controls have their
letters, and any other unprintable character is given by its code point in two, four or eight
lower-case hexadecimal digits.
-/

namespace MexBridge.Text

set_option autoImplicit false

/-- The mark that quotes a text unless the text asks for the other one. -/
def apostrophe : Char := '\x27'

/-- The mark for a text that holds apostrophes and no double marks. -/
def doubleMark : Char := '\x22'

/-- The character that introduces an escape. -/
def backslash : Char := '\x5c'

/-- The mark that stands at both ends of a quoted text. -/
def quotationMark (characters : List Char) : Char :=
  if characters.contains apostrophe && !characters.contains doubleMark then doubleMark
  else apostrophe

/-- A number in lower-case hexadecimal digits, filled with zeros up to a width. -/
def hexadecimal (width value : Nat) : List Char :=
  (Nat.toDigits 16 value).leftpad width '0'

/-- A character given by its code point. -/
def numericEscape (code : Nat) : List Char :=
  if code ≤ 0xff then backslash :: 'x' :: hexadecimal 2 code
  else if code ≤ 0xffff then backslash :: 'u' :: hexadecimal 4 code
  else backslash :: 'U' :: hexadecimal 8 code

/-- How one character is written inside a text quoted by `mark`. -/
def quotedCharacter (mark character : Char) : List Char :=
  if character = mark ∨ character = backslash then [backslash, character]
  else if character = '\n' then [backslash, 'n']
  else if character = '\r' then [backslash, 'r']
  else if character = '\t' then [backslash, 't']
  else if isPrintable character then [character]
  else numericEscape character.toNat

/-- A text as messages show it. -/
def quoted (text : String) : String :=
  let mark := quotationMark text.toList
  String.ofList (mark :: text.toList.flatMap (quotedCharacter mark) ++ [mark])

end MexBridge.Text
