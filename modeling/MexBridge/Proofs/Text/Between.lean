import MexBridge.Text.Blank
import Mathlib.Data.List.Basic

/-!
# Texts between two others

Generated lines are fixed texts around a name or a number.  `Text.between?` reads such a line: it
gives what stands between an opening and a closing, and `between?_eq_some_iff` says that it finds
nothing but that.  A line that begins or ends otherwise is not read (`between?_of_head`,
`between?_of_last`).

`Text.numeral?` reads a number, and `Text.unindented` is a line without the blanks in front of it.
-/

set_option autoImplicit false

namespace MexBridge.Text

/-- What stands between an opening and a closing, if a text has both. -/
def between? (opening closing text : String) : Option String :=
  ((text.toList.dropPrefix? opening.toList).bind (·.dropSuffix? closing.toList)).map String.ofList

theorem between?_eq_some_iff {opening closing text inner : String} :
    between? opening closing text = some inner ↔ text = opening ++ inner ++ closing := by
  rw [between?, Option.map_eq_some_iff]
  constructor
  · rintro ⟨characters, found, rfl⟩
    obtain ⟨rest, first, second⟩ := Option.bind_eq_some_iff.1 found
    obtain ⟨front, whole, sameFront⟩ := List.dropPrefix?_eq_some_iff.1 first
    obtain ⟨back, split, sameBack⟩ := List.dropSuffix?_eq_some_iff.1 second
    rw [eq_of_beq sameFront] at whole
    rw [eq_of_beq sameBack] at split
    apply String.toList_inj.1
    rw [whole, split]
    simp
  · rintro rfl
    refine ⟨inner.toList, Option.bind_eq_some_iff.2 ⟨inner.toList ++ closing.toList, ?_, ?_⟩, ?_⟩
    · exact List.dropPrefix?_eq_some_iff.2 ⟨opening.toList, by simp, by simp⟩
    · exact List.dropSuffix?_eq_some_iff.2 ⟨closing.toList, by simp, by simp⟩
    · exact String.ofList_toList

@[simp] theorem between?_append (opening closing inner : String) :
    between? opening closing (opening ++ inner ++ closing) = some inner :=
  between?_eq_some_iff.2 rfl

theorem between?_eq_none_iff {opening closing text : String} :
    between? opening closing text = none ↔ ∀ inner, text ≠ opening ++ inner ++ closing := by
  constructor
  · intro unread inner same
    rw [between?_eq_some_iff.2 same] at unread
    cases unread
  · intro different
    cases found : between? opening closing text with
    | none => rfl
    | some inner => exact absurd (between?_eq_some_iff.1 found) (different inner)

/-- A text that begins with another character than the opening is not read. -/
theorem between?_of_head {opening closing text : String} (character : Char)
    (begins : opening.toList.head? = some character)
    (different : text.toList.head? ≠ some character) : between? opening closing text = none := by
  refine between?_eq_none_iff.2 fun inner same => different ?_
  rw [same, String.toList_append, String.toList_append, List.append_assoc, List.head?_append,
    begins]
  rfl

/-- A text that ends with another character than the closing is not read. -/
theorem between?_of_last {opening closing text : String} (character : Char)
    (ends : closing.toList.getLast? = some character)
    (different : text.toList.getLast? ≠ some character) :
    between? opening closing text = none := by
  refine between?_eq_none_iff.2 fun inner same => different ?_
  rw [same, String.toList_append, List.getLast?_append, ends]
  rfl

/-- A text is not read either if a piece at its end ends with another character. -/
theorem between?_of_ending {opening closing front ending : String} {character last : Char}
    (ends : closing.toList.getLast? = some character) (final : ending.toList.getLast? = some last)
    (different : last ≠ character) : between? opening closing (front ++ ending) = none := by
  apply between?_of_last character ends
  rw [String.toList_append, List.getLast?_append, final]
  simpa using different

/-- A text is not read if a piece at its end differs from a piece of that length at the end of the
closing. -/
theorem between?_of_tail {opening front ending : String} (lead tail : String)
    (length : ending.toList.length = tail.toList.length) (different : ending ≠ tail) :
    between? opening (lead ++ tail) (front ++ ending) = none := by
  refine between?_eq_none_iff.2 fun inner same => different ?_
  rw [← String.append_assoc] at same
  have characters := congrArg String.toList same
  rw [String.toList_append, String.toList_append] at characters
  exact String.toList_inj.1 (List.append_inj' characters length).2

/-! ## Numerals -/

/-- The number that decimal digits stand for. -/
def numeral? (digits : List Char) : Option Nat :=
  if !digits.isEmpty && digits.all Char.isDigit then
    some (Nat.ofDigitChars 10 digits 0)
  else none

theorem isDigit_of_mem_toString {number : Nat} {digit : Char}
    (member : digit ∈ (toString number).toList) : digit.isDigit = true :=
  Nat.isDigit_of_mem_toDigits (by decide) (by decide) (Nat.toList_repr ▸ member)

theorem numeral?_toString (number : Nat) : numeral? (toString number).toList = some number := by
  have digits : (toString number).toList = Nat.toDigits 10 number := Nat.toList_repr
  have nonempty : (toString number).toList.isEmpty = false :=
    List.isEmpty_eq_false_iff.2 (digits ▸ Nat.toDigits_ne_nil)
  have all : (toString number).toList.all Char.isDigit = true :=
    List.all_eq_true.2 fun _ => isDigit_of_mem_toString
  rw [numeral?, nonempty, all, digits, Nat.ofDigitChars_ten_toDigits]
  rfl

/-! ## Indented lines -/

/-- A line without the blanks in front of it. -/
def unindented (line : String) : String :=
  String.ofList (line.toList.dropWhile isBlank)

/-- Blanks in front of a content that does not begin with one are taken away. -/
theorem unindented_append {indentation content : String} (blank : allBlank indentation = true)
    (begins : ∀ character ∈ content.toList.head?, isBlank character = false) :
    unindented (indentation ++ content) = content := by
  have all : ∀ character ∈ indentation.toList, isBlank character = true :=
    List.all_eq_true.1 blank
  have kept : content.toList.dropWhile isBlank = content.toList := by
    cases characters : content.toList with
    | nil => rfl
    | cons first rest =>
      rw [characters] at begins
      rw [List.dropWhile_cons_of_neg]
      rw [begins first rfl]
      exact Bool.false_ne_true
  rw [unindented, String.toList_append, List.dropWhile_append_of_pos all, kept,
    String.ofList_toList]

end MexBridge.Text
