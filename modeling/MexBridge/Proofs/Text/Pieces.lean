import MexBridge.Text.Pieces
import Mathlib.Data.List.Basic

/-!
# The pieces of composed texts

A separator between two texts, the first of which does not hold it, cuts the first text off
(`splitOnCharacter_append_cons`).  A text without the separator is a single piece, and at the end
of another text it stays at the end of the last piece.
-/

set_option autoImplicit false

namespace MexBridge.Text

theorem splitOnCharacter_of_not_mem {separator : Char} {characters : List Char}
    (absent : separator ∉ characters) : splitOnCharacter separator characters = [characters] := by
  induction characters with
  | nil => rfl
  | cons character rest ih =>
    have other : character ≠ separator := fun same => absent (by simp [same])
    have later : separator ∉ rest := fun member => absent (List.mem_cons_of_mem _ member)
    rw [splitOnCharacter, if_neg other, ih later, prependToFirst]

/-- The first piece ends at the first separator. -/
theorem splitOnCharacter_append_cons {separator : Char} {piece : List Char}
    (absent : separator ∉ piece) (rest : List Char) :
    splitOnCharacter separator (piece ++ separator :: rest) =
      piece :: splitOnCharacter separator rest := by
  induction piece with
  | nil => rw [List.nil_append, splitOnCharacter, if_pos rfl]
  | cons character others ih =>
    have other : character ≠ separator := fun same => absent (by simp [same])
    have later : separator ∉ others := fun member => absent (List.mem_cons_of_mem _ member)
    rw [List.cons_append, splitOnCharacter, if_neg other, ih later, prependToFirst]

theorem mem_intercalate_iff {separator character : Char} (other : character ≠ separator)
    (pieces : List (List Char)) :
    character ∈ [separator].intercalate pieces ↔ ∃ piece ∈ pieces, character ∈ piece := by
  induction pieces with
  | nil => simp
  | cons piece rest ih =>
    cases rest with
    | nil => simp
    | cons second others =>
      rw [List.intercalate_cons_cons, List.mem_append, List.mem_append, ih, List.mem_singleton]
      simp [other]

/-- Text without the separator stays at the end of the last piece. -/
theorem getLast?_splitOnCharacter_append {separator : Char} {ending : List Char}
    (absent : separator ∉ ending) (stem : List Char) :
    ∃ front, (splitOnCharacter separator (stem ++ ending)).getLast? = some (front ++ ending) := by
  induction stem with
  | nil => exact ⟨[], by rw [List.nil_append, splitOnCharacter_of_not_mem absent]; rfl⟩
  | cons character rest ih =>
    obtain ⟨front, last⟩ := ih
    rw [List.cons_append, splitOnCharacter]
    by_cases cut : character = separator
    · exact ⟨front, by rw [if_pos cut, List.getLast?_cons, last]; rfl⟩
    · rw [if_neg cut]
      -- the character goes to the first piece, which may be the last one, too
      cases pieces : splitOnCharacter separator (rest ++ ending) with
      | nil => exact absurd pieces (splitOnCharacter_ne_nil separator _)
      | cons piece others =>
        rw [pieces] at last
        cases others with
        | nil =>
          obtain rfl : piece = front ++ ending := Option.some.inj last
          exact ⟨character :: front, rfl⟩
        | cons second later =>
          rw [List.getLast?_cons_cons] at last
          exact ⟨front, by rw [prependToFirst, List.getLast?_cons_cons, last]⟩

end MexBridge.Text
