import MexBridge.Name.Symbol
import Mathlib.Data.List.Basic

/-!
# The number in an entry symbol

An entry symbol ends with an underscore and the decimal digits of a number.  Class and method names
are not restricted: they may hold underscores and digits themselves, so they cannot be told apart
in the symbol.  The number can: no digit is an underscore, hence the digits are what follows the
last underscore (`eq_of_append_mark_eq`), and decimal digits determine a natural number.

The main statement is `entrySymbol_id_inj`: equal symbols have equal numbers, whatever the names.
-/

set_option autoImplicit false

namespace MexBridge.Name

/-- What follows the last occurrence of a mark is determined by the whole. -/
theorem eq_of_append_mark_eq {α : Type} [DecidableEq α] {mark : α}
    {first second left right : List α} (freshLeft : mark ∉ left) (freshRight : mark ∉ right)
    (same : first ++ mark :: left = second ++ mark :: right) : left = right := by
  have reversed :
      left.reverse ++ mark :: first.reverse = right.reverse ++ mark :: second.reverse := by
    simpa using congrArg List.reverse same
  have taken := congrArg (List.takeWhile fun entry => decide (entry ≠ mark)) reversed
  rw [List.takeWhile_append_of_pos, List.takeWhile_append_of_pos] at taken
  · simpa using taken
  · intro entry member
    have present : entry ∈ right := List.mem_reverse.1 member
    simpa using ne_of_mem_of_not_mem present freshRight
  · intro entry member
    have present : entry ∈ left := List.mem_reverse.1 member
    simpa using ne_of_mem_of_not_mem present freshLeft

theorem underscore_not_mem_repr (id : Nat) : '_' ∉ (Nat.repr id).toList := by
  rw [Nat.toList_repr]
  exact Nat.underscore_not_in_toDigits

theorem repr_toList_inj {id other : Nat} (same : (Nat.repr id).toList = (Nat.repr other).toList) :
    id = other := by
  rw [Nat.toList_repr, Nat.toList_repr] at same
  rw [← Nat.ofDigitChars_ten_toDigits (n := id), same, Nat.ofDigitChars_ten_toDigits]

theorem toList_entrySymbol (matlabClass method : String) (id : Nat) :
    (entrySymbol matlabClass method id).toList =
      (matlabClass ++ "_" ++ method).toList ++ '_' :: (Nat.repr id).toList := by
  show (matlabClass ++ "_" ++ method ++ "_" ++ Nat.repr id).toList = _
  simp

theorem underscore_mem_entrySymbol (matlabClass method : String) (id : Nat) :
    '_' ∈ (entrySymbol matlabClass method id).toList := by
  rw [toList_entrySymbol]
  exact List.mem_append_right _ List.mem_cons_self

/-- No entry symbol is the name of the gateway. -/
theorem entrySymbol_ne_mexFunction (matlabClass method : String) (id : Nat) :
    entrySymbol matlabClass method id ≠ "mexFunction" := by
  intro same
  have member := underscore_mem_entrySymbol matlabClass method id
  rw [same] at member
  exact absurd member (by decide)

/-- **Equal entry symbols have equal numbers**, whatever the names of class and method. -/
theorem entrySymbol_id_inj {matlabClass otherClass method otherMethod : String} {id otherId : Nat}
    (same : entrySymbol matlabClass method id = entrySymbol otherClass otherMethod otherId) :
    id = otherId := by
  have lists := congrArg String.toList same
  rw [toList_entrySymbol, toList_entrySymbol] at lists
  exact repr_toList_inj
    (eq_of_append_mark_eq (underscore_not_mem_repr id) (underscore_not_mem_repr otherId) lists)

/-- Two entry symbols are equal exactly if their numbers are, and what stands in front of them. -/
theorem entrySymbol_eq_iff {matlabClass otherClass method otherMethod : String}
    {id otherId : Nat} :
    entrySymbol matlabClass method id = entrySymbol otherClass otherMethod otherId ↔
      id = otherId ∧ matlabClass ++ "_" ++ method = otherClass ++ "_" ++ otherMethod := by
  constructor
  · intro same
    obtain rfl : id = otherId := entrySymbol_id_inj same
    have characters := congrArg String.toList same
    rw [toList_entrySymbol, toList_entrySymbol] at characters
    exact ⟨rfl, String.toList_inj.1 (List.append_cancel_right characters)⟩
  · rintro ⟨rfl, fronts⟩
    rw [entrySymbol, entrySymbol, fronts]

end MexBridge.Name
