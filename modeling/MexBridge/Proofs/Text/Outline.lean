import Mathlib.Data.List.Basic

/-!
# Outlines of numbered texts

A text that is written from a first number on has lines that never change, and lines that show a
number at a certain distance from the first one.  A `LineForm` is one of these two, and a
`NumberHole` is where the number goes: between a front and a back.

Lines are `Outlined` if they are filled from the same forms for every first number; their holes are
listed on the way.  Outlined lines can be put together, one list after the other
(`Outlined.append`), and one for each entry of a list that is numbered through
(`Outlined.numbered_flatMap`).
-/

set_option autoImplicit false

namespace MexBridge

/-- The place of a number in a line, and how far the number is from the first one. -/
structure NumberHole where
  front : String
  offset : Nat
  back : String
  deriving DecidableEq

/-- The line with its number. -/
def NumberHole.filled (first : Nat) (hole : NumberHole) : String :=
  hole.front ++ toString (first + hole.offset) ++ hole.back

/-- A line of a numbered text. -/
inductive LineForm
  | fixed (text : String)
  | numbered (hole : NumberHole)
  deriving DecidableEq

namespace LineForm

/-- The line for a first number. -/
def filled (first : Nat) : LineForm → String
  | fixed text => text
  | numbered hole => hole.filled first

/-- The hole of a line. -/
def hole? : LineForm → Option NumberHole
  | fixed _ => none
  | numbered hole => some hole

end LineForm

/-- Lines are filled from the same forms for every first number, and these forms have the holes. -/
def Outlined (lines : Nat → List String) (holes : List NumberHole) : Prop :=
  ∃ forms : List LineForm, (∀ first, lines first = forms.map (LineForm.filled first)) ∧
    forms.filterMap LineForm.hole? = holes

namespace Outlined

theorem fixed (lines : List String) : Outlined (fun _ => lines) [] := by
  refine ⟨lines.map .fixed, fun first => ?_, ?_⟩
  · rw [List.map_map]
    exact (List.map_id lines).symm
  · rw [List.filterMap_map]
    exact List.filterMap_eq_nil_iff.2 fun _ _ => rfl

theorem hole (hole : NumberHole) : Outlined (fun first => [hole.filled first]) [hole] :=
  ⟨[.numbered hole], fun _ => rfl, rfl⟩

theorem append {lines further : Nat → List String} {holes others : List NumberHole}
    (front : Outlined lines holes) (back : Outlined further others) :
    Outlined (fun first => lines first ++ further first) (holes ++ others) := by
  obtain ⟨forms, filled, rfl⟩ := front
  obtain ⟨later, filledLater, rfl⟩ := back
  refine ⟨forms ++ later, fun first => ?_, List.filterMap_append⟩
  simp only [filled, filledLater, List.map_append]

theorem congr {lines same : Nat → List String} {holes : List NumberHole}
    (outlined : Outlined lines holes) (equal : ∀ first, same first = lines first) :
    Outlined same holes := by
  rwa [funext equal]

/-- The lines of entries that are numbered through, where each entry has its outline. -/
theorem numbered_flatMap {α : Type} {entries : List α} (lines : α → Nat → List String)
    (holes : α → Nat → List NumberHole)
    (each : ∀ entry ∈ entries, ∀ offset,
      Outlined (fun first => lines entry (first + offset)) (holes entry offset)) (offset : Nat) :
    Outlined
      (fun first => (entries.zipIdx (first + offset)).flatMap fun (entry, id) => lines entry id)
      ((entries.zipIdx offset).flatMap fun (entry, place) => holes entry place) := by
  induction entries generalizing offset with
  | nil => exact fixed []
  | cons entry rest ih =>
    obtain ⟨own, others⟩ := List.forall_mem_cons.1 each
    refine ((own offset).append (ih others (offset + 1))).congr fun first => ?_
    rw [List.zipIdx_cons, List.flatMap_cons, Nat.add_assoc]

end Outlined

end MexBridge
