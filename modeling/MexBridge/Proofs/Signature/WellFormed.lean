import MexBridge.Signature.Overload
import Mathlib.Data.List.Basic

/-!
# Results that can be marshalled

A declared result can be marshalled when its kind is known, the number of its slots is the one that
the kind asks for, and every slot has a known category and a type other than `void`.  This says so
without reference to the order in which a check looks at the parts.

The main statement is `DeclaredResult.outcome_isOk_iff`: the check gives an outcome exactly for the
well-formed results.
-/

set_option autoImplicit false

namespace MexBridge

/-- The number of slots that a kind of result asks for; nothing fits an unknown kind. -/
def ResultKind.slotCount? : ResultKind → Option Nat
  | .nothing => some 0
  | .single => some 1
  | .pair => some 2
  | .unknown _ => none

/-- A slot of a known category and of a type that has values. -/
structure ResultSlot.IsWellFormed (slot : ResultSlot) : Prop where
  category_known : ∀ value, slot.category ≠ .unknown value
  type_ne_void : slot.type.base ≠ "void"

/-- A shape with as many slots as its kind asks for, each of them well-formed. -/
structure ResultShape.IsWellFormed (shape : ResultShape) : Prop where
  slotCount : shape.kind.slotCount? = some shape.slots.length
  slots : ∀ slot ∈ shape.slots, slot.IsWellFormed

/-- A declared result that is a well-formed shape. -/
def DeclaredResult.IsWellFormed : DeclaredResult → Prop
  | .shape declared => declared.IsWellFormed
  | .plain _ => False

theorem ResultSlot.fault?_eq_none_iff {slot : ResultSlot} :
    slot.fault? = none ↔ slot.IsWellFormed := by
  unfold ResultSlot.fault?
  constructor
  · intro sound
    split at sound
    · cases sound
    · next known =>
      refine ⟨known, ?_⟩
      intro isVoid
      simp [isVoid] at sound
  · rintro ⟨known, typed⟩
    split
    · next value unknown => exact absurd unknown (known value)
    · rw [if_neg typed]

theorem ResultShape.ofSlots_isOk_iff {slots : List ResultSlot} {outcome : Outcome} :
    (∃ checked, ofSlots slots outcome = .ok checked) ↔ ∀ slot ∈ slots, slot.IsWellFormed := by
  have sound : slots.findSome? ResultSlot.fault? = none ↔ ∀ slot ∈ slots, slot.IsWellFormed := by
    simp only [List.findSome?_eq_none_iff, ResultSlot.fault?_eq_none_iff]
  unfold ofSlots
  rw [← sound]
  cases slots.findSome? ResultSlot.fault? with
  | none => exact ⟨fun _ => rfl, fun _ => ⟨outcome, rfl⟩⟩
  | some fault =>
    constructor
    · rintro ⟨checked, impossible⟩
      cases impossible
    · intro impossible
      cases impossible

/-- With the right number of slots, the slots alone decide. -/
theorem ResultShape.outcome_isOk_of_count {shape : ResultShape}
    (count : shape.kind.slotCount? = some shape.slots.length) :
    (∃ outcome, shape.outcome = .ok outcome) ↔ ∀ slot ∈ shape.slots, slot.IsWellFormed := by
  obtain ⟨kind, slots⟩ := shape
  cases kind with
  | unknown value => cases count
  | nothing =>
    have empty : slots = [] := List.eq_nil_of_length_eq_zero (Option.some.inj count).symm
    subst empty
    constructor
    · rintro _ slot member
      cases member
    · rintro _
      exact ⟨.nothing, rfl⟩
  | single =>
    obtain ⟨slot, rfl⟩ := List.length_eq_one_iff.1 (Option.some.inj count).symm
    exact ofSlots_isOk_iff
  | pair =>
    obtain ⟨first, second, rfl⟩ := List.length_eq_two.1 (Option.some.inj count).symm
    exact ofSlots_isOk_iff

theorem ResultShape.slotCount_of_outcome {shape : ResultShape} {outcome : Outcome}
    (checked : shape.outcome = .ok outcome) :
    shape.kind.slotCount? = some shape.slots.length := by
  obtain ⟨kind, slots⟩ := shape
  unfold ResultShape.outcome at checked
  split at checked <;> first | cases checked | skip
  · simp_all [ResultKind.slotCount?]
  · simp_all [ResultKind.slotCount?]
  · simp_all [ResultKind.slotCount?]

theorem ResultShape.outcome_isOk_iff {shape : ResultShape} :
    (∃ outcome, shape.outcome = .ok outcome) ↔ shape.IsWellFormed := by
  constructor
  · rintro ⟨outcome, checked⟩
    have count := slotCount_of_outcome checked
    exact ⟨count, (outcome_isOk_of_count count).1 ⟨outcome, checked⟩⟩
  · rintro ⟨count, slots⟩
    exact (outcome_isOk_of_count count).2 slots

/-- **The check of a result succeeds exactly on the well-formed results.** -/
theorem DeclaredResult.outcome_isOk_iff {declared : DeclaredResult} :
    (∃ outcome, declared.outcome = .ok outcome) ↔ declared.IsWellFormed := by
  cases declared with
  | shape shape => exact ResultShape.outcome_isOk_iff
  | plain value =>
    constructor
    · rintro ⟨outcome, impossible⟩
      cases impossible
    · intro impossible
      exact impossible.elim

end MexBridge
