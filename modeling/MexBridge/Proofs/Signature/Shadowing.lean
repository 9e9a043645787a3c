import MexBridge.Signature.Shadowing
import Mathlib.Data.List.Basic
import Mathlib.Order.Bounds.Basic

/-!
# The report of shadowed overloads

The report lists the positions at which a dispatch key is repeated, each with the first position of
that key.  The keys themselves do not matter for this, so the lemmas are about `repeatedKeys` for
keys of any kind: an entry is listed exactly if its key occurs before it, and its winner is the
least position of the key (`mem_repeatedKeys_iff`); the entries come in increasing order
(`pairwise_repeatedKeys`); no winner is itself reported (`not_shadowed_winner`); and renaming the
keys one to one changes nothing (`repeatedKeys_map`).

`dispatchKey_eq_iff` says that two overloads have one dispatch key exactly if they have the same
tags, since the arity is the number of the tags.
-/

set_option autoImplicit false

namespace MexBridge

/-! ## Repeated keys -/

section RepeatedKeys

variable {κ : Type} [BEq κ] {keys : List κ} {entry : Shadowing}

theorem mem_repeatedKeys :
    entry ∈ repeatedKeys keys ↔ ∃ key, keys[entry.shadowed]? = some key ∧
      keys.idxOf key = entry.winner ∧ entry.winner < entry.shadowed := by
  rw [repeatedKeys, List.mem_filterMap]
  constructor
  · rintro ⟨⟨key, position⟩, listed, made⟩
    obtain ⟨before, same⟩ := Option.ite_none_right_eq_some.1 made
    cases same
    exact ⟨key, List.mem_zipIdx_iff_getElem?.1 listed, rfl, before⟩
  · rintro ⟨key, found, first, before⟩
    refine ⟨(key, entry.shadowed), List.mem_zipIdx_iff_getElem?.2 found, ?_⟩
    simp only [first, before, if_true]

/-- A winner comes before the position that it is reported for. -/
theorem winner_lt_shadowed (listed : entry ∈ repeatedKeys keys) :
    entry.winner < entry.shadowed := by
  obtain ⟨_, _, _, before⟩ := mem_repeatedKeys.1 listed
  exact before

/-- The report comes in increasing order of the positions. -/
theorem pairwise_repeatedKeys (keys : List κ) :
    (repeatedKeys keys).Pairwise fun first second => first.shadowed < second.shadowed := by
  have increasing : keys.zipIdx.Pairwise fun first second => first.2 < second.2 := by
    apply List.pairwise_map.1
    rw [List.zipIdx_map_snd]
    exact List.pairwise_lt_range' 1
  apply increasing.filterMap
  intro first second before made madeFirst other madeSecond
  obtain ⟨_, sameFirst⟩ := Option.ite_none_right_eq_some.1 madeFirst
  obtain ⟨_, sameSecond⟩ := Option.ite_none_right_eq_some.1 madeSecond
  cases sameFirst
  cases sameSecond
  exact before

variable [LawfulBEq κ]

/-- The index of a key that occurs is the least of its positions. -/
theorem isLeast_idxOf {key : κ} (member : key ∈ keys) :
    IsLeast {position | keys[position]? = some key} (keys.idxOf key) := by
  refine ⟨List.getElem?_idxOf member, ?_⟩
  intro position found
  by_contra before
  obtain ⟨below, same⟩ := List.getElem?_eq_some_iff.1 found
  have missed := List.not_of_lt_findIdx (Nat.lt_of_not_le before)
  exact absurd same (by simpa using missed)

/-- **A key is reported exactly where it occurred before**, with its least position. -/
theorem mem_repeatedKeys_iff :
    entry ∈ repeatedKeys keys ↔ ∃ key, keys[entry.shadowed]? = some key ∧
      (∃ earlier < entry.shadowed, keys[earlier]? = some key) ∧
      IsLeast {position | keys[position]? = some key} entry.winner := by
  rw [mem_repeatedKeys]
  constructor
  · rintro ⟨key, found, first, before⟩
    have least := isLeast_idxOf (List.mem_of_getElem? found)
    rw [first] at least
    exact ⟨key, found, ⟨entry.winner, before, least.1⟩, least⟩
  · rintro ⟨key, found, ⟨earlier, before, occurs⟩, least⟩
    refine ⟨key, found, ?_, Nat.lt_of_le_of_lt (least.2 occurs) before⟩
    exact (isLeast_idxOf (List.mem_of_getElem? found)).unique least

/-- No winner is itself reported. -/
theorem not_shadowed_winner {other : Shadowing} (listed : entry ∈ repeatedKeys keys)
    (reported : other ∈ repeatedKeys keys) : other.shadowed ≠ entry.winner := by
  intro same
  obtain ⟨key, _, _, least⟩ := mem_repeatedKeys_iff.1 listed
  obtain ⟨again, found, ⟨earlier, before, occurs⟩, _⟩ := mem_repeatedKeys_iff.1 reported
  have own : keys[entry.winner]? = some key := least.1
  rw [same, own] at found
  cases found
  exact absurd (least.2 occurs) (Nat.not_le_of_lt (same ▸ before))

/-- A position is reported exactly if its key occurs before it. -/
theorem shadowed_mem_repeatedKeys_iff {position : Nat} :
    position ∈ (repeatedKeys keys).map Shadowing.shadowed ↔
      ∃ earlier < position, ∃ key, keys[position]? = some key ∧ keys[earlier]? = some key := by
  rw [List.mem_map]
  constructor
  · rintro ⟨entry, listed, rfl⟩
    obtain ⟨key, found, ⟨earlier, before, occurs⟩, _⟩ := mem_repeatedKeys_iff.1 listed
    exact ⟨earlier, before, key, found, occurs⟩
  · rintro ⟨earlier, before, key, found, occurs⟩
    refine ⟨⟨position, keys.idxOf key⟩, mem_repeatedKeys_iff.2 ?_, rfl⟩
    exact ⟨key, found, ⟨earlier, before, occurs⟩, isLeast_idxOf (List.mem_of_getElem? found)⟩

end RepeatedKeys

theorem idxOf_map_of_injective_on {α β : Type} [BEq α] [LawfulBEq α] [BEq β] [LawfulBEq β]
    (rename : α → β) {keys : List α} {key : α}
    (apart : ∀ other ∈ keys, rename other = rename key → other = key) :
    (keys.map rename).idxOf (rename key) = keys.idxOf key := by
  induction keys with
  | nil => rfl
  | cons first rest ih =>
    have later := ih fun other member => apart other (List.mem_cons_of_mem _ member)
    have same : (rename first == rename key) = (first == key) := by
      rw [Bool.eq_iff_iff, beq_iff_eq, beq_iff_eq]
      exact ⟨apart first List.mem_cons_self, congrArg rename⟩
    rw [List.map_cons, List.idxOf_cons, List.idxOf_cons, same, later]

/-- Renaming the keys one to one does not change which of them are repeated. -/
theorem repeatedKeys_map {α β : Type} [BEq α] [LawfulBEq α] [BEq β] [LawfulBEq β]
    (rename : α → β) {keys : List α}
    (apart : ∀ key ∈ keys, ∀ other ∈ keys, rename other = rename key → other = key) :
    repeatedKeys (keys.map rename) = repeatedKeys keys := by
  rw [repeatedKeys, repeatedKeys, List.zipIdx_map, List.filterMap_map]
  apply List.filterMap_congr
  rintro ⟨key, position⟩ member
  have listed : key ∈ keys := by
    have found := List.mem_zipIdx_iff_getElem?.1 member
    exact List.mem_of_getElem? found
  have first := idxOf_map_of_injective_on rename (apart key listed)
  simp only [Function.comp_apply, Prod.map_apply, id_eq, first]

/-! ## Repeated dispatch keys -/

/-- Two overloads have one dispatch key exactly if they have the same tags. -/
theorem Overload.dispatchKey_eq_iff {first second : Overload} :
    first.dispatchKey = second.dispatchKey ↔ first.tags = second.tags := by
  constructor
  · intro same
    exact congrArg Prod.snd same
  · intro same
    rw [dispatchKey, dispatchKey, ← first.length_tags, ← second.length_tags, same]

/-- The positions of the overloads that are reported. -/
def shadowedPositions (overloads : List Overload) : List Nat :=
  (shadowings overloads).map Shadowing.shadowed

section Shadowings

variable {overloads : List Overload}

/-- **An entry of the report** names an overload whose key occurs before, and the least position of
this key. -/
theorem mem_shadowings_iff {entry : Shadowing} :
    entry ∈ shadowings overloads ↔ ∃ overload, overloads[entry.shadowed]? = some overload ∧
      (∃ earlier < entry.shadowed, ∃ other, overloads[earlier]? = some other ∧
        other.dispatchKey = overload.dispatchKey) ∧
      IsLeast {position | ∃ other, overloads[position]? = some other ∧
        other.dispatchKey = overload.dispatchKey} entry.winner := by
  rw [shadowings, mem_repeatedKeys_iff]
  simp only [List.getElem?_map, Option.map_eq_some_iff]
  constructor
  · rintro ⟨_, ⟨overload, listed, rfl⟩, repeated, least⟩
    exact ⟨overload, listed, repeated, least⟩
  · rintro ⟨overload, listed, repeated, least⟩
    exact ⟨overload.dispatchKey, ⟨overload, listed, rfl⟩, repeated, least⟩

/-- An overload is reported exactly if an earlier one has the same tags. -/
theorem mem_shadowedPositions_iff {position : Nat} {overload : Overload}
    (listed : overloads[position]? = some overload) :
    position ∈ shadowedPositions overloads ↔
      ∃ earlier < position, ∃ other, overloads[earlier]? = some other ∧
        other.tags = overload.tags := by
  rw [shadowedPositions, shadowings, shadowed_mem_repeatedKeys_iff]
  simp only [List.getElem?_map, listed, Option.map_some, Option.some.injEq, exists_eq_left',
    Option.map_eq_some_iff, Overload.dispatchKey_eq_iff]

/-- No position is reported twice. -/
theorem nodup_shadowedPositions (overloads : List Overload) :
    (shadowedPositions overloads).Nodup := by
  apply List.pairwise_map.2
  exact (pairwise_repeatedKeys _).imp fun before => Nat.ne_of_lt before

end Shadowings

end MexBridge
