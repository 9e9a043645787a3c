import MexBridge.Proofs.Proxy.Selection

/-!
# Overloads behind a wider class

The report of shadowed overloads compares tags for equality.  In MATLAB the tags are not all
independent: each value of class `double` is also `numeric`.  `NumericClasses` says this of a
relation between values and tags, and that nothing else relates two different tags.

Under it a tag accepts what another one does exactly if it is the same tag, or `numeric` in the
place of `double` (`NumericClasses.tagCovers_iff`), and an overload leaves nothing to a later one
exactly if its tags do so place by place (`NumericClasses.covers_iff`).  The overloads that no call
takes are therefore of two kinds, those that repeat the tags of an earlier overload and those that
an earlier overload widens; `not_reaches_iff_numeric` says so of the chain that is emitted, if no
tag holds an apostrophe, and that the report names the first kind only.  `not_reaches_unreported` is
the smallest chain with an overload of the second kind, and one with tags that hold apostrophes.
-/

set_option autoImplicit false

namespace MexBridge

universe u

/-- A relation between values and tags in which doubles are numeric and nothing else is known of two
different tags: each tag has a value that is of no further class. -/
structure NumericClasses {Value : Type u} (isa : Value → String → Prop) : Prop where
  numeric_of_double : ∀ value, isa value "double" → isa value "numeric"
  exists_only : ∀ tag, ∃ value, isa value tag ∧
    ∀ other, isa value other → other = tag ∨ other = "numeric" ∧ tag = "double"

/-- A tag that every value of another one has. -/
def TagCovers (wide tag : String) : Prop :=
  wide = tag ∨ wide = "numeric" ∧ tag = "double"

/-- An overload whose tags cover those of another, place by place. -/
def Overload.Covers (wide overload : Overload) : Prop :=
  List.Forall₂ TagCovers wide.tags overload.tags

/-- An overload that covers another one with different tags: at some place it has `numeric` where
the other has `double`. -/
structure Overload.Widens (wide overload : Overload) : Prop where
  covers : wide.Covers overload
  different : wide.tags ≠ overload.tags

theorem Overload.covers_of_tags_eq {wide overload : Overload} (same : wide.tags = overload.tags) :
    wide.Covers overload := by
  rw [Covers, same]
  exact List.forall₂_same.2 fun _ _ => .inl rfl

namespace NumericClasses

variable {Value : Type u} {isa : Value → String → Prop} (classes : NumericClasses isa)
include classes

/-- A tag covers another one exactly if all values of the other are of it. -/
theorem tagCovers_iff {wide tag : String} :
    TagCovers wide tag ↔ ∀ value, isa value tag → isa value wide := by
  constructor
  · rintro (rfl | ⟨rfl, rfl⟩) value own
    · exact own
    · exact classes.numeric_of_double value own
  · intro wider
    obtain ⟨value, own, only⟩ := classes.exists_only tag
    exact only wide (wider value own)

/-- Tags have values that are only of tags which cover them. -/
theorem exists_values (tags : List String) :
    ∃ values : List Value, List.Forall₂ isa values tags ∧
      ∀ wide, List.Forall₂ isa values wide → List.Forall₂ TagCovers wide tags := by
  induction tags with
  | nil =>
    refine ⟨[], .nil, fun wide accepted => ?_⟩
    cases accepted
    exact .nil
  | cons tag rest ih =>
    obtain ⟨value, own, only⟩ := classes.exists_only tag
    obtain ⟨values, owns, onlys⟩ := ih
    refine ⟨value :: values, .cons own owns, fun wide accepted => ?_⟩
    cases accepted with
    | cons first later => exact .cons (only _ first) (onlys _ later)

theorem forall₂_of_covers {values : List Value} {wide tags : List String}
    (covers : List.Forall₂ TagCovers wide tags) (accepted : List.Forall₂ isa values tags) :
    List.Forall₂ isa values wide := by
  induction covers generalizing values with
  | nil => exact accepted
  | cons covered _ ih =>
    cases accepted with
    | cons first later => exact .cons (classes.tagCovers_iff.1 covered _ first) (ih later)

/-- **An overload covers another one exactly if it accepts all that the other accepts.** -/
theorem covers_iff {wide overload : Overload} :
    wide.Covers overload ↔
      ∀ values : List Value, overload.Accepts isa values → wide.Accepts isa values := by
  simp only [Overload.accepts_iff_forall₂]
  constructor
  · intro covers values accepted
    exact classes.forall₂_of_covers covers accepted
  · intro wider
    obtain ⟨values, owns, onlys⟩ := classes.exists_values overload.tags
    exact onlys _ (wider values owns)

variable {chain : Chain} {overloads : List Overload} {position : Nat} {overload : Overload}
  (tests : chain.Tests overloads) (unquoted : ∀ overload ∈ overloads, Unquoted overload.tags)
  (listed : overloads[position]? = some overload)
include tests unquoted listed

/-- A chain never takes an overload exactly if an earlier one covers it. -/
theorem not_reaches_iff_covers :
    ¬ chain.Reaches isa position ↔ ∃ earlier < position, ∃ other,
      overloads[earlier]? = some other ∧ other.Covers overload := by
  constructor
  · intro unreached
    by_contra uncovered
    -- these values are of the overload's tags and of no tag that does not cover one of them
    obtain ⟨values, owns, onlys⟩ := classes.exists_values overload.tags
    apply unreached
    refine ⟨values, (tests.takes_iff unquoted listed).2
      ⟨Overload.accepts_iff_forall₂.2 owns, ?_⟩⟩
    intro earlier before other there accepts
    have owned := Overload.accepts_iff_forall₂.1 accepts
    exact uncovered ⟨earlier, before, other, there, onlys _ owned⟩
  · rintro ⟨earlier, before, other, there, covers⟩
    exact tests.not_reaches_of_earlier unquoted listed before there (classes.covers_iff.1 covers)

/-- What a chain never takes repeats the tags of an earlier overload or is widened by one. -/
theorem not_reaches_iff_widens :
    ¬ chain.Reaches isa position ↔ position ∈ shadowedPositions overloads ∨
      ∃ earlier < position, ∃ other, overloads[earlier]? = some other ∧ other.Widens overload := by
  rw [classes.not_reaches_iff_covers tests unquoted listed, mem_shadowedPositions_iff listed]
  constructor
  · rintro ⟨earlier, before, other, there, covers⟩
    by_cases same : other.tags = overload.tags
    · exact .inl ⟨earlier, before, other, there, same⟩
    · exact .inr ⟨earlier, before, other, there, covers, same⟩
  · rintro (⟨earlier, before, other, there, same⟩ | ⟨earlier, before, other, there, widens⟩)
    · exact ⟨earlier, before, other, there, Overload.covers_of_tags_eq same⟩
    · exact ⟨earlier, before, other, there, widens.covers⟩

end NumericClasses

/-- **The overloads that no call takes.**  If doubles are numeric and no other classes are related,
and no tag holds an apostrophe, then an emitted chain never takes an overload exactly if it is
reported, or if an earlier overload widens it.  Overloads with results in order have such a chain,
unless they are too many for their numbers.  A report is made, and logged where the chain is
written, exactly if an earlier overload has the same dispatch key. -/
theorem not_reaches_iff_numeric {Value : Type u} {isa : Value → String → Prop}
    (classes : NumericClasses isa) (overloads : List Overload) :
    ((∀ overload ∈ overloads, Unquoted overload.tags) →
      ∀ chain : Chain, Emission.Emits overloads chain →
      ∀ (position : Nat) (overload : Overload), overloads[position]? = some overload →
        (¬ chain.Reaches isa position ↔ position ∈ shadowedPositions overloads ∨
          ∃ earlier < position, ∃ other, overloads[earlier]? = some other ∧
            other.Widens overload)) ∧
    (overloads ≠ [] → (∀ overload ∈ overloads, overload.result.IsWellFormed) →
      overloads.length ≤ writingBound → ∃ chain, Emission.Emits overloads chain) ∧
    (∀ (position : Nat) (overload : Overload), overloads[position]? = some overload →
      (position ∈ shadowedPositions overloads ↔ ∃ earlier < position, ∃ other,
        overloads[earlier]? = some other ∧ other.dispatchKey = overload.dispatchKey)) ∧
    Emission.WritesChain overloads := by
  refine ⟨?_, Emission.exists_emits, ?_, Emission.writesChain overloads⟩
  · intro unquoted chain emitted position overload listed
    exact classes.not_reaches_iff_widens emitted.tests unquoted listed
  · intro position overload listed
    simp only [mem_shadowedPositions_iff listed, Overload.dispatchKey_eq_iff]

/-! ## Values that are named by their class -/

/-- A value that is named by its class is of this class, and a double is also numeric. -/
def IsNamed (value tag : String) : Prop :=
  tag = value ∨ tag = "numeric" ∧ value = "double"

theorem numericClasses_isNamed : NumericClasses IsNamed where
  numeric_of_double value double := by
    rcases double with rfl | ⟨impossible, _⟩
    · exact .inr ⟨rfl, rfl⟩
    · exact absurd impossible (by decide)
  exists_only tag := ⟨tag, .inl rfl, fun _ own => own⟩

/-- Overloads without results for one argument of each of some types. -/
def scaling (types : List String) : List Overload :=
  (types.map fun type => [type]).map taking

theorem exists_emits_scaling (types : List String) (overloaded : types ≠ [])
    (few : types.length ≤ writingBound) : ∃ chain, Emission.Emits (scaling types) chain :=
  exists_emits_taking _ (by simpa using overloaded) (by rwa [List.length_map])

/-- Doubles never reach their overload if one for integers comes first, and neither does a repeated
overload; only the latter is reported. -/
theorem not_reaches_iff_numeric_repeated :
    NumericClasses IsNamed ∧
    (∀ overload ∈ scaling ["int", "string", "double", "string"], Unquoted overload.tags) ∧
    shadowings (scaling ["int", "string", "double", "string"]) = [⟨3, 1⟩] ∧
    ∃ chain : Chain, Emission.Emits (scaling ["int", "string", "double", "string"]) chain ∧
      ¬ chain.Reaches IsNamed 2 ∧ ¬ chain.Reaches IsNamed 3 := by
  have unquoted : ∀ overload ∈ scaling ["int", "string", "double", "string"],
      Unquoted overload.tags := by decide
  have reported : shadowings (scaling ["int", "string", "double", "string"]) = [⟨3, 1⟩] := by
    decide
  obtain ⟨chain, emitted⟩ := exists_emits_scaling ["int", "string", "double", "string"] (by decide)
    (by decide +kernel)
  have unreached := (not_reaches_iff_numeric numericClasses_isNamed
    (scaling ["int", "string", "double", "string"])).1 unquoted chain emitted
  refine ⟨numericClasses_isNamed, unquoted, reported, chain, emitted, ?_, ?_⟩
  · refine (unreached 2 _ rfl).2 (.inr ⟨0, by decide, _, rfl, ?_⟩)
    exact ⟨.cons (.inr ⟨rfl, rfl⟩) .nil, by decide⟩
  · refine (unreached 3 _ rfl).2 (.inl ?_)
    rw [shadowedPositions, reported]
    exact List.mem_singleton.2 rfl

/-- Overloads that no call takes and the report does not name: an argument that takes any number leaves
nothing to one that takes doubles, and of two overloads whose tags print as one condition the second
one is lost, although the first does not widen it. -/
theorem not_reaches_unreported :
    NumericClasses IsNamed ∧
    ((∀ overload ∈ scaling ["int", "double"], Unquoted overload.tags) ∧
      1 < (scaling ["int", "double"]).length ∧ shadowings (scaling ["int", "double"]) = [] ∧
      ∃ chain : Chain, Emission.Emits (scaling ["int", "double"]) chain ∧
        ¬ chain.Reaches IsNamed 1) ∧
    1 < (quotedTypes.map taking).length ∧ shadowings (quotedTypes.map taking) = [] ∧
      (∀ wide overload, (quotedTypes.map taking)[0]? = some wide →
        (quotedTypes.map taking)[1]? = some overload → ¬ wide.Covers overload) ∧
      ∃ chain : Chain, Emission.Emits (quotedTypes.map taking) chain ∧
        ¬ chain.Reaches IsNamed 1 := by
  refine ⟨numericClasses_isNamed, ?widened, by decide, by decide, ?apart, ?quoted⟩
  case widened =>
    have unquoted : ∀ overload ∈ scaling ["int", "double"], Unquoted overload.tags := by decide
    obtain ⟨chain, emitted⟩ := exists_emits_scaling ["int", "double"] (by decide)
      (by decide +kernel)
    refine ⟨unquoted, by decide, by decide, chain, emitted, ?_⟩
    apply (numericClasses_isNamed.not_reaches_iff_covers emitted.tests unquoted rfl).2
    exact ⟨0, by decide, _, rfl, .cons (.inr ⟨rfl, rfl⟩) .nil⟩
  case apart =>
    intro wide overload first second covers
    cases first
    cases second
    rcases covers with _ | ⟨same | ⟨_, double⟩, _⟩
    · exact absurd same (by decide)
    · exact absurd double (by decide)
  case quoted =>
    obtain ⟨chain, emitted⟩ := exists_emits_taking quotedTypes (by decide) (by decide +kernel)
    exact ⟨chain, emitted, emitted.not_reaches_quoted IsNamed⟩

end MexBridge
