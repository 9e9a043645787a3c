import MexBridge.Proofs.Emission.MethodCourse
import MexBridge.Proofs.Reading.Chain
import MexBridge.Proofs.Signature.Shadowing
import MexBridge.Proofs.Traversal.Listing
import Mathlib.Data.List.Forall2

/-!
# Which overloads a call can reach

The lines of a proxy function show a chain of branches, one for each overload, and a call takes the
first whose condition holds.  `Emission.Emits` says of a chain that it was read from the lines that
are written for a method with some overloads; where no tag holds an apostrophe, such a chain takes
the first overload that accepts the values (`Chain.Tests.takes_iff`).

The main statement is `shadowings_exact`.  The report of shadowed overloads names the positions that
repeat a dispatch key, in order, each with the first position of the key (`ListsRepeated`).  No call
takes a reported overload, whatever it means that a value is of a class.  If every value is of one
class only and no tag holds an apostrophe, every other overload is taken by some call, namely by
each call with values of its own tags (`Chain.Spares`).  With apostrophes two tests can look like
one, and `shadowings_exact_quoted` shows an overload that is lost without a report.

Where a method is emitted, such a chain is written, and each entry of the report is in the log
(`Emission.writesChain`).
-/

set_option autoImplicit false

namespace MexBridge

universe u

variable {Value : Type u} {isa : Value → String → Prop} {values : List Value} {chain : Chain}
  {overloads : List Overload} {position : Nat} {overload : Overload}

/-- An overload accepts values that are of its tags, one by one. -/
theorem Overload.accepts_iff_forall₂ :
    overload.Accepts isa values ↔ List.Forall₂ isa values overload.tags := by
  rw [Accepts, ← overload.length_tags, List.forall₂_iff_get]
  constructor
  · rintro ⟨count, classes⟩
    refine ⟨count.symm, fun index inside below => ?_⟩
    exact classes index _ _ (List.getElem?_eq_getElem inside) (List.getElem?_eq_getElem below)
  · rintro ⟨count, classes⟩
    refine ⟨count.symm, fun index value tag atValue atTag => ?_⟩
    obtain ⟨inside, rfl⟩ := List.getElem?_eq_some_iff.1 atValue
    obtain ⟨below, rfl⟩ := List.getElem?_eq_some_iff.1 atTag
    exact classes index inside below

/-- Where every value is of one class only, the values that an overload accepts are those of its own
tags. -/
theorem Overload.accepts_classOf_iff {classOf : Value → String} :
    overload.Accepts (fun value tag => classOf value = tag) values ↔
      values.map classOf = overload.tags := by
  rw [accepts_iff_forall₂, ← List.forall₂_map_left_iff (R := (· = ·)), List.forall₂_eq_eq_eq]

/-! ## What a chain takes -/

namespace Chain

/-- The branch at a position is taken for some values. -/
def Reaches (chain : Chain) (isa : Value → String → Prop) (position : Nat) : Prop :=
  ∃ (values : List Value) (branch : ShownBranch), chain.Takes isa values position branch

/-- A chain has a branch for each overload of a list, in order, with its condition. -/
def Tests (chain : Chain) (overloads : List Overload) : Prop :=
  chain.branches.map ShownBranch.condition =
    overloads.map fun overload => branchCondition overload.tags

namespace Tests

variable (tests : chain.Tests overloads)
include tests

/-- The branch at a position has the condition of the overload there. -/
theorem map_condition_getElem? (position : Nat) :
    chain.branches[position]?.map ShownBranch.condition =
      overloads[position]?.map fun overload => branchCondition overload.tags := by
  rw [← List.getElem?_map, ← List.getElem?_map]
  exact congrArg (fun conditions => conditions[position]?) tests

theorem exists_branch (listed : overloads[position]? = some overload) :
    ∃ branch, chain.branches[position]? = some branch ∧
      branch.condition = branchCondition overload.tags := by
  have same := tests.map_condition_getElem? position
  rw [listed] at same
  exact Option.map_eq_some_iff.1 same

theorem exists_overload {branch : ShownBranch}
    (listed : chain.branches[position]? = some branch) :
    ∃ overload, overloads[position]? = some overload ∧
      branch.condition = branchCondition overload.tags := by
  have same := tests.map_condition_getElem? position
  rw [listed] at same
  obtain ⟨overload, found, condition⟩ := Option.map_eq_some_iff.1 same.symm
  exact ⟨overload, found, condition.symm⟩

/-- A reported overload is never taken, whatever it means that a value is of a class: its condition
stands at an earlier branch, too. -/
theorem not_reaches_of_reported (reported : position ∈ shadowedPositions overloads) :
    ¬ chain.Reaches isa position := by
  rintro ⟨values, branch, taken⟩
  obtain ⟨overload, listed, condition⟩ := tests.exists_overload taken.listed
  obtain ⟨earlier, before, other, there, same⟩ := (mem_shadowedPositions_iff listed).1 reported
  obtain ⟨first, found, earlierCondition⟩ := tests.exists_branch there
  apply taken.first earlier before first found
  rw [earlierCondition, same, ← condition]
  exact taken.holds

variable (unquoted : ∀ overload ∈ overloads, Unquoted overload.tags)
include unquoted

/-- **A chain takes the branch of the first overload that accepts the values.** -/
theorem takes_iff (listed : overloads[position]? = some overload) :
    (∃ branch, chain.Takes isa values position branch) ↔
      overload.Accepts isa values ∧ ∀ earlier < position, ∀ other,
        overloads[earlier]? = some other → ¬ other.Accepts isa values := by
  have holds : ∀ {position : Nat} {overload : Overload} {branch : ShownBranch},
      overloads[position]? = some overload →
      branch.condition = branchCondition overload.tags →
      (Condition.Holds isa values branch.condition ↔ overload.Accepts isa values) := by
    intro position overload branch listed condition
    rw [condition]
    exact Condition.holds_branchCondition_iff (unquoted overload (List.mem_of_getElem? listed))
  constructor
  · rintro ⟨branch, found, passed, first⟩
    obtain ⟨declared, here, condition⟩ := tests.exists_overload found
    rw [listed] at here
    cases here
    refine ⟨(holds listed condition).1 passed, ?_⟩
    intro earlier before other there accepts
    obtain ⟨rejected, behind, same⟩ := tests.exists_branch there
    exact first earlier before rejected behind ((holds there same).2 accepts)
  · rintro ⟨accepts, first⟩
    obtain ⟨branch, found, condition⟩ := tests.exists_branch listed
    refine ⟨branch, found, (holds listed condition).2 accepts, ?_⟩
    intro earlier before rejected behind passed
    obtain ⟨other, there, same⟩ := tests.exists_overload behind
    exact first earlier before other there ((holds there same).1 passed)

/-- An overload is never taken if an earlier one accepts all that it accepts. -/
theorem not_reaches_of_earlier (listed : overloads[position]? = some overload) {earlier : Nat}
    (before : earlier < position) {other : Overload} (there : overloads[earlier]? = some other)
    (wider : ∀ values : List Value, overload.Accepts isa values → other.Accepts isa values) :
    ¬ chain.Reaches isa position := by
  rintro ⟨values, taken⟩
  obtain ⟨accepts, first⟩ := (tests.takes_iff unquoted listed).1 taken
  exact first earlier before other there (wider values accepts)

/-- Where every value is of one class only, an overload that is not reported is taken for all values
of its own tags. -/
theorem takes_of_not_reported {classOf : Value → String}
    (listed : overloads[position]? = some overload)
    (unreported : position ∉ shadowedPositions overloads)
    (own : values.map classOf = overload.tags) :
    ∃ branch, chain.Takes (fun value tag => classOf value = tag) values position branch := by
  refine (tests.takes_iff unquoted listed).2 ⟨Overload.accepts_classOf_iff.2 own, ?_⟩
  intro earlier before other there accepts
  apply unreported
  refine (mem_shadowedPositions_iff listed).2 ⟨earlier, before, other, there, ?_⟩
  exact (Overload.accepts_classOf_iff.1 accepts).symm.trans own

/-- Where every value is of one class only, and every class has values, the overloads that are
reported are those that are never taken. -/
theorem reported_iff_not_reaches {classOf : Value → String}
    (inhabited : Function.Surjective classOf) (below : position < overloads.length) :
    position ∈ shadowedPositions overloads ↔
      ¬ chain.Reaches (fun value tag => classOf value = tag) position := by
  refine ⟨tests.not_reaches_of_reported, fun unreached => ?_⟩
  by_contra unreported
  apply unreached
  obtain ⟨values, own⟩ := List.map_surjective_iff.2 inhabited overloads[position].tags
  exact ⟨values,
    tests.takes_of_not_reported unquoted (List.getElem?_eq_getElem below) unreported own⟩

end Tests

end Chain

/-! ## The chain that is emitted -/

namespace StaticMethod

variable (naming : ClassNaming) (first : Nat) {declared : StaticMethod}
  (wellFormed : ∀ overload ∈ declared.overloads, overload.result.IsWellFormed)
include wellFormed

/-- The branches of a method whose results are in order have the tags of its overloads. -/
theorem map_tags_proxyFunction :
    (declared.proxyFunction naming first).branches.map ProxyBranch.tags =
      declared.overloads.map Overload.tags := by
  have places : (Station.placements (Station.ofMethod naming declared)).map Placement.listed =
      declared.listed naming :=
    Station.map_listed_ofOverloads (Station.ofOverloads_clear_iff.2 wellFormed)
  have tags : (declared.proxyFunction naming first).branches.map ProxyBranch.tags =
      (Station.placements (Station.ofMethod naming declared)).map
        fun placement => placement.listed.overload.tags := by
    rw [proxyFunction, Placement.map_numbered]
    exact Placement.numbered_const (fun placement => placement.listed.overload.tags) _ _
  calc (declared.proxyFunction naming first).branches.map ProxyBranch.tags
    _ = (Station.placements (Station.ofMethod naming declared)).map
        fun placement => placement.listed.overload.tags := tags
    _ = (((Station.placements (Station.ofMethod naming declared)).map Placement.listed).map
        ListedOverload.overload).map Overload.tags := by
      rw [List.map_map, List.map_map]
      rfl
    _ = declared.overloads.map Overload.tags := by rw [places, declared.map_overload_listed]

theorem tests_proxyFunction :
    (declared.proxyFunction naming first).chain.Tests declared.overloads := by
  have conditions := congrArg (List.map branchCondition) (map_tags_proxyFunction naming first
    wellFormed)
  rw [List.map_map, List.map_map] at conditions
  rw [Chain.Tests, ProxyFunction.chain, List.map_map]
  exact conditions

theorem branches_proxyFunction_ne_nil (overloaded : declared.overloads ≠ []) :
    (declared.proxyFunction naming first).branches ≠ [] := by
  intro empty
  have tags := map_tags_proxyFunction naming first wellFormed
  rw [empty] at tags
  exact overloaded (List.map_eq_nil_iff.1 tags.symm)

end StaticMethod

namespace Emission

/-- A chain that is read from the lines which are written for a method with some overloads. -/
def Emits (overloads : List Overload) (chain : Chain) : Prop :=
  ∃ (settings : Settings) (config : Config) (naming : ClassNaming) (name : String) (level : Int)
    (bench left : Workbench) (ids : List Nat) (added : List String),
    settings.resolve = .ok config ∧
    (emitMethodWritable FunctionTable.plainRegistration config naming ⟨name, overloads⟩
      level).perform bench = (.ok ids, left) ∧
    left.proxy = bench.proxy.extend added ∧
    ClassFile.chains config.wrapperName added = [(Name.capitalized name, some chain)]

/-- Wherever a method with some overloads is emitted, the lines that the proxy gains show a chain
under the name of the method, and the log names every entry of the report of shadowed overloads. -/
def WritesChain (overloads : List Overload) : Prop :=
  ∀ (settings : Settings) (config : Config) (naming : ClassNaming) (name : String) (level : Int)
    (bench left : Workbench) (ids : List Nat),
    settings.resolve = .ok config →
    (emitMethodWritable FunctionTable.plainRegistration config naming ⟨name, overloads⟩
      level).perform bench = (.ok ids, left) →
    ∃ (added : List String) (chain : Chain), left.proxy = bench.proxy.extend added ∧
      ClassFile.chains config.wrapperName added = [(Name.capitalized name, some chain)] ∧
      ∀ entry ∈ shadowings overloads,
        .overloadShadowed naming.matlabName name entry ∈ left.events

/-- What a method writes to the proxy where it is emitted, and what its log names. -/
theorem proxy_of_emitted {config : Config} {naming : ClassNaming} {name : String} {level : Int}
    {bench left : Workbench} {ids : List Nat}
    (performed : (emitMethodWritable FunctionTable.plainRegistration config naming
      ⟨name, overloads⟩ level).perform bench = (.ok ids, left)) :
    overloads ≠ [] ∧ (∀ overload ∈ overloads, overload.result.IsWellFormed) ∧
      left.proxy = bench.proxy.extend
        ((StaticMethod.proxyFunction naming bench.table.nextId ⟨name, overloads⟩).lines config
          level) ∧
      ∀ entry ∈ shadowings overloads,
        .overloadShadowed naming.matlabName name entry ∈ left.events := by
  rcases done_or_stopped config naming ⟨name, overloads⟩ level bench with
    ⟨⟨overloaded, -, all⟩, done⟩ | ⟨_, _, _, _, -, -, -, stopped⟩
  · rw [done] at performed
    cases performed
    have wellFormed := wellFormed_of_placeable all
    rw [List.take_length] at wellFormed
    refine ⟨overloaded, wellFormed, rfl, fun entry reported => ?_⟩
    apply (Workbench.events_prefix_passAll (announced naming ⟨name, overloads⟩ bench) _).subset
    exact List.mem_append_right _ (List.mem_map_of_mem reported)
  · rw [stopped] at performed
    cases performed

theorem writesChain (overloads : List Overload) : WritesChain overloads := by
  intro settings config naming name level bench left ids accepted performed
  obtain ⟨overloaded, wellFormed, written, logged⟩ := proxy_of_emitted performed
  exact ⟨_, _, written, ClassFile.chains_function accepted
    (StaticMethod.branches_proxyFunction_ne_nil naming _ wellFormed overloaded) level, logged⟩

/-- **An emitted chain has a branch for each overload**, with its condition. -/
theorem Emits.tests (emitted : Emits overloads chain) : chain.Tests overloads := by
  obtain ⟨settings, config, naming, name, level, bench, left, ids, added, accepted, performed,
    gained, shown⟩ := emitted
  obtain ⟨overloaded, wellFormed, written, -⟩ := proxy_of_emitted performed
  rw [gained] at written
  have lines : added = (StaticMethod.proxyFunction naming bench.table.nextId
      ⟨name, overloads⟩).lines config level :=
    List.append_cancel_left (congrArg TextBuffer.lines written)
  rw [lines, ClassFile.chains_function accepted
    (StaticMethod.branches_proxyFunction_ne_nil naming _ wellFormed overloaded) level] at shown
  obtain ⟨_, same⟩ := Prod.mk.inj (List.singleton_inj.1 shown)
  rw [← Option.some.inj same]
  exact StaticMethod.tests_proxyFunction naming _ wellFormed

/-- Indentations that can be made for a function and its branches stop no method. -/
theorem nestingFault?_eq_none {config : Config} {level : Int}
    (outer : config.indentFault? level = none) (inner : config.indentFault? (level + 1) = none)
    (innermost : config.indentFault? (level + 2) = none) (method : StaticMethod) :
    method.nestingFault? config level = none := by
  unfold StaticMethod.nestingFault?
  rw [outer, inner, innermost]
  cases method.overloads with
  | nil => rfl
  | cons first rest =>
    dsimp only
    split <;> rfl

/-- **Overloads in order have an emitted chain**, unless they are too many for their numbers. -/
theorem exists_emits (overloaded : overloads ≠ [])
    (wellFormed : ∀ overload ∈ overloads, overload.result.IsWellFormed)
    (few : overloads.length ≤ writingBound) : ∃ chain, Emits overloads chain := by
  let config : Config := ⟨"shop", "shop_wrapper", [], defaultIncludes, "  "⟩
  let naming : ClassNaming := ⟨"Box", "Box", "Box", []⟩
  let bench : Workbench := {}
  have accepted : Settings.resolve { moduleName := "shop" } = .ok config := rfl
  have nested : StaticMethod.nestingFault? config ⟨"scale", overloads⟩ 0 = none :=
    nestingFault?_eq_none (by decide) (by decide) (by decide) _
  have placeable : ∀ position < overloads.length,
      StaticMethod.Placeable naming ⟨"scale", overloads⟩ bench.table position := by
    intro position below
    refine ⟨⟨_, List.getElem?_eq_getElem below, wellFormed _ (List.getElem_mem below)⟩, ?_, rfl,
      List.not_mem_nil⟩
    rw [show bench.table.nextId + position = position from Nat.zero_add position,
      isWritable_natCast_iff]
    exact Nat.lt_of_lt_of_le below few
  have performed := perform_of_placeable overloaded nested placeable
  obtain ⟨added, chain, gained, shown, -⟩ :=
    writesChain overloads _ config naming "scale" 0 bench _ _ accepted performed
  exact ⟨chain, _, config, naming, "scale", 0, bench, _, _, added, accepted, performed, gained,
    shown⟩

end Emission

/-! ## The report is exact -/

/-- What a report says of overloads if it lists those that repeat a dispatch key. -/
structure ListsRepeated (overloads : List Overload) (report : List Shadowing) : Prop where
  /-- The reported positions increase. -/
  increasing : report.Pairwise fun first second => first.shadowed < second.shadowed
  /-- A position is reported if its key occurs before it, with the least position of the key. -/
  listed : ∀ shadowed winner : Nat, ⟨shadowed, winner⟩ ∈ report ↔
    ∃ overload, overloads[shadowed]? = some overload ∧
      (∃ earlier < shadowed, ∃ other, overloads[earlier]? = some other ∧
        other.dispatchKey = overload.dispatchKey) ∧
      IsLeast {position | ∃ other, overloads[position]? = some other ∧
        other.dispatchKey = overload.dispatchKey} winner
  /-- A winner comes before what it shadows. -/
  winner_before : ∀ entry ∈ report, entry.winner < entry.shadowed
  /-- No winner is shadowed itself. -/
  winner_unreported : ∀ entry ∈ report, ∀ other ∈ report, other.shadowed ≠ entry.winner
  /-- No position is reported twice. -/
  once : (report.map Shadowing.shadowed).Nodup

/-- What a chain does with its overloads if the positions that it never takes are the reported
ones, where every value is of one class. -/
structure Chain.Spares (chain : Chain) (Value : Type u) (overloads : List Overload)
    (reported : List Nat) : Prop where
  /-- The others are taken for values of their tags. -/
  taken : ∀ (classOf : Value → String) (position : Nat) (overload : Overload),
    overloads[position]? = some overload → position ∉ reported →
    ∀ values : List Value, values.map classOf = overload.tags → ∃ branch,
      chain.Takes (fun value tag => classOf value = tag) values position branch
  /-- If every class has values, the reported overloads are those never taken. -/
  unreached : ∀ classOf : Value → String, Function.Surjective classOf →
    ∀ position < overloads.length, position ∈ reported ↔
      ¬ chain.Reaches (fun value tag => classOf value = tag) position

theorem listsRepeated_shadowings (overloads : List Overload) :
    ListsRepeated overloads (shadowings overloads) where
  increasing := pairwise_repeatedKeys _
  listed _ _ := mem_shadowings_iff
  winner_before _ := winner_lt_shadowed
  winner_unreported _ listed _ reported := not_shadowed_winner listed reported
  once := nodup_shadowedPositions overloads

theorem Chain.Tests.spares (tests : chain.Tests overloads)
    (unquoted : ∀ overload ∈ overloads, Unquoted overload.tags) :
    chain.Spares Value overloads (shadowedPositions overloads) where
  taken _ _ _ listed unreported _ own := tests.takes_of_not_reported unquoted listed unreported own
  unreached _ inhabited _ below := tests.reported_iff_not_reaches unquoted inhabited below

/-- **The report of shadowed overloads is exact.**  It lists the overloads that repeat a dispatch
key, each with the first of this key.  In every chain that is emitted for the overloads these are
never taken, whatever it means that a value is of a class; and if no tag holds an apostrophe and
each value is of one class, they are the only ones.  Overloads with results in order have such a
chain, unless they are too many for their numbers.  It is what the written lines of a method show,
and its log names every entry of the report. -/
theorem shadowings_exact (Value : Type u) (overloads : List Overload) :
    ListsRepeated overloads (shadowings overloads) ∧
    (∀ chain : Chain, Emission.Emits overloads chain →
      (∀ (isa : Value → String → Prop) (values : List Value) (position : Nat)
        (branch : ShownBranch), chain.Takes isa values position branch →
        position ∉ shadowedPositions overloads) ∧
      ((∀ overload ∈ overloads, Unquoted overload.tags) →
        chain.Spares Value overloads (shadowedPositions overloads))) ∧
    (overloads ≠ [] → (∀ overload ∈ overloads, overload.result.IsWellFormed) →
      overloads.length ≤ writingBound → ∃ chain, Emission.Emits overloads chain) ∧
    Emission.WritesChain overloads := by
  refine ⟨listsRepeated_shadowings overloads, fun chain emitted => ⟨?_, emitted.tests.spares⟩,
    Emission.exists_emits, Emission.writesChain overloads⟩
  intro isa values position branch taken reported
  exact emitted.tests.not_reaches_of_reported reported ⟨values, branch, taken⟩

theorem isWellFormed_taking (types : List String) :
    (taking types).result.IsWellFormed :=
  DeclaredResult.outcome_isOk_iff.1 ⟨.nothing, rfl⟩

/-- Overloads without results have an emitted chain. -/
theorem exists_emits_taking (lists : List (List String)) (overloaded : lists ≠ [])
    (few : lists.length ≤ writingBound) : ∃ chain, Emission.Emits (lists.map taking) chain := by
  refine Emission.exists_emits (by simpa using overloaded) ?_ (by rwa [List.length_map])
  intro overload member
  obtain ⟨types, _, rfl⟩ := List.mem_map.1 member
  exact isWellFormed_taking types

/-- Of three overloads the last one repeats the first and is never taken, and the second one is
taken for values of its tags. -/
theorem shadowings_exact_repeated :
    ∃ chain : Chain,
      Emission.Emits ([["Point"], ["double", "int"], ["Point"]].map taking) chain ∧
      (∀ overload ∈ [["Point"], ["double", "int"], ["Point"]].map taking,
        Unquoted overload.tags) ∧
      shadowings ([["Point"], ["double", "int"], ["Point"]].map taking) = [⟨2, 0⟩] ∧
      (∀ (isa : String → String → Prop) (values : List String) (branch : ShownBranch),
        ¬ chain.Takes isa values 2 branch) ∧
      ∃ branch, chain.Takes (fun value tag : String => value = tag) ["double", "numeric"] 1
        branch := by
  obtain ⟨chain, emitted⟩ := exists_emits_taking [["Point"], ["double", "int"], ["Point"]]
    (by decide) (by decide +kernel)
  have unquoted : ∀ overload ∈ [["Point"], ["double", "int"], ["Point"]].map taking,
      Unquoted overload.tags := by decide
  have reported : shadowings ([["Point"], ["double", "int"], ["Point"]].map taking) = [⟨2, 0⟩] := by
    decide
  obtain ⟨-, exact, -⟩ := shadowings_exact String ([["Point"], ["double", "int"],
    ["Point"]].map taking)
  obtain ⟨never, spares⟩ := exact chain emitted
  refine ⟨chain, emitted, unquoted, reported, fun isa values branch taken => ?_, ?_⟩
  · exact never isa values 2 branch taken (by decide)
  · exact (spares unquoted).taken id 1 _ rfl (by decide) ["double", "numeric"] (by decide)

/-- The tags of two overloads whose conditions are one text. -/
def quotedTypes : List (List String) :=
  [["a') && isa(varargin\x7b2\x7d,'b", "c"], ["a", "b') && isa(varargin\x7b2\x7d,'c"]]

/-- Of two branches with one condition the second one is never taken. -/
theorem Emission.Emits.not_reaches_quoted {chain : Chain}
    (emitted : Emits (quotedTypes.map taking) chain) (isa : Value → String → Prop) :
    ¬ chain.Reaches isa 1 := by
  rintro ⟨values, branch, taken⟩
  have same : branchCondition (taking ["a') && isa(varargin\x7b2\x7d,'b", "c"]).tags =
      branchCondition (taking ["a", "b') && isa(varargin\x7b2\x7d,'c"]).tags := by decide
  have front : (quotedTypes.map taking)[0]? =
      some (taking ["a') && isa(varargin\x7b2\x7d,'b", "c"]) := rfl
  obtain ⟨first, found, early⟩ := emitted.tests.exists_branch front
  obtain ⟨_, listed, late⟩ := emitted.tests.exists_overload taken.listed
  cases listed
  apply taken.first 0 Nat.zero_lt_one first found
  rw [early, same, ← late]
  exact taken.holds

/-- **An overload that is lost without a report.**  Where tags hold apostrophes, the conditions of
two overloads can be one text while their keys differ.  The second one is not reported, and no call
takes it. -/
theorem shadowings_exact_quoted :
    shadowings (quotedTypes.map taking) = [] ∧
    1 < (quotedTypes.map taking).length ∧
    ∃ chain : Chain, Emission.Emits (quotedTypes.map taking) chain ∧
      ∀ (Value : Type) (isa : Value → String → Prop), ¬ chain.Reaches isa 1 := by
  obtain ⟨chain, emitted⟩ := exists_emits_taking quotedTypes (by decide) (by decide +kernel)
  exact ⟨by decide, by decide, chain, emitted, fun _ isa => emitted.not_reaches_quoted isa⟩

end MexBridge
