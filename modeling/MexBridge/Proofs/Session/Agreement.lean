import MexBridge.Proofs.Native.Statements
import MexBridge.Proofs.Proxy.Selection
import MexBridge.Proofs.Session.Composition
import Mathlib.Data.List.Nodup

/-!
# The two generated artifacts agree

A proxy decides which overload a call means, and calls by a number; the wrapper file decides what
the number stands for.  `Session.agreement` follows a call through the lines of both: for all
values, the chain that the file of a class shows for a method takes the branch of the first overload
that accepts them, the gateway has exactly one case for the number of this branch, the wrapper file
defines the symbol called there exactly once, and the lines defined there serve the calls of this
overload.  When no overload accepts the values, no condition holds.

This is so if no tag of the method holds an apostrophe, since conditions name tags between
apostrophes.  `Session.agreement_quoted` shows a session that ends well with a tag that closes its
literal: the overload accepts values for which no condition holds.

The link is the list of numbered placements: every branch of a class file belongs to one of them
(`Snapshot.exists_classFunctions`), and so do the entries of the table and the native functions.
-/

set_option autoImplicit false

namespace MexBridge

open OrderedMap (lookup_eq_some_of_mem)

universe u

/-! ## Lists in which a key occurs once -/

theorem filter_eq_singleton {α β : Type} [DecidableEq β] {key : α → β} {entries : List α}
    (entry : α) (distinct : (entries.map key).Nodup) (member : entry ∈ entries) :
    (entries.filter fun other => key other = key entry) = [entry] := by
  induction entries with
  | nil => cases member
  | cons first rest ih =>
    obtain ⟨fresh, others⟩ := List.nodup_cons.1 distinct
    rcases List.mem_cons.1 member with rfl | later
    · have none : (rest.filter fun other => key other = key entry) = [] :=
        List.filter_eq_nil_iff.2 fun other listed same =>
          fresh (List.mem_map.2 ⟨other, listed, of_decide_eq_true same⟩)
      rw [List.filter_cons_of_pos (by simp), none]
    · have different : key first ≠ key entry := fun same =>
        fresh (List.mem_map.2 ⟨entry, later, same.symm⟩)
      rw [List.filter_cons_of_neg (by simpa using different), ih others later]

/-! ## Numbered placements -/

namespace Station

/-- The placements of stations with their numbers, the first of which is given. -/
def numberedPlacements (first : Nat) (stations : List Station) : List (Placement × Nat) :=
  (placements stations).zipIdx first

theorem numberedPlacements_append (first : Nat) (earlier later : List Station) :
    numberedPlacements first (earlier ++ later) =
      numberedPlacements first earlier ++
        numberedPlacements (first + (placements earlier).length) later := by
  rw [numberedPlacements, placements_append, List.zipIdx_append]
  rfl

/-- The function of a method at its place, with the placements that its branches belong to. -/
theorem exists_proxyFunction (naming : ClassNaming) (first : Nat) {position : Nat}
    {methods : List StaticMethod} {declared : StaticMethod}
    (listed : methods[position]? = some declared) :
    ∃ start, (proxyFunctions naming first methods)[position]? =
        some (declared.proxyFunction naming start) ∧
      numberedPlacements start (ofMethod naming declared) ⊆
        numberedPlacements first (ofMethods naming methods) := by
  induction methods generalizing first position with
  | nil => cases listed
  | cons own rest ih =>
    have parts : numberedPlacements first (ofMethods naming (own :: rest)) =
        numberedPlacements first (ofMethod naming own) ++
          numberedPlacements (first + (placements (ofMethod naming own)).length)
            (ofMethods naming rest) := numberedPlacements_append first _ _
    rw [parts]
    cases position with
    | zero =>
      cases listed
      exact ⟨first, rfl, List.subset_append_left _ _⟩
    | succ before =>
      obtain ⟨start, found, inside⟩ :=
        ih (first + (own.proxyFunction naming first).branches.length) listed
      refine ⟨start, found, fun entry member => List.mem_append_right _ ?_⟩
      have later := inside member
      rwa [own.length_branches_proxyFunction] at later

end Station

namespace Snapshot

open Station in
/-- The functions of a class, with the placements that their branches belong to. -/
theorem exists_classFunctions (snapshot : Snapshot) (first : Nat) (earlier : List String)
    {classes : List ClassNaming} {naming : ClassNaming} (listed : naming ∈ classes) :
    ∃ start, (naming, proxyFunctions naming start (snapshot.methodsOf naming.name)) ∈
        snapshot.classFunctions first classes ∧
      numberedPlacements start (ofMethods naming (snapshot.methodsOf naming.name)) ⊆
        numberedPlacements first (ofClasses snapshot earlier classes) := by
  induction classes generalizing first earlier with
  | nil => cases listed
  | cons own rest ih =>
    have parts : numberedPlacements first (ofClasses snapshot earlier (own :: rest)) =
        numberedPlacements first (ofMethods own (snapshot.methodsOf own.name)) ++
          numberedPlacements
            (first + (placements (ofMethods own (snapshot.methodsOf own.name))).length)
            (ofClasses snapshot (own.matlabName :: earlier) rest) := by
      rw [numberedPlacements, placements_ofClasses_cons, List.zipIdx_append]
      rfl
    rw [parts]
    rcases List.mem_cons.1 listed with rfl | later
    · exact ⟨first, List.mem_cons_self, List.subset_append_left _ _⟩
    · obtain ⟨start, found, inside⟩ := ih
        (first + (calledIds (proxyFunctions own first (snapshot.methodsOf own.name))).length)
        (own.matlabName :: earlier) later
      refine ⟨start, List.mem_cons_of_mem _ found, fun entry member => List.mem_append_right _ ?_⟩
      have behind := inside member
      rwa [length_calledIds_proxyFunctions] at behind

end Snapshot

theorem exists_of_mem_proxyFunctions {naming : ClassNaming} {first : Nat}
    {methods : List StaticMethod} {function : ProxyFunction}
    (member : function ∈ proxyFunctions naming first methods) :
    ∃ declared ∈ methods, ∃ start, function = declared.proxyFunction naming start := by
  induction methods generalizing first with
  | nil => cases member
  | cons own rest ih =>
    rcases List.mem_cons.1 member with rfl | later
    · exact ⟨own, List.mem_cons_self, first, rfl⟩
    · obtain ⟨declared, listed, start, same⟩ := ih later
      exact ⟨declared, List.mem_cons_of_mem _ listed, start, same⟩

/-! ## Branches and overloads of a method -/

namespace Snapshot.Emittable

variable {snapshot : Snapshot} (emittable : snapshot.Emittable) {naming : ClassNaming}
  (listed : naming ∈ snapshot.classes) {declared : StaticMethod}
include emittable listed

/-- Nothing stops the work on a method of a snapshot that can be emitted. -/
theorem clear_ofMethod (own : declared ∈ snapshot.methodsOf naming.name) :
    ∀ station ∈ Station.ofMethod naming declared, station.Clear := fun station inside =>
  Station.ofMethods_clear_iff.2
    (fun method declaredHere => ⟨emittable.overloaded naming listed method declaredHere,
      emittable.marshallable naming listed method declaredHere⟩) station
    (List.mem_flatMap.2 ⟨declared, own, inside⟩)

/-- The file of a class shows a chain for each of its methods. -/
theorem chains_proxyFunctions {settings : Settings} {config : Config}
    (accepted : settings.resolve = .ok config) (start : Nat) :
    ClassFile.chains config.wrapperName (ClassFile.lines config naming
        (proxyFunctions naming start (snapshot.methodsOf naming.name))) =
      (proxyFunctions naming start (snapshot.methodsOf naming.name)).map
        fun function => (function.name, some function.chain) := by
  refine ClassFile.chains_lines accepted naming fun function member => ?_
  obtain ⟨declared, own, first, rfl⟩ := exists_of_mem_proxyFunctions member
  exact StaticMethod.branches_proxyFunction_ne_nil naming first
    (emittable.marshallable naming listed declared own)
    (emittable.overloaded naming listed declared own)

end Snapshot.Emittable

namespace StaticMethod

variable {naming : ClassNaming} {declared : StaticMethod} {index : Nat}

theorem wellFormed_of_clear (clear : ∀ station ∈ Station.ofMethod naming declared, station.Clear) :
    ∀ overload ∈ declared.overloads, overload.result.IsWellFormed :=
  Station.ofOverloads_clear_iff.1 fun station inside =>
    clear station (List.mem_cons_of_mem _ inside)

/-- The overload at an index is the one that is placed there. -/
theorem exists_placement (clear : ∀ station ∈ Station.ofMethod naming declared, station.Clear)
    {overload : Overload} (listed : declared.overloads[index]? = some overload) :
    ∃ placement, (Station.placements (Station.ofMethod naming declared))[index]? =
        some placement ∧ placement.listed = ⟨naming, declared.name, index, overload⟩ := by
  have place := congrArg (fun entries => entries[index]?) (Station.map_listed_ofMethod clear)
  simp only [StaticMethod.listed, List.getElem?_map, List.getElem?_zipIdx, listed,
    Option.map_some, Nat.zero_add] at place
  obtain ⟨placement, found, same⟩ := Option.map_eq_some_iff.1 place
  exact ⟨placement, found, same⟩

/-- **The chain of a method takes the branch of the overload that is selected.** -/
theorem takes_of_selects (start : Nat) {Value : Type u} {isa : Value → String → Prop}
    {values : List Value}
    (clear : ∀ station ∈ Station.ofMethod naming declared, station.Clear)
    (unquoted : ∀ overload ∈ declared.overloads, Unquoted overload.tags)
    {overload : Overload} (selects : declared.Selects isa values index overload) :
    ∃ placement, placement.listed = ⟨naming, declared.name, index, overload⟩ ∧
      (placement, start + index) ∈
        Station.numberedPlacements start (Station.ofMethod naming declared) ∧
      (declared.proxyFunction naming start).chain.Takes isa values index
        (placement.branch (start + index)).shown := by
  obtain ⟨placement, found, same⟩ := exists_placement clear selects.listed
  have tests := tests_proxyFunction naming start (wellFormed_of_clear clear)
  obtain ⟨branch, takes⟩ :=
    (tests.takes_iff unquoted selects.listed).2 ⟨selects.accepts, selects.first⟩
  have shown : (declared.proxyFunction naming start).chain.branches[index]? =
      some (placement.branch (start + index)).shown := by
    rw [ProxyFunction.chain, List.getElem?_map, proxyFunction, Placement.getElem?_numbered, found]
    rfl
  refine ⟨placement, same, ?_, ?_⟩
  · refine List.mem_of_getElem? (i := index) ?_
    rw [Station.numberedPlacements, List.getElem?_zipIdx, found]
    rfl
  · rw [takes.listed] at shown
    rwa [← Option.some.inj shown]

end StaticMethod

/-! ## Numbers in the gateway, and symbols in the wrapper file -/

namespace Session

variable {session : Session}

/-- The placements of a session with their numbers. -/
def numberedPlacements (session : Session) : List (Placement × Nat) :=
  Station.numberedPlacements session.first session.snapshot.stations

/-- The gateway has exactly one case for the number of a placement, which calls its symbol. -/
theorem case_of_placement {placement : Placement} {id : Nat}
    (placed : (placement, id) ∈ session.numberedPlacements) :
    (Wrapper.gatewayCases session.assembled.wrapper.lines).filter
        (fun entry => entry.1 = toString id) = [(toString id, [placement.symbol id])] := by
  have cases : Wrapper.gatewayCases session.assembled.wrapper.lines =
      session.numberedPlacements.map fun entry =>
        (toString entry.2, [entry.1.symbol entry.2]) := by
    rw [gatewayCases_assembled, entries_table, Placement.map_numbered]
    rfl
  have labels : ((Wrapper.gatewayCases session.assembled.wrapper.lines).map Prod.fst).Nodup := by
    have numbers : (Wrapper.gatewayCases session.assembled.wrapper.lines).map Prod.fst =
        (List.range' session.first session.placements.length).map toString := by
      rw [gatewayCases_assembled, entries_table, Placement.map_numbered, Placement.map_numbered,
        ← Placement.numbered_ids, Placement.map_numbered]
    rw [numbers]
    exact nodup_map_toString_range' _ _
  refine filter_eq_singleton (toString id, [placement.symbol id]) labels ?_
  rw [cases]
  exact List.mem_map.2 ⟨_, placed, rfl⟩

/-- The wrapper file defines the symbol of a placement exactly once, by its native function. -/
theorem definition_of_placement {placement : Placement} {id : Nat}
    (placed : (placement, id) ∈ session.numberedPlacements) :
    (Wrapper.definitions session.assembled.wrapper.lines).filter
        (fun entry => entry.1 = placement.symbol id) =
      [(placement.symbol id, (placement.function session.config id).block)] := by
  refine filter_eq_singleton
    (placement.symbol id, (placement.function session.config id).block) nodup_definedSymbols ?_
  rw [definitions_assembled]
  refine List.mem_append_left _ (List.mem_map.2 ⟨placement.function session.config id, ?_, rfl⟩)
  exact List.mem_map.2 ⟨_, placed, rfl⟩

/-- Every listed class has a file; it shows a chain for each method of the class, and its branches
belong to placements of the session. -/
theorem exists_classFile {settings : Settings} (accepted : settings.resolve = .ok session.config)
    (emittable : session.snapshot.Emittable) {naming : ClassNaming}
    (listed : naming ∈ session.snapshot.classes) :
    ∃ start, session.assembled.proxies.lookup naming.matlabName =
        some ⟨ClassFile.lines session.config naming
          (proxyFunctions naming start (session.snapshot.methodsOf naming.name))⟩ ∧
      ClassFile.chains session.assembled.wrapperName (ClassFile.lines session.config naming
          (proxyFunctions naming start (session.snapshot.methodsOf naming.name))) =
        (proxyFunctions naming start (session.snapshot.methodsOf naming.name)).map
          (fun function => (function.name, some function.chain)) ∧
      Station.numberedPlacements start
          (Station.ofMethods naming (session.snapshot.methodsOf naming.name)) ⊆
        session.numberedPlacements := by
  obtain ⟨start, member, inside⟩ :=
    session.snapshot.exists_classFunctions session.first [] listed
  have names : (session.assembled.proxies.map Prod.fst).Nodup := by
    rw [map_fst_proxies]
    exact emittable.classNames
  exact ⟨start, lookup_eq_some_of_mem names (List.mem_map.2 ⟨_, member, rfl⟩),
    emittable.chains_proxyFunctions listed accepted start, inside⟩

/-- **The two generated artifacts agree.**  In a session that ends well every listed class has a
file, whose lines show a chain for every method.  If no tag of the method holds an apostrophe, the
chain behaves as follows for all values and every notion of what it means that a value is of a
class.  If no overload accepts the values, no condition holds, and what is left is the error line.
Otherwise the branch that is taken is that of the first overload that accepts them; the gateway has
exactly one case for its number; the symbol called there is defined exactly once, by the native
function of this overload; and its lines check for so many values, bind the arguments to the inputs
in order, call the method with them, and write the outputs that the branch binds. -/
theorem agreement (Value : Type u) {settings : Settings} {session : Session}
    {generated : Generated} (accepted : settings.resolve = .ok session.config)
    (succeeded : session.runWritable.1 = .ok generated) {naming : ClassNaming}
    (listed : naming ∈ session.snapshot.classes) :
    ∃ file : TextBuffer, generated.proxies.lookup naming.matlabName = some file ∧
      (ClassFile.chains generated.wrapperName file.lines).length =
        (session.snapshot.methodsOf naming.name).length ∧
      ∀ (position : Nat) (declared : StaticMethod),
        (session.snapshot.methodsOf naming.name)[position]? = some declared →
        ∃ chain : Chain, (ClassFile.chains generated.wrapperName file.lines)[position]? =
            some (Name.capitalized declared.name, some chain) ∧
          chain.otherwise = "error('Arguments do not match any overload of function " ++
            naming.matlabName ++ "." ++ Name.capitalized declared.name ++ "');" ∧
          ((∀ overload ∈ declared.overloads, Unquoted overload.tags) →
            ∀ (isa : Value → String → Prop) (values : List Value),
              ((∀ overload ∈ declared.overloads, ¬ overload.Accepts isa values) →
                ∀ branch ∈ chain.branches, ¬ Condition.Holds isa values branch.condition) ∧
              ∀ (index : Nat) (overload : Overload),
                declared.Selects isa values index overload →
                ∃ (branch : ShownBranch) (outcome : Outcome) (symbol : String),
                  chain.Takes isa values index branch ∧
                  (Wrapper.gatewayCases generated.wrapper.lines).filter
                      (fun entry => entry.1 = branch.id) = [(branch.id, [symbol])] ∧
                  (Wrapper.definitions generated.wrapper.lines).filter
                      (fun entry => entry.1 = symbol) =
                    [(symbol, (NativeFunction.ofOverload session.config naming declared.name symbol
                      overload.arguments outcome).block)] ∧
                  overload.result.outcome = .ok outcome ∧
                  overload.arguments.length = values.length ∧
                  (NativeFunction.ofOverload session.config naming declared.name symbol
                    overload.arguments outcome).Serves naming declared.name overload.arguments
                      branch.binding) := by
  obtain ⟨nonneg, emittable, rfl⟩ := eq_assembled_of_run (run_of_runWritable succeeded)
  obtain ⟨start, found, chains, inside⟩ := exists_classFile accepted emittable listed
  refine ⟨_, found, by rw [chains, List.length_map, length_proxyFunctions], ?_⟩
  intro position declared own
  obtain ⟨first, placedHere, within⟩ := Station.exists_proxyFunction naming start own
  have clear := emittable.clear_ofMethod listed (List.mem_of_getElem? own)
  have wellFormed := StaticMethod.wellFormed_of_clear clear
  refine ⟨(declared.proxyFunction naming first).chain, ?_, rfl, fun unquoted isa values => ?_⟩
  · rw [chains, List.getElem?_map, placedHere]
    rfl
  constructor
  · intro rejected branch branchListed holds
    obtain ⟨index, here⟩ := List.mem_iff_getElem?.1 branchListed
    obtain ⟨overload, there, condition⟩ :=
      (StaticMethod.tests_proxyFunction naming first wellFormed).exists_overload here
    have among := List.mem_of_getElem? there
    rw [condition] at holds
    exact rejected overload among
      ((Condition.holds_branchCondition_iff (unquoted overload among)).1 holds)
  · intro index overload selects
    obtain ⟨placement, same, numbered, takes⟩ :=
      StaticMethod.takes_of_selects first clear unquoted selects
    have placed : (placement, first + index) ∈ session.numberedPlacements :=
      inside (within numbered)
    have checked := Station.outcome_of_mem_placements (List.fst_mem_of_mem_zipIdx placed)
    obtain ⟨_, _, _, _, outcome⟩ := placement
    cases same
    exact ⟨_, outcome, _, takes, case_of_placement placed, definition_of_placement placed,
      checked, selects.accepts.1, NativeFunction.serves_ofOverload _ _ _ _ _ _⟩

/-- A call with one number: the second overload is selected, and its case is the only one. -/
theorem agreement_small :
    Settings.resolve { moduleName := "shop" } = .ok (small 0).config ∧
    (small 0).runWritable.1 = .ok (small 0).assembled ∧
    ⟨"Box", "shop::Box", "Box", []⟩ ∈ (small 0).snapshot.classes ∧
    ∃ (file : TextBuffer) (chain : Chain) (branch : ShownBranch) (symbol : String),
      (small 0).assembled.proxies.lookup "Box" = some file ∧
      (ClassFile.chains "shop_wrapper" file.lines)[0]? = some ("Scaled", some chain) ∧
      chain.Takes (fun value tag : String => value = tag) ["double"] 1 branch ∧
      (Wrapper.gatewayCases (small 0).assembled.wrapper.lines).filter
          (fun entry => entry.1 = branch.id) = [(branch.id, [symbol])] := by
  have listed : ⟨"Box", "shop::Box", "Box", []⟩ ∈ (small 0).snapshot.classes := List.mem_cons_self
  obtain ⟨file, found, _, each⟩ :=
    agreement String (resolve_small 0) runWritable_small listed
  obtain ⟨chain, shown, _, calls⟩ := each 0 _ rfl
  obtain ⟨_, taken⟩ := calls (by decide) (fun value tag => value = tag) ["double"]
  obtain ⟨branch, _, symbol, takes, cases, _⟩ := taken 1 _
    { listed := rfl
      accepts := by
        refine ⟨rfl, fun index value tag atValue atTag => ?_⟩
        cases index with
        | zero =>
          cases atValue
          exact (Option.some.inj atTag)
        | succ behind => cases atValue
      first := by
        intro earlier before other here accepts
        cases Nat.lt_one_iff.1 before
        cases here
        exact absurd accepts.1 (by decide) }
  exact ⟨resolve_small 0, runWritable_small, listed, file, chain, branch, symbol, found, shown,
    takes, cases⟩

/-! ## A tag with apostrophes -/

/-- A tag that closes the literal in which it is written. -/
def closingTag : String :=
  "a') && isa(varargin\x7b1\x7d,'b"

/-- A session on a class with a method whose only overload takes an object of that tag. -/
def ofClosingTag : Session where
  snapshot := .ofParts [⟨"Box", "Box", "Box", []⟩]
    [("Box", [⟨"scale", [taking [closingTag]]⟩])]
  config := (small 0).config

theorem clear_ofClosingTag : ∀ station ∈ ofClosingTag.snapshot.stations, station.Clear := by
  have unfound : ofClosingTag.snapshot.stations.findSome? Station.violation? = none := by decide
  exact Station.findSome?_violation?_eq_none_iff.1 unfound

theorem runWritable_ofClosingTag : ofClosingTag.runWritable.1 = .ok ofClosingTag.assembled := by
  have nonneg : 0 ≤ ofClosingTag.startId := Int.le_refl 0
  have count : ofClosingTag.placements.length = 1 := by rfl
  have room : ofClosingTag.CanNumber 1 := (canNumber_iff nonneg).2 (by decide +kernel)
  exact (runWritable_eq_ok_iff nonneg).2 ⟨clear_ofClosingTag, count ▸ room, rfl⟩

/-- **Values that are accepted and reach the error line.**  The session ends well, and its only
overload accepts an object of its tag; but the condition of its branch is read as tests for two
other classes, and does not hold. -/
theorem agreement_quoted :
    Settings.resolve { moduleName := "shop" } = .ok ofClosingTag.config ∧
    ofClosingTag.runWritable.1 = .ok ofClosingTag.assembled ∧
    ⟨"Box", "Box", "Box", []⟩ ∈ ofClosingTag.snapshot.classes ∧
    ofClosingTag.snapshot.methodsOf "Box" = [⟨"scale", [taking [closingTag]]⟩] ∧
    StaticMethod.Selects ⟨"scale", [taking [closingTag]]⟩ (fun value tag : String => value = tag)
      [closingTag] 0 (taking [closingTag]) ∧
    ∃ (file : TextBuffer) (chain : Chain),
      ofClosingTag.assembled.proxies.lookup "Box" = some file ∧
      ClassFile.chains "shop_wrapper" file.lines = [("Scale", some chain)] ∧
      ∀ branch ∈ chain.branches,
        ¬ Condition.Holds (fun value tag : String => value = tag) [closingTag]
          branch.condition := by
  have accepted : Settings.resolve { moduleName := "shop" } = .ok ofClosingTag.config :=
    resolve_small 0
  have listed : ⟨"Box", "Box", "Box", []⟩ ∈ ofClosingTag.snapshot.classes := List.mem_cons_self
  have emittable := Snapshot.stations_clear_iff.1 clear_ofClosingTag
  have methods : ofClosingTag.snapshot.methodsOf "Box" = [⟨"scale", [taking [closingTag]]⟩] := rfl
  obtain ⟨start, found, chains, _⟩ := exists_classFile accepted emittable listed
  have wellFormed : ∀ overload ∈ [taking [closingTag]], overload.result.IsWellFormed := by
    intro overload member
    rw [List.mem_singleton.1 member]
    exact isWellFormed_taking _
  rw [methods] at found chains
  have named : Name.capitalized "scale" = "Scale" := by decide
  have shown : (proxyFunctions ⟨"Box", "Box", "Box", []⟩ start
      [⟨"scale", [taking [closingTag]]⟩]).map
        (fun function => (function.name, some function.chain)) =
      [("Scale", some (StaticMethod.proxyFunction ⟨"Box", "Box", "Box", []⟩ start
        ⟨"scale", [taking [closingTag]]⟩).chain)] := by
    rw [← named]
    rfl
  refine ⟨accepted, runWritable_ofClosingTag, listed, methods, ?_, _, _, found,
    chains.trans shown, ?_⟩
  · have own : [closingTag].map id = (taking [closingTag]).tags := by decide
    exact ⟨rfl, Overload.accepts_classOf_iff.2 own,
      fun _ before => absurd before (Nat.not_lt_zero _)⟩
  · intro branch branchListed holds
    obtain ⟨index, here⟩ := List.mem_iff_getElem?.1 branchListed
    have tests := @StaticMethod.tests_proxyFunction ⟨"Box", "Box", "Box", []⟩ start
      ⟨"scale", [taking [closingTag]]⟩ wellFormed
    obtain ⟨overload, declared, condition⟩ := tests.exists_overload here
    have tags : (taking [closingTag]).tags = [closingTag] := by decide
    rw [List.mem_singleton.1 (List.mem_of_getElem? declared), tags] at condition
    obtain ⟨tests, read, all⟩ := holds
    rw [condition, closingTag, Condition.tests?_quoted] at read
    cases read
    obtain ⟨_, value, same, atPlace, named⟩ := all (.isClass 1 "a") (by decide)
    cases same
    cases atPlace
    exact absurd named (by decide)

end Session

end MexBridge
