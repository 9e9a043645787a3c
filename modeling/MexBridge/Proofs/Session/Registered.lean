import MexBridge.Proofs.Registry.Registrations
import MexBridge.Proofs.Session.Agreement
import MexBridge.Proofs.Session.Numbering
import MexBridge.Proofs.Session.Outcome

/-!
# No registered overload is lost

A session on a registry reads what was registered, and puts it into the artifacts.  A method of a
registry has an overload, since it is there by the first one, so that such a session never stops for
want of overloads.  And when it ends well, every class that was mentioned has a file, and every
overload that was registered has a number: one entry of the table, one native function, one case of
the gateway and one branch in the file of its class belong to this number.

`Generated.Carries` says what belongs to a number, `Session.carries_of_listed` that an overload of
the snapshot is carried by its number, and `Session.registered` joins this with the registry.
-/

set_option autoImplicit false

namespace MexBridge

/-- What the artifacts of a session have of an overload under a number: one entry of the table, one
native function under its symbol, one case of the gateway, and one branch, which stands in the file
of its class at the place of the overload and is shown there with its condition and its call. -/
structure Generated.Carries (generated : Generated) (config : Config) (listed : ListedOverload)
    (outcome : Outcome) (id : Nat) : Prop where
  checked : listed.overload.result.outcome = .ok outcome
  entry : (generated.table.entries.filter fun entry => entry.1 = id) = [(id, listed.symbol id)]
  function : ((Wrapper.definitions generated.wrapper.lines).filter
      fun definition => definition.1 = listed.symbol id) =
    [(listed.symbol id, (NativeFunction.ofOverload config listed.naming listed.method
      (listed.symbol id) listed.overload.arguments outcome).block)]
  gatewayCase : ((Wrapper.gatewayCases generated.wrapper.lines).filter
      fun entry => entry.1 = toString id) = [(toString id, [listed.symbol id])]
  branch : ∃ (file : TextBuffer) (functions : List ProxyFunction) (function : ProxyFunction),
    generated.proxies.lookup listed.naming.matlabName = some file ∧
    file.lines = ClassFile.lines config listed.naming functions ∧
    function ∈ functions ∧ function.method = listed.method ∧
    function.branches[listed.index]? = some (.ofOverload listed.overload outcome id)
  shown : ∃ (file : TextBuffer) (chain : Chain),
    generated.proxies.lookup listed.naming.matlabName = some file ∧
    (Name.capitalized listed.method, some chain) ∈
      ClassFile.chains generated.wrapperName file.lines ∧
    chain.branches[listed.index]? =
      some ⟨branchCondition listed.overload.tags, .ofOutcome outcome, toString id⟩
  called : (generated.proxies.flatMap fun (_, file) =>
    (ClassFile.marks generated.wrapperName file.lines).filterMap ProxyMark.id?).count
      (toString id) = 1

/-! ## From a number to its branch -/

namespace Station

variable {naming : ClassNaming} {placement : Placement} {id first : Nat}

/-- The branch of a placement of a method stands at the place of its overload. -/
theorem branch_of_mem_ofMethod {declared : StaticMethod}
    (clear : ∀ station ∈ ofMethod naming declared, station.Clear)
    (placed : (placement, id) ∈ numberedPlacements first (ofMethod naming declared)) :
    placement.naming = naming ∧ placement.method = declared.name ∧
      (declared.proxyFunction naming first).branches[placement.index]? =
        some (placement.branch id) := by
  obtain ⟨offset, found⟩ := List.mem_iff_getElem?.1 placed
  rw [numberedPlacements, List.getElem?_zipIdx] at found
  obtain ⟨_, here, same⟩ := Option.map_eq_some_iff.1 found
  cases same
  have place := congrArg (fun entries => entries[offset]?) (map_listed_ofMethod clear)
  simp only [StaticMethod.listed, List.getElem?_map, List.getElem?_zipIdx, here, Option.map_map,
    Option.map_some, Nat.zero_add] at place
  obtain ⟨overload, _, listed⟩ := Option.map_eq_some_iff.1 place.symm
  have index : placement.index = offset := (congrArg ListedOverload.index listed).symm
  refine ⟨(congrArg ListedOverload.naming listed).symm,
    (congrArg ListedOverload.method listed).symm, ?_⟩
  rw [StaticMethod.proxyFunction, Placement.getElem?_numbered, index, here]
  rfl

/-- The branch of a placement of methods stands in the function of its method. -/
theorem exists_function_of_mem_ofMethods {methods : List StaticMethod}
    (clear : ∀ station ∈ ofMethods naming methods, station.Clear)
    (placed : (placement, id) ∈ numberedPlacements first (ofMethods naming methods)) :
    placement.naming = naming ∧ ∃ function ∈ proxyFunctions naming first methods,
      function.method = placement.method ∧
        function.branches[placement.index]? = some (placement.branch id) := by
  induction methods generalizing first with
  | nil => cases placed
  | cons declared rest ih =>
    rw [ofMethods, List.flatMap_cons, List.forall_mem_append] at clear
    rw [ofMethods, List.flatMap_cons, numberedPlacements_append] at placed
    rcases List.mem_append.1 placed with here | later
    · obtain ⟨own, method, branch⟩ := branch_of_mem_ofMethod clear.1 here
      exact ⟨own, _, List.mem_cons_self, method.symm, branch⟩
    · rw [← declared.length_branches_proxyFunction naming first] at later
      obtain ⟨own, function, member, branch⟩ := ih clear.2 later
      exact ⟨own, function, List.mem_cons_of_mem _ member, branch⟩

end Station

namespace Snapshot

open Station in
/-- The branch of a placement stands among the functions of its class. -/
theorem exists_functions_of_mem_ofClasses {snapshot : Snapshot} {earlier : List String}
    {classes : List ClassNaming} {placement : Placement} {id first : Nat}
    (clear : ∀ station ∈ ofClasses snapshot earlier classes, station.Clear)
    (placed : (placement, id) ∈ numberedPlacements first (ofClasses snapshot earlier classes)) :
    ∃ functions, (placement.naming, functions) ∈ snapshot.classFunctions first classes ∧
      ∃ function ∈ functions, function.method = placement.method ∧
        function.branches[placement.index]? = some (placement.branch id) := by
  induction classes generalizing first earlier with
  | nil => cases placed
  | cons naming rest ih =>
    obtain ⟨_, others⟩ := List.forall_mem_cons.1 clear
    obtain ⟨own, behind⟩ := List.forall_mem_append.1 others
    obtain ⟨_, methods⟩ := List.forall_mem_append.1 own
    rw [numberedPlacements, placements_ofClasses_cons, List.zipIdx_append] at placed
    rcases List.mem_append.1 placed with here | later
    · obtain ⟨rfl, branch⟩ := exists_function_of_mem_ofMethods methods here
      exact ⟨_, List.mem_cons_self, branch⟩
    · rw [← length_calledIds_proxyFunctions naming first] at later
      obtain ⟨functions, member, branch⟩ := ih behind later
      exact ⟨functions, List.mem_cons_of_mem _ member, branch⟩

/-- The functions of a class are those of its methods, from some number on. -/
theorem exists_of_mem_classFunctions {snapshot : Snapshot} {first : Nat}
    {classes : List ClassNaming} {naming : ClassNaming} {functions : List ProxyFunction}
    (member : (naming, functions) ∈ snapshot.classFunctions first classes) :
    naming ∈ classes ∧
      ∃ start, functions = proxyFunctions naming start (snapshot.methodsOf naming.name) := by
  induction classes generalizing first with
  | nil => cases member
  | cons own rest ih =>
    rcases List.mem_cons.1 member with same | later
    · cases same
      exact ⟨List.mem_cons_self, first, rfl⟩
    · obtain ⟨listed, known⟩ := ih later
      exact ⟨List.mem_cons_of_mem _ listed, known⟩

end Snapshot

namespace Session

variable {session : Session}

/-! ## From an overload to its number -/

/-- The listed overloads with their numbers are the numbered placements. -/
theorem map_listed_numberedPlacements
    (clear : ∀ station ∈ session.snapshot.stations, station.Clear) :
    session.numberedPlacements.map (fun entry => (entry.1.listed, entry.2)) =
      session.snapshot.listedOverloads.zipIdx session.first := by
  rw [← Snapshot.placements_stations clear, List.zipIdx_map]
  rfl

/-- A number that is called is called once. -/
theorem count_ids_proxies {settings : Settings}
    (accepted : settings.resolve = .ok session.config) {number : Nat}
    (within : number ∈ List.range' session.first session.placements.length) :
    (session.assembled.proxies.flatMap fun (_, file) =>
      (ClassFile.marks session.config.wrapperName file.lines).filterMap ProxyMark.id?).count
        (toString number) = 1 := by
  rw [ids_proxies accepted]
  exact List.count_eq_one_of_mem (nodup_map_toString_range' _ _) (List.mem_map_of_mem within)

/-- **An overload of the snapshot is carried by its number.** -/
theorem carries_of_listed {settings : Settings} (accepted : settings.resolve = .ok session.config)
    (clear : ∀ station ∈ session.snapshot.stations, station.Clear) {listed : ListedOverload}
    {id : Nat} (numbered : (listed, id) ∈ session.snapshot.listedOverloads.zipIdx session.first) :
    ∃ outcome, session.assembled.Carries session.config listed outcome id := by
  rw [← map_listed_numberedPlacements clear] at numbered
  obtain ⟨⟨placement, number⟩, placed, same⟩ := List.mem_map.1 numbered
  cases same
  have ids : session.table.entries.map Prod.fst =
      List.range' session.first session.placements.length := by
    rw [entries_table, Placement.map_numbered, Placement.numbered_ids]
  have entry : (number, placement.symbol number) ∈ session.table.entries := by
    rw [entries_table]
    exact List.mem_map.2 ⟨_, placed, rfl⟩
  have names : (session.assembled.proxies.map Prod.fst).Nodup := by
    rw [map_fst_proxies]
    exact (Snapshot.stations_clear_iff.1 clear).classNames
  obtain ⟨functions, member, function, inside, method, branch⟩ :=
    Snapshot.exists_functions_of_mem_ofClasses clear placed
  have found := OrderedMap.lookup_eq_some_of_mem names (List.mem_map.2 ⟨_, member, rfl⟩)
  obtain ⟨listed, start, known⟩ := Snapshot.exists_of_mem_classFunctions member
  have chains := (Snapshot.stations_clear_iff.1 clear).chains_proxyFunctions listed accepted start
  rw [← known] at chains
  have shown : (Name.capitalized placement.method, some function.chain) ∈
      ClassFile.chains session.config.wrapperName
        (ClassFile.lines session.config placement.naming functions) := by
    rw [chains]
    exact List.mem_map.2 ⟨function, inside, by rw [← method]; rfl⟩
  have condition : function.chain.branches[placement.index]? =
      some (placement.branch number).shown := by
    rw [ProxyFunction.chain, List.getElem?_map, branch]
    rfl
  exact ⟨placement.outcome,
    { checked := Station.outcome_of_mem_placements (List.fst_mem_of_mem_zipIdx placed)
      entry := filter_eq_singleton (number, placement.symbol number)
        (ids ▸ List.nodup_range') entry
      function := definition_of_placement placed
      gatewayCase := case_of_placement placed
      branch := ⟨_, functions, function, found, rfl, inside, method, branch⟩
      shown := ⟨_, function.chain, found, shown, condition⟩
      called := count_ids_proxies accepted (ids ▸ List.mem_map_of_mem entry) }⟩

end Session

/-! ## Methods that have overloads -/

namespace Station

theorem eq_overloadResult_of_mem_ofOverloads {naming : ClassNaming} {method : String} {first : Nat}
    {overloads : List Overload} {station : Station}
    (member : station ∈ ofOverloads naming method first overloads) :
    ∃ index overload, station = overloadResult naming method index overload := by
  induction overloads generalizing first with
  | nil => cases member
  | cons overload rest ih =>
    rcases List.mem_cons.1 member with rfl | later
    · exact ⟨first, overload, rfl⟩
    · exact ih later

/-- Where all methods have overloads, no station stops a session for want of them. -/
theorem clear_of_code {snapshot : Snapshot} {earlier : List String} {classes : List ClassNaming}
    (overloaded : ∀ naming ∈ classes, ∀ declared ∈ snapshot.methodsOf naming.name,
      declared.overloads ≠ []) {station : Station}
    (member : station ∈ ofClasses snapshot earlier classes)
    (code : station.code = "E-NO-OVERLOADS") : station.Clear := by
  induction classes generalizing earlier with
  | nil => cases member
  | cons naming rest ih =>
    obtain ⟨own, others⟩ := List.forall_mem_cons.1 overloaded
    rcases List.mem_cons.1 member with rfl | behind
    · exact absurd code (by simp [Station.code])
    rcases List.mem_append.1 behind with here | later
    · rcases List.mem_append.1 here with named | inside
      · obtain ⟨before, declared, rfl⟩ := eq_methodName_of_mem_ofNames named
        exact absurd code (by simp [Station.code])
      · obtain ⟨declared, listed, part⟩ := List.mem_flatMap.1 inside
        rcases List.mem_cons.1 part with rfl | result
        · exact own declared listed
        · obtain ⟨index, overload, rfl⟩ := eq_overloadResult_of_mem_ofOverloads result
          exact absurd code (by simp [Station.code])
    · exact ih others later

end Station

namespace Session

variable {session : Session}

/-- A violation that stops a session is that of one of its stations. -/
theorem exists_station_of_runWritable (nonneg : 0 ≤ session.startId) {violation : Violation}
    (failed : session.runWritable.1 = .error (.violation violation)) :
    ∃ station ∈ session.snapshot.stations, station.violation? = some violation := by
  rcases session.snapshot.clear_or_firstUnclear with clear | ⟨before, station, first⟩
  · rcases runWritable_of_clear nonneg clear with ⟨_, outcome⟩ | ⟨_, _, _, outcome⟩ <;>
    · rw [outcome] at failed
      cases failed
  · obtain ⟨cause, found⟩ := first.exists_violation
    rcases runWritable_of_firstUnclear nonneg first found with
      ⟨_, outcome⟩ | ⟨_, _, _, outcome⟩
    · rw [outcome] at failed
      cases failed
      exact ⟨station, first.reached.mem (List.mem_append_right _ List.mem_cons_self), found⟩
    · rw [outcome] at failed
      cases failed

/-! ## Sessions on a registry -/

/-- A session on a new registry that has served calls. -/
def onRegistry (config : Config) (calls : List RegistryCall) (start : Nat) : Session :=
  (openOn (.registry (Registry.after calls)) config start).1

theorem holds_onRegistry (config : Config) (calls : List RegistryCall) (start : Nat) :
    (onRegistry config calls start).snapshot.Holds (Registry.logOf calls) :=
  (Registry.keeps_after calls).holds

/-- A session on a registry never lacks overloads. -/
theorem code_ne_of_onRegistry {config : Config} {calls : List RegistryCall} {start : Nat}
    {violation : Violation}
    (failed : (onRegistry config calls start).runWritable.1 = .error (.violation violation)) :
    violation.diagnostic.code ≠ some "E-NO-OVERLOADS" := by
  intro code
  have holds := holds_onRegistry config calls start
  obtain ⟨station, member, found⟩ :=
    exists_station_of_runWritable (Int.natCast_nonneg start) failed
  have clear : station.Clear := by
    refine Station.clear_of_code (fun naming _ declared listed => ?_) member ?_
    · rw [holds.methodsOf] at listed
      obtain ⟨method, known, rfl⟩ := List.mem_map.1 listed
      exact RegistryLog.overloadsOf_ne_nil known
    · rw [(Station.diagnostic_of_violation found).1] at code
      exact Option.some.inj code
  rw [Station.violation?_eq_none_iff.2 clear] at found
  cases found

/-- **No registered overload is lost.**  A session on a registry never stops for want of overloads.
If it ends well, it has a class file for each class that was mentioned, in the order of their first
mention, and the registrations correspond one by one to the numbers of the table, each of which
carries its overload through all artifacts; so the table, the snapshot, the registry and its log
count the same. -/
theorem registered {settings : Settings} {config : Config}
    (accepted : settings.resolve = .ok config) (calls : List RegistryCall) (start : Nat) :
    (∀ violation, (onRegistry config calls start).runWritable.1 = .error (.violation violation) →
      violation.diagnostic.code ≠ some "E-NO-OVERLOADS") ∧
    ∀ generated, (onRegistry config calls start).runWritable.1 = .ok generated →
      generated.proxies.map Prod.fst =
        (Registry.logOf calls).namings.map ClassNaming.matlabName ∧
      (∃ numbered : List (ListedOverload × Nat),
        numbered.map Prod.fst = (Registry.logOf calls).registrations ∧
        (numbered.map Prod.snd).Perm (generated.table.entries.map Prod.fst) ∧
        ∀ listed id, (listed, id) ∈ numbered →
          ∃ outcome, generated.Carries config listed outcome id) ∧
      generated.table.size = (onRegistry config calls start).snapshot.overloadCount ∧
      (onRegistry config calls start).snapshot.overloadCount = (Registry.after calls).size ∧
      (Registry.after calls).size = (Registry.logOf calls).size := by
  have holds := holds_onRegistry config calls start
  have count := (Registry.keeps_after calls).size_eq
  refine ⟨fun violation => code_ne_of_onRegistry, fun generated succeeded => ?_⟩
  obtain ⟨_, emittable, rfl⟩ := eq_assembled_of_run (run_of_runWritable succeeded)
  have clear := Snapshot.stations_clear_iff.2 emittable
  obtain ⟨numbered, same, perm⟩ :=
    RegistryLog.exists_numbering holds (onRegistry config calls start).first
  have ids : (onRegistry config calls start).table.entries.map Prod.fst =
      ((onRegistry config calls start).snapshot.listedOverloads.zipIdx
        (onRegistry config calls start).first).map Prod.snd := by
    rw [entries_listed clear, List.map_map]
    rfl
  refine ⟨?_, ⟨numbered, same, ?_, fun listed id member => ?_⟩, ?_, ?_, count⟩
  · rw [map_fst_proxies, holds.classes]
  · exact (perm.map Prod.snd).trans (.of_eq ids.symm)
  · exact carries_of_listed accepted clear (perm.subset member)
  · rw [holds.overloadCount, ← RegistryLog.length_registrations,
      (RegistryLog.perm_registrations holds).length_eq, ← Snapshot.placements_stations clear,
      List.length_map]
    exact Placement.length_numbered ..
  · rw [holds.overloadCount, count]

/-- Calls that name a class and register two overloads, one of them with a naming that contradicts
the first one, and one after the end. -/
def smallCalls : List RegistryCall :=
  [.registerClass { name := "Box", cppName := some "shop::Box" },
    .register "Box" "scaled" ⟨[], .shape ⟨.nothing, []⟩⟩,
    .registerClass { name := "Box" },
    .register "Box" "scaled" ⟨[{ type := ⟨"double", []⟩, name := "factor" }],
      .shape ⟨.single, [⟨⟨"double", []⟩, .copied, false⟩]⟩⟩,
    .freeze,
    .register "Box" "scaled" ⟨[], .shape ⟨.nothing, []⟩⟩]

/-- Of six calls two are refused; the two overloads that were registered are in the table. -/
theorem registered_small :
    Settings.resolve { moduleName := "shop" } = .ok (small 0).config ∧
    (onRegistry (small 0).config smallCalls 0).runWritable.1 = .ok (small 0).assembled ∧
    (Registry.logOf smallCalls).length = 4 ∧
    (small 0).assembled.proxies.map Prod.fst = ["Box"] ∧
    (small 0).assembled.table.size = 2 := by
  have same : onRegistry (small 0).config smallCalls 0 = small 0 := by rfl
  have outcome : (onRegistry (small 0).config smallCalls 0).runWritable.1 =
      .ok (small 0).assembled := by
    rw [same]
    exact runWritable_small
  obtain ⟨names, _, size, count, _⟩ := (registered (resolve_small 0) smallCalls 0).2 _ outcome
  refine ⟨resolve_small 0, outcome, by decide, names.trans (by decide), ?_⟩
  rw [size, count]
  rfl

end Session

end MexBridge
