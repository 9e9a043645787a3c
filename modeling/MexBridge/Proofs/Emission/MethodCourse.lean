import MexBridge.Proofs.Emission.MethodStops
import Mathlib.Data.List.Forall2
import Mathlib.Data.Nat.Find

/-!
# The course of the work on a method

The overloads of a method are placed one after the other, as far as they can be placed
(`perform_emitBranches_take`), and every cause that `StaticMethod.Stops` lists stops the work with
what it says (`perform_of_stops`).  There is nothing else: either all overloads can be placed, and
the work is done to its end (`perform_of_placeable`), or one of the causes is there
(`placeable_or_stops`, `done_or_stopped`).

The main statement is `emitMethodWritable_course`, for all tables, open or closed, and whatever they
hold.  It also covers the tables that give other numbers than the next one.
-/

set_option autoImplicit false

namespace MexBridge.Emission

variable {config : Config} {naming : ClassNaming} {method : StaticMethod} {level : Int}
  {bench : Workbench} {registration : FunctionTable.Registration}

/-! ## What the overloads leave -/

section Left

variable {overloads : List Overload}

theorem placement?_of_outcome {overload : Overload} {outcome : Outcome} {name : String}
    {index : Nat} (checked : overload.result.outcome = .ok outcome) :
    (Station.overloadResult naming name index overload).placement? =
      some ⟨naming, name, index, overload, outcome⟩ := by
  simp [Station.placement?, checked]

/-- Overloads with results in order get the symbols of consecutive numbers. -/
theorem symbols_ofOverloads (name : String) (index first : Nat)
    (wellFormed : ∀ overload ∈ overloads, overload.result.IsWellFormed) :
    Placement.numbered Placement.symbol first
        (Station.placements (Station.ofOverloads naming name index overloads)) =
      (List.range' first overloads.length).map fun id =>
        Name.entrySymbol naming.matlabName name (id : Nat) := by
  induction overloads generalizing index first with
  | nil => rfl
  | cons overload rest ih =>
    obtain ⟨outcome, checked⟩ :=
      DeclaredResult.outcome_isOk_iff.2 (wellFormed overload List.mem_cons_self)
    rw [Station.ofOverloads, Station.placements,
      List.filterMap_cons_some (placement?_of_outcome checked), Placement.numbered_cons,
      List.length_cons, List.range'_succ, List.map_cons]
    exact congrArg _ (ih (index + 1) (first + 1) fun later member =>
      wellFormed later (List.mem_cons_of_mem _ member))

theorem length_placements_ofOverloads (name : String) (index : Nat)
    (wellFormed : ∀ overload ∈ overloads, overload.result.IsWellFormed) :
    (Station.placements (Station.ofOverloads naming name index overloads)).length =
      overloads.length := by
  rw [← Placement.length_numbered Placement.symbol 0, symbols_ofOverloads name index 0 wellFormed,
    List.length_map, List.length_range']

/-- Overloads with results in order get their native functions, one after the other. -/
theorem functions_ofOverloads (method : StaticMethod) (index first : Nat)
    (wellFormed : ∀ overload ∈ overloads, overload.result.IsWellFormed) :
    List.Forall₂ (method.IsNativeFunction config naming) (overloads.zipIdx first)
      (Placement.numbered (Placement.function config) first
        (Station.placements (Station.ofOverloads naming method.name index overloads))) := by
  induction overloads generalizing index first with
  | nil => exact .nil
  | cons overload rest ih =>
    obtain ⟨outcome, checked⟩ :=
      DeclaredResult.outcome_isOk_iff.2 (wellFormed overload List.mem_cons_self)
    rw [Station.ofOverloads, Station.placements,
      List.filterMap_cons_some (placement?_of_outcome checked), Placement.numbered_cons,
      List.zipIdx_cons]
    refine .cons ⟨outcome, checked, rfl, NativeFunction.serves_ofOverload ..⟩ ?_
    exact ih (index + 1) (first + 1) fun later member =>
      wellFormed later (List.mem_cons_of_mem _ member)

end Left

/-! ## Placing the first overloads -/

/-- The bench when the first overloads of a method have been placed. -/
def placedBench (config : Config) (naming : ClassNaming) (method : StaticMethod)
    (bench : Workbench) (count : Nat) : Workbench :=
  (announced naming method bench).passAll config
    (Station.ofOverloads naming method.name 0 (method.overloads.take count))

section Placed

variable {count : Nat}

theorem lt_length_of_placeable {position : Nat} {table : FunctionTable}
    (placeable : method.Placeable naming table position) : position < method.overloads.length := by
  obtain ⟨_, declared, _⟩ := placeable.wellFormed
  exact (List.getElem?_eq_some_iff.1 declared).1

theorem length_take_of_placeable {table : FunctionTable}
    (before : ∀ earlier < count, method.Placeable naming table earlier) :
    (method.overloads.take count).length = count := by
  rw [List.length_take]
  cases count with
  | zero => exact Nat.zero_min _
  | succ last => exact Nat.min_eq_left (lt_length_of_placeable (before last (Nat.lt_succ_self _)))

theorem wellFormed_of_placeable {table : FunctionTable}
    (before : ∀ earlier < count, method.Placeable naming table earlier) :
    ∀ overload ∈ method.overloads.take count, overload.result.IsWellFormed := by
  intro overload member
  obtain ⟨position, found⟩ := List.mem_iff_getElem?.1 member
  rw [List.getElem?_take] at found
  split at found
  · next below =>
    obtain ⟨declared, same, wellFormed⟩ := (before position below).wellFormed
    rw [same] at found
    cases found
    exact wellFormed
  · cases found

/-- **Overloads that can be placed are placed**, one after the other. -/
theorem perform_emitBranches_take (config : Config)
    (before : ∀ earlier < count, method.Placeable naming bench.table earlier) :
    (emitBranches FunctionTable.plainRegistration config naming method.name 0
        (method.overloads.take count)).perform (announced naming method bench) =
      (.ok (Placement.numbered Placement.branch bench.table.nextId
          (Station.placements
            (Station.ofOverloads naming method.name 0 (method.overloads.take count)))),
        placedBench config naming method bench count) := by
  cases count with
  | zero => rfl
  | succ last =>
    have unfrozen : (announced naming method bench).table.frozen = false :=
      (before 0 (Nat.succ_pos _)).unfrozen
    apply perform_emitBranches_of_placeable unfrozen (wellFormed_of_placeable before)
    intro position below
    rw [length_take_of_placeable before] at below
    exact (before position below).fresh

theorem table_placedBench
    (before : ∀ earlier < count, method.Placeable naming bench.table earlier) :
    (placedBench config naming method bench count).table =
      { bench.table with symbols := bench.table.symbols ++
          (List.range count).map (method.symbolAt naming bench.table) } := by
  rw [placedBench, Workbench.symbols_passAll,
    symbols_ofOverloads method.name 0 _ (wellFormed_of_placeable before),
    length_take_of_placeable before, List.range'_eq_map_range, List.map_map]
  rfl

theorem nextId_placedBench
    (before : ∀ earlier < count, method.Placeable naming bench.table earlier) :
    (placedBench config naming method bench count).table.nextId = bench.table.nextId + count := by
  rw [table_placedBench before]
  simp [FunctionTable.nextId, FunctionTable.size, Nat.add_assoc]

theorem proxy_placedBench :
    (placedBench config naming method bench count).proxy = bench.proxy := by
  have same : placedBench config naming method bench count =
      (placedBench config naming method bench count).withProxy bench.proxy :=
    Workbench.passAll_withProxy (announced naming method bench) _ bench.proxy
  exact (congrArg Workbench.proxy same).trans (Workbench.proxy_withProxy _ _)

theorem writes_placedBench
    (before : ∀ earlier < count, method.Placeable naming bench.table earlier) :
    method.Writes config naming bench (placedBench config naming method bench count) count := by
  refine ⟨_, ?_, functions_ofOverloads method 0 _ (wellFormed_of_placeable before), ?_,
    Wrapper.definitions_flatMap_lines _⟩
  · rw [Placement.length_numbered,
      length_placements_ofOverloads _ _ (wellFormed_of_placeable before),
      length_take_of_placeable before]
  · exact congrArg TextBuffer.mk (Workbench.nativeLines_passAll _ _)

theorem gains_placedBench
    (before : ∀ earlier < count, method.Placeable naming bench.table earlier) :
    method.Gains config naming bench (placedBench config naming method bench count) count count :=
  ⟨table_placedBench before, writes_placedBench before⟩

/-- The native function of one more overload is written before its symbol is entered. -/
theorem writes_draft {overload : Overload} {outcome : Outcome} (left : FunctionTable)
    (before : ∀ earlier < count, method.Placeable naming bench.table earlier)
    (declared : method.overloads[count]? = some overload)
    (checked : overload.result.outcome = .ok outcome) :
    method.Writes config naming bench
      ((placedBench config naming method bench count).draft config
        ⟨naming, method.name, count, overload, outcome⟩ left) (count + 1) := by
  have placed : method.Writes config naming bench
      (placedBench config naming method bench count) count := writes_placedBench before
  obtain ⟨functions, length, written, native, -⟩ := placed
  refine ⟨functions ++ [Placement.function config
    ⟨naming, method.name, count, overload, outcome⟩ (bench.table.nextId + count)], ?_, ?_, ?_,
    Wrapper.definitions_flatMap_lines _⟩
  · rw [List.length_append, length, List.length_singleton]
  · rw [List.take_add_one, declared, List.zipIdx_append, length_take_of_placeable before]
    have last : method.IsNativeFunction config naming (overload, bench.table.nextId + count)
        (Placement.function config ⟨naming, method.name, count, overload, outcome⟩
          (bench.table.nextId + count)) :=
      ⟨outcome, checked, rfl, NativeFunction.serves_ofOverload ..⟩
    exact List.rel_append written (.cons last .nil)
  · rw [Workbench.draft, native, nextId_placedBench before, TextBuffer.extend_extend,
      List.flatMap_append, List.flatMap_singleton]

end Placed

/-! ## How the work ends -/

theorem Opens.of_placeable (nested : method.nestingFault? config level = none)
    (placeable : method.Placeable naming bench.table 0) : Opens config method level :=
  ⟨nested, placeable.wellFormed⟩

/-- The work comes to an overload that is in order behind overloads that can be placed. -/
theorem Opens.of_reached {position : Nat} {overload : Overload}
    (nested : method.nestingFault? config level = none)
    (before : ∀ earlier < position, method.Placeable naming bench.table earlier)
    (declared : method.overloads[position]? = some overload)
    (wellFormed : overload.result.IsWellFormed) : Opens config method level := by
  cases position with
  | zero => exact ⟨nested, overload, declared, wellFormed⟩
  | succ last => exact .of_placeable nested (before 0 (Nat.succ_pos _))

/-- Numbers that can be written are within the room. -/
theorem le_room_of_placeable {position : Nat}
    (before : ∀ earlier < position, method.Placeable naming bench.table earlier) :
    position ≤ writingBound - bench.table.nextId := by
  cases position with
  | zero => exact Nat.zero_le _
  | succ last =>
    have writable := isWritable_natCast_iff.1 (before last (Nat.lt_succ_self _)).writable
    omega

theorem lt_room_iff {position : Nat} :
    position < writingBound - bench.table.nextId ↔
      isWritable (bench.table.nextId + position : Nat) = true := by
  rw [isWritable_natCast_iff]
  omega

/-- An overload that stops the work behind overloads that can be placed. -/
theorem perform_of_reached {position : Nat} {overload : Overload}
    {fault reported : EmissionFault} {left : Workbench} (opens : Opens config method level)
    (before : ∀ earlier < position, method.Placeable naming bench.table earlier)
    (declared : method.overloads[position]? = some overload)
    (writable : isWritable (bench.table.nextId + position : Nat) = true)
    (stopped : (emitBranch FunctionTable.plainRegistration config naming method.name position
      overload).perform (placedBench config naming method bench position) = (.error fault, left))
    (worded : fault.worded = reported) :
    (emitMethodWritable FunctionTable.plainRegistration config naming method level).perform bench =
      (.error reported, left) := by
  obtain ⟨valid, same⟩ := List.getElem?_eq_some_iff.1 declared
  have parts : method.overloads =
      method.overloads.take position ++ overload :: method.overloads.drop (position + 1) := by
    rw [← same, List.getElem_cons_drop, List.take_append_drop]
  have length := length_take_of_placeable before
  apply opens.perform_of_stop parts
  · rw [length]
    exact lt_room_iff.2 writable
  · exact perform_emitBranches_take config before
  · rw [length]
    exact stopped
  · exact worded

/-- A malformed result stops the work, whether its number could be written or not. -/
theorem perform_of_malformed {position : Nat} {overload : Overload} {fault : ShapeFault}
    (nested : method.nestingFault? config level = none)
    (before : ∀ earlier < position, method.Placeable naming bench.table earlier)
    (declared : method.overloads[position]? = some overload)
    (checked : overload.result.outcome = .error fault) :
    (emitMethodWritable FunctionTable.plainRegistration config naming method level).perform bench =
      (.error (.violation (.malformedResult naming.matlabName method.name position fault)),
        placedBench config naming method bench position) := by
  cases position with
  | zero => exact perform_of_first_malformed nested declared checked
  | succ last =>
    have opens : Opens config method level := .of_placeable nested (before 0 (Nat.succ_pos _))
    rcases Nat.lt_or_eq_of_le (le_room_of_placeable before) with within | full
    · exact perform_of_reached opens before declared (lt_room_iff.1 within)
        (perform_emitBranch_of_malformed checked) rfl
    · rw [opens.perform_emitMethodWritable_of_full (full ▸ declared), ← full,
        perform_emitBranches_take config before]
      simp only [checked]

/-- A number that cannot be written stops the work. -/
theorem perform_of_unwritable {position : Nat} {overload : Overload}
    (opens : Opens config method level)
    (before : ∀ earlier < position, method.Placeable naming bench.table earlier)
    (declared : method.overloads[position]? = some overload)
    (wellFormed : overload.result.IsWellFormed)
    (tooLong : isWritable (bench.table.nextId + position : Nat) = false) :
    (emitMethodWritable FunctionTable.plainRegistration config naming method level).perform bench =
      (.error (.number .tooManyDigits), placedBench config naming method bench position) := by
  obtain ⟨outcome, checked⟩ := DeclaredResult.outcome_isOk_iff.2 wellFormed
  have beyond : ¬ position < writingBound - bench.table.nextId := by
    rw [lt_room_iff, tooLong]
    exact Bool.false_ne_true
  have last : position = writingBound - bench.table.nextId :=
    Nat.le_antisymm (le_room_of_placeable before) (Nat.le_of_not_lt beyond)
  rw [opens.perform_emitMethodWritable_of_full (last ▸ declared), ← last,
    perform_emitBranches_take config before]
  simp only [checked]

/-- **What stops the work stops it**, with what the table and the native file have gained. -/
theorem perform_of_stops {fault : EmissionFault} {entered written : Nat}
    (stops : method.Stops config naming level bench.table fault entered written) :
    ∃ left,
      (emitMethodWritable FunctionTable.plainRegistration config naming method level).perform
        bench = (.error fault, left) ∧
      left.proxy = bench.proxy ∧ method.Gains config naming bench left entered written := by
  have nothing : method.Gains config naming bench (placedBench config naming method bench 0) 0 0 :=
    gains_placedBench fun _ below => absurd below (Nat.not_lt_zero _)
  cases stops with
  | noOverloads empty =>
    exact ⟨bench, perform_of_noOverloads empty, rfl, nothing.table, nothing.native⟩
  | indentation declared unmade =>
    exact ⟨_, perform_of_indentation declared unmade, rfl, nothing⟩
  | malformed nested before declared checked =>
    exact ⟨_, perform_of_malformed nested before declared checked, proxy_placedBench,
      gains_placedBench before⟩
  | unwritable nested before declared wellFormed tooLong =>
    exact ⟨_, perform_of_unwritable (.of_reached nested before declared wellFormed) before declared
      wellFormed tooLong, proxy_placedBench, gains_placedBench before⟩
  | frozen nested declared wellFormed writable closed =>
    obtain ⟨outcome, checked⟩ := DeclaredResult.outcome_isOk_iff.2 wellFormed
    have none : ∀ earlier < 0, method.Placeable naming bench.table earlier :=
      fun _ below => absurd below (Nat.not_lt_zero _)
    have refused (symbol : String) : FunctionTable.plainRegistration
        (placedBench config naming method bench 0).table symbol = (.error .frozen, _) :=
      FunctionTable.plainRegistration_of_frozen closed
    exact ⟨_, perform_of_reached ⟨nested, _, declared, wellFormed⟩ none declared writable
        (perform_emitBranch_of_refused checked (refused _)) rfl,
      proxy_placedBench, nothing.table, writes_draft _ none declared checked⟩
  | @taken _ id _ nested before declared wellFormed writable unfrozen known =>
    obtain ⟨outcome, checked⟩ := DeclaredResult.outcome_isOk_iff.2 wellFormed
    have refused : FunctionTable.plainRegistration
        (placedBench config naming method bench entered).table
        (Name.entrySymbol naming.matlabName method.name
          (placedBench config naming method bench entered).table.nextId) =
        (.error (.alreadyRegistered (method.symbolAt naming bench.table entered) id),
          { bench.table with symbols := bench.table.symbols ++
            (List.range entered).map (method.symbolAt naming bench.table) }) := by
      rw [nextId_placedBench before, table_placedBench before]
      refine FunctionTable.plainRegistration_of_taken ?_
        (FunctionTable.idOf?_append_of_some known _)
      exact unfrozen
    exact ⟨_, perform_of_reached (.of_reached nested before declared wellFormed) before declared
        writable (perform_emitBranch_of_refused checked refused) rfl,
      proxy_placedBench, rfl, writes_draft _ before declared checked⟩

theorem length_flatten_of_forall {α : Type} {size : Nat} {lists : List (List α)}
    (each : ∀ list ∈ lists, list.length = size) : lists.flatten.length = size * lists.length := by
  induction lists with
  | nil => rfl
  | cons first rest ih =>
    obtain ⟨here, others⟩ := List.forall_mem_cons.1 each
    rw [List.flatten_cons, List.length_append, here, ih others, List.length_cons, Nat.mul_succ,
      Nat.add_comm]

/-- Every overload has two lines in the proxy function, and the function has five more. -/
theorem length_lines (function : ProxyFunction) :
    (function.lines config level).length = 2 * function.branches.length + 5 := by
  have branchLines : (function.branchLines config.wrapperName level).length =
      2 * function.branches.length := by
    have pairs : ∀ lines ∈ function.branches.mapIdx fun position branch =>
        branch.lines config.wrapperName (ProxyFunction.keyword position) level,
        lines.length = 2 := by
      intro lines member
      obtain ⟨_, _, rfl⟩ := List.mem_mapIdx.1 member
      rfl
    rw [ProxyFunction.branchLines, length_flatten_of_forall pairs, List.length_mapIdx]
  rw [ProxyFunction.lines, List.length_map, ProxyFunction.nestedLines, List.length_append,
    List.length_cons, branchLines]
  rfl

/-- **The work on overloads that can all be placed is done to its end.** -/
theorem perform_of_placeable (declared : method.overloads ≠ [])
    (nested : method.nestingFault? config level = none)
    (all : ∀ position < method.overloads.length, method.Placeable naming bench.table position) :
    (emitMethodWritable FunctionTable.plainRegistration config naming method level).perform bench =
      (.ok (List.range' bench.table.nextId method.overloads.length),
        (placedBench config naming method bench method.overloads.length).withProxy
          (bench.proxy.extend
            ((method.proxyFunction naming bench.table.nextId).lines config level))) := by
  have opens : Opens config method level :=
    .of_placeable nested (all 0 (List.length_pos_iff.2 declared))
  have wellFormed := wellFormed_of_placeable all
  have placed := perform_emitBranches_take config all
  rw [List.take_length] at placed wellFormed
  rw [perform_emitMethodWritable_of_room (le_room_of_placeable all), opens.perform_emitMethodAt,
    writeMethod, perform_bind, placed]
  simp only [perform_bind, perform_writeProxy, perform_pure, Except.mapError,
    Placement.map_numbered, proxy_placedBench]
  rw [← length_placements_ofOverloads method.name 0 wellFormed, ← Placement.numbered_ids]
  rfl

/-- Every method can be placed as a whole, or something stops the work on it. -/
theorem placeable_or_stops (config : Config) (naming : ClassNaming) (method : StaticMethod)
    (level : Int) (table : FunctionTable) :
    (method.overloads ≠ [] ∧ method.nestingFault? config level = none ∧
      ∀ position < method.overloads.length, method.Placeable naming table position) ∨
    ∃ fault entered written, method.Stops config naming level table fault entered written := by
  by_cases declared : method.overloads = []
  · exact .inr ⟨_, _, _, .noOverloads declared⟩
  cases nested : method.nestingFault? config level with
  | some fault => exact .inr ⟨_, _, _, .indentation declared nested⟩
  | none =>
    by_cases all : ∀ position < method.overloads.length, method.Placeable naming table position
    · exact .inl ⟨declared, rfl, all⟩
    right
    -- the first overload that cannot be placed
    have failing : ∃ position, position < method.overloads.length ∧
        ¬ method.Placeable naming table position := by
      push Not at all
      exact all
    classical
    obtain ⟨below, unplaceable⟩ := Nat.find_spec failing
    have before : ∀ earlier < Nat.find failing, method.Placeable naming table earlier := by
      intro earlier least
      by_contra stuck
      exact Nat.find_min failing least ⟨Nat.lt_trans least below, stuck⟩
    generalize Nat.find failing = position at below unplaceable before
    have found : method.overloads[position]? = some method.overloads[position] :=
      List.getElem?_eq_getElem below
    cases checked : method.overloads[position].result.outcome with
    | error fault => exact ⟨_, _, _, .malformed nested before found checked⟩
    | ok outcome =>
      have wellFormed := DeclaredResult.outcome_isOk_iff.1 ⟨outcome, checked⟩
      cases writable : isWritable (table.nextId + position : Nat) with
      | false => exact ⟨_, _, _, .unwritable nested before found wellFormed writable⟩
      | true =>
        cases frozen : table.frozen with
        | true =>
          cases position with
          | zero => exact ⟨_, _, _, .frozen nested found wellFormed writable frozen⟩
          | succ last =>
            have unfrozen := (before 0 (Nat.succ_pos _)).unfrozen
            rw [frozen] at unfrozen
            cases unfrozen
        | false =>
          have member : method.symbolAt naming table position ∈ table.symbols := by
            by_contra fresh
            exact unplaceable ⟨⟨_, found, wellFormed⟩, writable, frozen, fresh⟩
          obtain ⟨id, known⟩ := FunctionTable.exists_idOf?_iff.2 member
          exact ⟨_, _, _, .taken nested before found wellFormed writable frozen known⟩

/-- The work on a method is done to its end, or something stops it. -/
theorem done_or_stopped (config : Config) (naming : ClassNaming) (method : StaticMethod)
    (level : Int) (bench : Workbench) :
    ((method.overloads ≠ [] ∧ method.nestingFault? config level = none ∧
        ∀ position < method.overloads.length, method.Placeable naming bench.table position) ∧
      (emitMethodWritable FunctionTable.plainRegistration config naming method level).perform
        bench = (.ok (List.range' bench.table.nextId method.overloads.length),
          (placedBench config naming method bench method.overloads.length).withProxy
            (bench.proxy.extend
              ((method.proxyFunction naming bench.table.nextId).lines config level)))) ∨
    ∃ fault entered written left,
      method.Stops config naming level bench.table fault entered written ∧
      left.proxy = bench.proxy ∧ method.Gains config naming bench left entered written ∧
      (emitMethodWritable FunctionTable.plainRegistration config naming method level).perform
        bench = (.error fault, left) := by
  rcases placeable_or_stops config naming method level bench.table with
    ⟨declared, nested, all⟩ | ⟨fault, entered, written, stops⟩
  · exact .inl ⟨⟨declared, nested, all⟩, perform_of_placeable declared nested all⟩
  · obtain ⟨left, stopped, proxy, gains⟩ := perform_of_stops stops
    exact .inr ⟨fault, entered, written, left, stops, proxy, gains, stopped⟩

/-! ## Tables that give other numbers -/

/-- The work comes to the registration of the first overload when nothing stops it before. -/
theorem exists_outcome_of_not_stops {table : FunctionTable}
    (free : ∀ fault, ¬ method.Stops config naming level table fault 0 0) :
    ∃ overload outcome, Opens config method level ∧ method.overloads[0]? = some overload ∧
      overload.result.outcome = .ok outcome ∧ isWritable table.nextId = true := by
  have declared : method.overloads ≠ [] := fun empty => free _ (.noOverloads empty)
  obtain ⟨first, rest, parts⟩ := List.exists_cons_of_ne_nil declared
  have found : method.overloads[0]? = some first := by
    rw [parts]
    rfl
  have none : ∀ earlier < 0, method.Placeable naming table earlier :=
    fun _ below => absurd below (Nat.not_lt_zero _)
  cases nested : method.nestingFault? config level with
  | some fault => exact absurd (.indentation declared nested) (free _)
  | none =>
    cases checked : first.result.outcome with
    | error fault => exact absurd (.malformed nested none found checked) (free _)
    | ok outcome =>
      have wellFormed := DeclaredResult.outcome_isOk_iff.1 ⟨outcome, checked⟩
      cases writable : isWritable table.nextId with
      | false => exact absurd (.unwritable nested none found wellFormed writable) (free _)
      | true => exact ⟨first, outcome, ⟨nested, first, found, wellFormed⟩, found, checked, rfl⟩

/-- The first overload stops the work at a table that gives another number than the next one: its
native function is there, and the table is as the registration left it. -/
theorem perform_of_misnumbering {overload : Overload} {outcome : Outcome}
    (misnumbers : registration.Misnumbers) (opens : Opens config method level)
    (declared : method.overloads[0]? = some overload)
    (checked : overload.result.outcome = .ok outcome)
    (writable : isWritable bench.table.nextId = true) :
    (emitMethodWritable registration config naming method level).perform bench =
      (.error (method.mismatchFault naming bench.table
          (registration bench.table (method.symbolAt naming bench.table 0)).1),
        (announced naming method bench).draft config ⟨naming, method.name, 0, overload, outcome⟩
          (registration bench.table (method.symbolAt naming bench.table 0)).2) := by
  obtain ⟨first, rest, parts⟩ := List.exists_cons_of_ne_nil opens.nonempty
  have same : first = overload := by
    rw [parts] at declared
    exact Option.some.inj declared
  subst same
  have room : ([] : List Overload).length < writingBound - bench.table.nextId :=
    lt_room_iff.2 writable
  have placed : (emitBranches registration config naming method.name 0 []).perform
      (announced naming method bench) = (.ok [], announced naming method bench) := rfl
  cases answered : registration bench.table (method.symbolAt naming bench.table 0) with
  | mk answer left =>
    cases answer with
    | error refusal =>
      exact opens.perform_of_stop parts room placed
        (perform_emitBranch_of_refused checked answered) rfl
    | ok assigned =>
      exact opens.perform_of_stop parts room placed
        (perform_emitBranch_of_mismatch checked answered (misnumbers _ _ _ _ answered)) rfl

/-- The padded registration answers with the number behind the next one, and leaves the placeholder
and the symbol in the table. -/
theorem padded_answer {table left : FunctionTable} {symbol : String} {id : Nat}
    (answered : FunctionTable.paddedRegistration table symbol = (.ok id, left)) :
    id = table.nextId + 1 ∧
      left = { table with symbols := table.symbols ++ ["pad_" ++ symbol, symbol] } := by
  unfold FunctionTable.paddedRegistration at answered
  cases padding : FunctionTable.plainRegistration table ("pad_" ++ symbol) with
  | mk answer padded =>
    rw [padding] at answered
    cases answer with
    | error refusal => cases answered
    | ok first =>
      obtain ⟨number, later⟩ := FunctionTable.eq_of_plainRegistration answered
      rw [(FunctionTable.eq_of_plainRegistration padding).2] at number later
      refine ⟨number.trans (FunctionTable.nextId_enter table _), ?_⟩
      rw [later, FunctionTable.enter, FunctionTable.enter, List.append_assoc]
      rfl

theorem misnumbers_padded :
    FunctionTable.Registration.Misnumbers FunctionTable.paddedRegistration := by
  intro table symbol id left answered
  rw [(padded_answer answered).1]
  exact Nat.succ_ne_self _

/-! ## The whole course -/

/-- **What the work on a method leaves.**  At a plain table it ends exactly when there are
overloads, the indentations can be made and every overload can be placed; it then gives consecutive
numbers, the table has gained a symbol and the native file a function for each overload, and the
proxy file has gained the proxy function.  Otherwise it stops for a listed cause, with what this
cause leaves and the proxy file as before.  A table that never gives the next number always stops
it: before any registration, or at the first overload, whose native function is then there. -/
theorem emitMethodWritable_course (config : Config) (naming : ClassNaming) (method : StaticMethod)
    (level : Int) (bench : Workbench) :
    (∀ ids left,
      (emitMethodWritable FunctionTable.plainRegistration config naming method level).perform
        bench = (.ok ids, left) →
      ids = List.range' bench.table.nextId method.overloads.length ∧
      method.Gains config naming bench left method.overloads.length method.overloads.length ∧
      left.proxy = bench.proxy.extend
        ((method.proxyFunction naming bench.table.nextId).lines config level) ∧
      ((method.proxyFunction naming bench.table.nextId).lines config level).length =
        2 * method.overloads.length + 5) ∧
    (∀ fault left,
      (emitMethodWritable FunctionTable.plainRegistration config naming method level).perform
        bench = (.error fault, left) →
      left.proxy = bench.proxy ∧ ∃ entered written,
        method.Stops config naming level bench.table fault entered written ∧
        method.Gains config naming bench left entered written) ∧
    ((∃ ids left,
      (emitMethodWritable FunctionTable.plainRegistration config naming method level).perform
        bench = (.ok ids, left)) ↔
      method.overloads ≠ [] ∧ method.nestingFault? config level = none ∧
        ∀ position < method.overloads.length, method.Placeable naming bench.table position) ∧
    (∀ fault entered written, method.Stops config naming level bench.table fault entered written →
      ∃ left,
        (emitMethodWritable FunctionTable.plainRegistration config naming method level).perform
          bench = (.error fault, left)) ∧
    (∀ registration : FunctionTable.Registration, registration.Misnumbers → ∃ fault left,
      (emitMethodWritable registration config naming method level).perform bench =
        (.error fault, left) ∧ left.proxy = bench.proxy ∧
      (method.Stops config naming level bench.table fault 0 0 ∧
          left.table = bench.table ∧ left.native = bench.native ∨
        (∀ early, ¬ method.Stops config naming level bench.table early 0 0) ∧
          fault = method.mismatchFault naming bench.table
            (registration bench.table (method.symbolAt naming bench.table 0)).1 ∧
          left.table = (registration bench.table (method.symbolAt naming bench.table 0)).2 ∧
          method.Writes config naming bench left 1)) ∧
    FunctionTable.Registration.Misnumbers FunctionTable.paddedRegistration ∧
    ∀ table left symbol id, FunctionTable.paddedRegistration table symbol = (.ok id, left) →
      id = table.nextId + 1 ∧
        left = { table with symbols := table.symbols ++ ["pad_" ++ symbol, symbol] } := by
  have course := done_or_stopped config naming method level bench
  refine ⟨?_, ?_, ?_, ?_, ?_, misnumbers_padded, fun _ _ _ _ => padded_answer⟩
  · intro ids left performed
    rcases course with ⟨⟨-, -, all⟩, done⟩ | ⟨_, _, _, _, -, -, -, stopped⟩
    · rw [done] at performed
      cases performed
      have wellFormed := wellFormed_of_placeable all
      rw [List.take_length] at wellFormed
      have gains : method.Gains config naming bench
          (placedBench config naming method bench method.overloads.length)
          method.overloads.length method.overloads.length := gains_placedBench all
      refine ⟨rfl, ⟨gains.table, gains.native⟩, rfl, ?_⟩
      rw [length_lines, StaticMethod.length_branches_proxyFunction]
      exact congrArg (2 * · + 5) (length_placements_ofOverloads method.name 0 wellFormed)
    · rw [stopped] at performed
      cases performed
  · intro fault left performed
    rcases course with ⟨-, done⟩ | ⟨_, entered, written, _, stops, proxy, gains, stopped⟩
    · rw [done] at performed
      cases performed
    · rw [stopped] at performed
      cases performed
      exact ⟨proxy, entered, written, stops, gains⟩
  · constructor
    · rintro ⟨ids, left, performed⟩
      rcases course with ⟨placeable, -⟩ | ⟨_, _, _, _, -, -, -, stopped⟩
      · exact placeable
      · rw [stopped] at performed
        cases performed
    · rintro ⟨declared, nested, all⟩
      exact ⟨_, _, perform_of_placeable declared nested all⟩
  · intro fault entered written stops
    obtain ⟨left, stopped, _⟩ := perform_of_stops stops
    exact ⟨left, stopped⟩
  · intro registration misnumbers
    by_cases early : ∃ fault, method.Stops config naming level bench.table fault 0 0
    · obtain ⟨fault, stops⟩ := early
      obtain ⟨left, stopped, proxy, table, native⟩ := perform_of_unstarted stops
      exact ⟨fault, left, stopped, proxy, .inl ⟨stops, table, native⟩⟩
    · have free := not_exists.1 early
      obtain ⟨overload, outcome, opens, declared, checked, writable⟩ :=
        exists_outcome_of_not_stops free
      refine ⟨_, _, perform_of_misnumbering misnumbers opens declared checked writable, rfl,
        .inr ⟨free, rfl, rfl, ?_⟩⟩
      exact writes_draft _ (fun _ below => absurd below (Nat.not_lt_zero _)) declared checked

end MexBridge.Emission
