import MexBridge.Proofs.Emission.ClassFiles

/-!
# Placing overloads in any table

The tables of a session take every symbol that they are asked to take.  A table that comes from
elsewhere may be closed, may hold a symbol already, or may give a number other than the next one, so
that the work on a method can stop at any of its overloads.

First stands what the work on one overload leaves: nothing when its result is malformed
(`perform_emitBranch_of_malformed`), and its native function, with the table as the registration
left it, when the registration refuses the symbol or gives another number
(`perform_emitBranch_of_refused`, `perform_emitBranch_of_mismatch`).  Then come whole lists:
overloads that can all be placed are placed, as passing their stations does
(`perform_emitBranches_of_placeable`), and an overload that stops the work stops the list behind
those in front of it (`perform_emitBranches_of_stop`).
-/

set_option autoImplicit false

namespace MexBridge

/-! ## What the plain registration answers -/

namespace FunctionTable

variable {table : FunctionTable} {symbol : String}

theorem plainRegistration_of_fresh (unfrozen : table.frozen = false)
    (fresh : symbol ∉ table.symbols) :
    plainRegistration table symbol = (.ok table.nextId, table.enter symbol) := by
  have unknown : table.idOf? symbol = none := by
    rw [idOf?, List.idxOf?_eq_none_iff.2 fresh]
    rfl
  simp [plainRegistration, register, unfrozen, unknown, enter]

theorem plainRegistration_of_frozen (frozen : table.frozen = true) :
    plainRegistration table symbol = (.error .frozen, table) := by
  simp [plainRegistration, register, frozen]

theorem plainRegistration_of_taken (unfrozen : table.frozen = false) {id : Nat}
    (taken : table.idOf? symbol = some id) :
    plainRegistration table symbol = (.error (.alreadyRegistered symbol id), table) := by
  simp [plainRegistration, register, unfrozen, taken]

/-- A table that takes a symbol gives it the next number and enters it at its end. -/
theorem eq_of_plainRegistration {left : FunctionTable} {id : Nat}
    (answered : plainRegistration table symbol = (.ok id, left)) :
    id = table.nextId ∧ left = table.enter symbol := by
  cases frozen : table.frozen with
  | true =>
    rw [plainRegistration_of_frozen frozen] at answered
    cases answered
  | false =>
    cases known : table.idOf? symbol with
    | some other =>
      rw [plainRegistration_of_taken frozen known] at answered
      cases answered
    | none =>
      simp only [plainRegistration, register, frozen, known, Bool.false_eq_true, if_false]
        at answered
      cases answered
      exact ⟨rfl, by rw [enter, frozen]⟩

/-- A table gives a number for exactly the symbols that it holds. -/
theorem exists_idOf?_iff : (∃ id, table.idOf? symbol = some id) ↔ symbol ∈ table.symbols := by
  rw [← Option.isSome_iff_exists, idOf?, Option.isSome_map, List.isSome_idxOf?]

/-- A symbol that the table holds keeps its number when others are entered. -/
theorem idOf?_append_of_some {id : Nat} (taken : table.idOf? symbol = some id)
    (others : List String) :
    { table with symbols := table.symbols ++ others }.idOf? symbol = some id := by
  obtain ⟨position, found, same⟩ := Option.map_eq_some_iff.1 taken
  have still : (table.symbols ++ others).idxOf? symbol = some position := by
    rw [List.idxOf?] at found ⊢
    rw [List.findIdx?_append, found]
    rfl
  rw [idOf?, still, ← same]
  rfl

end FunctionTable

/-! ## One overload -/

/-- The bench after the native function of an overload was written under the next number, with the
table that a registration left. -/
def Workbench.draft (config : Config) (bench : Workbench) (placement : Placement)
    (left : FunctionTable) : Workbench :=
  { bench with
    native := bench.native.extend (placement.function config bench.table.nextId).lines
    table := left
    events := bench.events ++ (placement.events bench.table.nextId).take 1 }

namespace Emission

variable {config : Config} {bench : Workbench} {registration : FunctionTable.Registration}
  {naming : ClassNaming} {method : String} {index : Nat} {overload : Overload}

theorem perform_emitBranch_of_malformed {fault : ShapeFault}
    (checked : overload.result.outcome = .error fault) :
    (emitBranch registration config naming method index overload).perform bench =
      (.error (.violation (.malformedResult naming.matlabName method index fault)), bench) := by
  simp only [emitBranch, perform_bind, perform_requireOutcome, checked, Except.mapError]

theorem perform_emitBranch_of_refused {outcome : Outcome} {refusal : TableRefusal}
    {left : FunctionTable} (checked : overload.result.outcome = .ok outcome)
    (refused : registration bench.table
      (Name.entrySymbol naming.matlabName method bench.table.nextId) = (.error refusal, left)) :
    (emitBranch registration config naming method index overload).perform bench =
      (.error (.table refusal),
        bench.draft config ⟨naming, method, index, overload, outcome⟩ left) := by
  simp only [emitBranch, writeFunction, perform_bind, perform_requireOutcome, checked,
    Except.mapError, perform_nextId, perform_writeNative, perform_report, perform_pure,
    perform_register, refused]
  simp [Workbench.draft, Placement.events, Placement.symbol, Placement.function]

theorem perform_emitBranch_of_mismatch {outcome : Outcome} {assigned : Nat}
    {left : FunctionTable} (checked : overload.result.outcome = .ok outcome)
    (answered : registration bench.table
      (Name.entrySymbol naming.matlabName method bench.table.nextId) = (.ok assigned, left))
    (other : assigned ≠ bench.table.nextId) :
    (emitBranch registration config naming method index overload).perform bench =
      (.error (.violation
          (.numberMismatch naming.matlabName method index assigned bench.table.nextId)),
        bench.draft config ⟨naming, method, index, overload, outcome⟩ left) := by
  simp only [emitBranch, writeFunction, perform_bind, perform_requireOutcome, checked,
    Except.mapError, perform_nextId, perform_writeNative, perform_report, perform_pure,
    perform_register, answered, ne_eq, other, not_false_eq_true, if_true, perform_stop]
  simp [Workbench.draft, Placement.events, Placement.symbol, Placement.function]

/-! ## Lists of overloads -/

/-- The overloads of an appended list are worked on after those in front. -/
theorem emitBranches_append (front rest : List Overload) :
    emitBranches registration config naming method index (front ++ rest) =
      emitBranches registration config naming method index front >>= fun earlier =>
        emitBranches registration config naming method (index + front.length) rest >>= fun later =>
          pure (earlier ++ later) := by
  induction front generalizing index with
  | nil => simp [emitBranches]
  | cons first others ih =>
    have place : index + 1 + others.length = index + (first :: others).length := by
      rw [List.length_cons]
      omega
    simp [emitBranches, ih, place]

/-- **Overloads that can all be placed are placed**, as passing their stations does. -/
theorem perform_emitBranches_of_placeable {overloads : List Overload}
    (unfrozen : bench.table.frozen = false)
    (wellFormed : ∀ overload ∈ overloads, overload.result.IsWellFormed)
    (fresh : ∀ position < overloads.length,
      Name.entrySymbol naming.matlabName method (bench.table.nextId + position : Nat) ∉
        bench.table.symbols) :
    (emitBranches FunctionTable.plainRegistration config naming method index overloads).perform
        bench =
      (.ok (Placement.numbered Placement.branch bench.table.nextId
          (Station.placements (Station.ofOverloads naming method index overloads))),
        bench.passAll config (Station.ofOverloads naming method index overloads)) := by
  induction overloads generalizing index bench with
  | nil => rfl
  | cons first rest ih =>
    obtain ⟨outcome, checked⟩ :=
      DeclaredResult.outcome_isOk_iff.2 (wellFormed first List.mem_cons_self)
    have placed : (Station.overloadResult naming method index first).placement? =
        some ⟨naming, method, index, first, outcome⟩ := by
      simp [Station.placement?, checked]
    have passed : bench.pass config (.overloadResult naming method index first) =
        bench.place config ⟨naming, method, index, first, outcome⟩ := by
      rw [Workbench.pass_of_placement placed]
      simp [Station.announcement, Workbench.reported]
    have entered := FunctionTable.plainRegistration_of_fresh unfrozen (fresh 0 (Nat.succ_pos _))
    -- the symbol that was just entered ends in a smaller number than those still to come
    have later := @ih (bench.place config ⟨naming, method, index, first, outcome⟩) (index + 1)
      unfrozen
      (fun overload member => wellFormed overload (List.mem_cons_of_mem _ member)) (by
        intro position below member
        have number : (bench.place config ⟨naming, method, index, first, outcome⟩).table.nextId +
            position = bench.table.nextId + (position + 1) := by
          simp [Workbench.place]
          omega
        rw [number] at member
        rcases List.mem_append.1 member with earlier | last
        · exact fresh (position + 1) (Nat.succ_lt_succ below) earlier
        · have same := Name.entrySymbol_id_inj (List.mem_singleton.1 last)
          omega)
    rw [emitBranches, perform_bind, perform_emitBranch_of_entered checked entered]
    simp only [perform_bind, later, perform_pure]
    have placements : Station.placements (Station.ofOverloads naming method index (first :: rest)) =
        ⟨naming, method, index, first, outcome⟩ ::
          Station.placements (Station.ofOverloads naming method (index + 1) rest) :=
      List.filterMap_cons_some placed
    rw [placements, Station.ofOverloads, Workbench.passAll_cons, passed, Placement.numbered_cons]
    simp [Workbench.place, Placement.branch]

/-- **An overload that stops the work stops the list** behind those that were placed. -/
theorem perform_emitBranches_of_stop {front : List Overload} {branches : List ProxyBranch}
    {later left : Workbench} {fault : EmissionFault} (rest : List Overload)
    (placed : (emitBranches registration config naming method index front).perform bench =
      (.ok branches, later))
    (stopped : (emitBranch registration config naming method (index + front.length)
      overload).perform later = (.error fault, left)) :
    (emitBranches registration config naming method index (front ++ overload :: rest)).perform
        bench = (.error fault, left) := by
  rw [emitBranches_append, perform_bind, placed]
  simp only [emitBranches, perform_bind, stopped]

end Emission

end MexBridge
