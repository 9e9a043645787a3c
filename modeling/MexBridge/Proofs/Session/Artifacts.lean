import MexBridge.Proofs.Reading.Proxy
import MexBridge.Proofs.Reading.Wrapper
import MexBridge.Proofs.Session.Run
import Mathlib.Data.List.Nodup

/-!
# The artifacts of a session, read back

A session writes a class file for each listed class, a wrapper file, and a function table.  Here
each of them is read, and compared with the placements of the session: the table enumerates their
symbols (`entries_table`), the wrapper file defines their native functions and then the gateway,
which has a case for each entry of the table (`definitions_assembled`, `gatewayCases_assembled`),
and the class files call their numbers one after the other (`calledIds_classFunctions`).
-/

set_option autoImplicit false

namespace MexBridge

/-! ## Numbers that the class files call -/

theorem StaticMethod.ids_proxyFunction (naming : ClassNaming) (first : Nat)
    (declared : StaticMethod) :
    (declared.proxyFunction naming first).branches.map ProxyBranch.id =
      List.range' first (Station.placements (Station.ofMethod naming declared)).length := by
  rw [StaticMethod.proxyFunction, Placement.map_numbered]
  exact Placement.numbered_ids first _

theorem calledIds_proxyFunctions (naming : ClassNaming) (first : Nat)
    (methods : List StaticMethod) :
    calledIds (proxyFunctions naming first methods) =
      List.range' first (Station.placements (Station.ofMethods naming methods)).length := by
  induction methods generalizing first with
  | nil => rfl
  | cons declared rest ih =>
    have own := declared.ids_proxyFunction naming first
    have later := ih (first + (declared.proxyFunction naming first).branches.length)
    rw [declared.length_branches_proxyFunction] at later
    rw [calledIds, proxyFunctions, List.flatMap_cons, own, declared.length_branches_proxyFunction,
      Station.ofMethods, List.flatMap_cons, Station.placements_append, List.length_append,
      List.range'_append_1.symm]
    exact congrArg _ later

theorem Snapshot.calledIds_classFunctions (snapshot : Snapshot) (first : Nat)
    (earlier : List String) (classes : List ClassNaming) :
    (snapshot.classFunctions first classes).flatMap (fun (_, functions) => calledIds functions) =
      List.range' first
        (Station.placements (Station.ofClasses snapshot earlier classes)).length := by
  induction classes generalizing first earlier with
  | nil => rfl
  | cons naming rest ih =>
    have own := calledIds_proxyFunctions naming first (snapshot.methodsOf naming.name)
    have later := ih
      (first + (calledIds (proxyFunctions naming first (snapshot.methodsOf naming.name))).length)
      (naming.matlabName :: earlier)
    rw [length_calledIds_proxyFunctions] at later
    rw [Snapshot.classFunctions, List.flatMap_cons, length_calledIds_proxyFunctions,
      Station.placements_ofClasses_cons, List.length_append, List.range'_append_1.symm, ← later]
    exact congrArg (· ++ _) own

/-- Numbers in a row are written differently. -/
theorem nodup_map_toString_range' (first count : Nat) :
    ((List.range' first count).map (toString : Nat → String)).Nodup :=
  List.Nodup.map (fun _ _ same => Name.repr_toList_inj (congrArg String.toList same))
    List.nodup_range'

namespace Session

variable {session : Session}

/-- The table holds the symbols of the placements under their numbers. -/
theorem entries_table :
    session.table.entries =
      Placement.numbered (fun placement id => (id, placement.symbol id)) session.first
        session.placements := by
  rw [FunctionTable.entries, table, Placement.zipIdx_numbered, Placement.map_numbered]

theorem map_symbol_functions :
    session.functions.map NativeFunction.symbol = session.table.symbols := by
  rw [functions, Placement.map_numbered]
  rfl

theorem symbol_ne_mexFunction {symbol : String} (member : symbol ∈ session.table.symbols) :
    symbol ≠ "mexFunction" := by
  obtain ⟨placement, id, _, rfl⟩ := Placement.exists_of_mem_numbered member
  exact Name.entrySymbol_ne_mexFunction _ _ _

/-- The wrapper file defines the native functions and then the gateway. -/
theorem definitions_assembled :
    Wrapper.definitions session.assembled.wrapper.lines =
      session.functions.map (fun function => (function.symbol, function.block)) ++
        [("mexFunction", Wrapper.gatewayBody session.config session.table)] :=
  Wrapper.definitions_file session.config session.functions session.table

theorem definedSymbols_assembled :
    (Wrapper.definitions session.assembled.wrapper.lines).map Prod.fst =
      session.table.symbols ++ ["mexFunction"] := by
  rw [definitions_assembled, List.map_append, List.map_map, ← map_symbol_functions]
  rfl

/-- No symbol is defined twice. -/
theorem nodup_definedSymbols :
    ((Wrapper.definitions session.assembled.wrapper.lines).map Prod.fst).Nodup := by
  rw [definedSymbols_assembled]
  refine List.nodup_append.2
    ⟨Placement.nodup_symbols _ _, List.pairwise_singleton _ _, ?_⟩
  intro symbol member other last same
  exact symbol_ne_mexFunction member (same.trans (List.mem_singleton.1 last))

/-- The gateway has a case for each entry of the table. -/
theorem gatewayCases_assembled :
    Wrapper.gatewayCases session.assembled.wrapper.lines =
      session.table.entries.map fun (id, symbol) => (toString id, [symbol]) :=
  Wrapper.gatewayCases_file fun _ member =>
    symbol_ne_mexFunction (map_symbol_functions ▸ List.mem_map_of_mem member)

end Session

end MexBridge
