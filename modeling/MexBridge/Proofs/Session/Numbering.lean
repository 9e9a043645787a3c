import MexBridge.Proofs.Session.Artifacts

/-!
# The numbering of a session

One counter runs through a session: class by class, method by method, and overload by overload.  The
function table, the calls of the class files, the definitions of the wrapper file and the cases of
its gateway all show the same numbers in the same order.

The main statement is `Session.numbering`, about every session that ends well.  Each artifact is
read there from its lines.
-/

set_option autoImplicit false

namespace MexBridge

/-- The headings of a method's function: its name, one first test, the further tests, and one branch
without a test. -/
def StaticMethod.headings (declared : StaticMethod) : List ProxyMark :=
  [.function (Name.capitalized declared.name), .first] ++
    List.replicate (declared.overloads.length - 1) .further ++ [.otherwise]

namespace ProxyMark

/-- The marks of branches, the first of which stands at the given position. -/
def ofBranches (position : Nat) (branches : List ProxyBranch) : List ProxyMark :=
  (branches.zipIdx position).flatMap fun (branch, place) =>
    [if place = 0 then .first else .further, .call (toString branch.id)]

theorem ofBranches_cons (position : Nat) (branch : ProxyBranch) (rest : List ProxyBranch) :
    ofBranches position (branch :: rest) =
      [if position = 0 then .first else .further, .call (toString branch.id)] ++
        ofBranches (position + 1) rest := rfl

theorem filterMap_id?_ofBranches (position : Nat) (branches : List ProxyBranch) :
    (ofBranches position branches).filterMap id? =
      branches.map fun branch => toString branch.id := by
  induction branches generalizing position with
  | nil => rfl
  | cons branch rest ih =>
    have test : id? (if position = 0 then .first else .further) = none := by
      split <;> rfl
    rw [ofBranches_cons, List.filterMap_append, ih, List.filterMap_cons_none test]
    rfl

/-- Behind the first branch there are further tests only. -/
theorem filter_isHeading_ofBranches {position : Nat} (behind : position ≠ 0)
    (branches : List ProxyBranch) :
    (ofBranches position branches).filter isHeading =
      List.replicate branches.length .further := by
  induction branches generalizing position with
  | nil => rfl
  | cons branch rest ih =>
    rw [ofBranches_cons, if_neg behind, List.filter_append, ih (Nat.succ_ne_zero position),
      List.length_cons, List.replicate_succ]
    rfl

end ProxyMark

namespace ProxyFunction

theorem marks_eq (function : ProxyFunction) :
    function.marks =
      .function function.name :: ProxyMark.ofBranches 0 function.branches ++ [.otherwise] := by
  rw [marks, List.mapIdx_eq_zipIdx_map]
  rfl

/-- The numbers in the marks of a function are those of its branches. -/
theorem filterMap_id?_marks (function : ProxyFunction) :
    function.marks.filterMap ProxyMark.id? =
      function.branches.map fun branch => toString branch.id := by
  rw [marks_eq, List.cons_append, List.filterMap_cons_none (by rfl), List.filterMap_append,
    ProxyMark.filterMap_id?_ofBranches, List.filterMap_cons_none (by rfl), List.filterMap_nil,
    List.append_nil]

/-- The headings in the marks of a function: one test for each branch, and the last branch. -/
theorem filter_isHeading_marks {function : ProxyFunction} (branched : function.branches ≠ []) :
    function.marks.filter ProxyMark.isHeading =
      [.function function.name, .first] ++
        List.replicate (function.branches.length - 1) .further ++ [.otherwise] := by
  obtain ⟨branch, rest, branches⟩ := List.exists_cons_of_ne_nil branched
  have further := ProxyMark.filter_isHeading_ofBranches Nat.one_ne_zero rest
  have whole : function.marks =
      [.function function.name, .first, .call (toString branch.id)] ++
        ProxyMark.ofBranches 1 rest ++ [.otherwise] := by
    rw [marks_eq, branches]
    rfl
  rw [whole, List.filter_append, List.filter_append, further, branches, List.length_cons,
    Nat.add_sub_cancel]
  rfl

end ProxyFunction

/-! ## Class files -/

namespace ClassFile

theorem filterMap_id?_functions (functions : List ProxyFunction) :
    (functions.flatMap ProxyFunction.marks).filterMap ProxyMark.id? =
      (calledIds functions).map toString := by
  induction functions with
  | nil => rfl
  | cons function rest ih =>
    rw [List.flatMap_cons, List.filterMap_append, ih, function.filterMap_id?_marks, calledIds,
      calledIds, List.flatMap_cons, List.map_append, List.map_map]
    rfl

theorem headings_proxyFunctions {naming : ClassNaming} {first : Nat}
    {methods : List StaticMethod}
    (clear : ∀ station ∈ Station.ofMethods naming methods, station.Clear) :
    ((proxyFunctions naming first methods).flatMap ProxyFunction.marks).filter
        ProxyMark.isHeading = methods.flatMap StaticMethod.headings := by
  induction methods generalizing first with
  | nil => rfl
  | cons declared rest ih =>
    rw [Station.ofMethods, List.flatMap_cons, List.forall_mem_append] at clear
    obtain ⟨own, others⟩ := clear
    have count : (declared.proxyFunction naming first).branches.length =
        declared.overloads.length := by
      rw [declared.length_branches_proxyFunction, ← List.length_map (f := Placement.listed),
        Station.map_listed_ofMethod own, StaticMethod.listed, List.length_map, List.length_zipIdx]
    have overloaded : declared.overloads ≠ [] := (List.forall_mem_cons.1 own).1
    have branched : (declared.proxyFunction naming first).branches ≠ [] := by
      intro empty
      rw [empty] at count
      exact overloaded (List.length_eq_zero_iff.1 count.symm)
    rw [proxyFunctions, List.flatMap_cons, List.filter_append,
      ProxyFunction.filter_isHeading_marks branched, count, ih others, List.flatMap_cons]
    rfl

end ClassFile

/-! ## The session as a whole -/

namespace Session

variable {session : Session}

/-- The numbers that the class files of a session call, class by class and line by line. -/
theorem ids_proxies {settings : Settings} (accepted : settings.resolve = .ok session.config) :
    (session.assembled.proxies.flatMap fun (_, file) =>
      (ClassFile.marks session.config.wrapperName file.lines).filterMap ProxyMark.id?) =
      (List.range' session.first session.placements.length).map toString := by
  have called := session.snapshot.calledIds_classFunctions session.first []
    session.snapshot.classes
  rw [placements, Snapshot.stations, ← called]
  unfold assembled classFiles classFunctions
  rw [List.flatMap_map, List.map_flatMap]
  apply List.flatMap_congr
  intro entry _
  simp only [ClassFile.marks_lines accepted]
  exact ClassFile.filterMap_id?_functions entry.2

theorem headings_classFunctions {snapshot : Snapshot} (first : Nat) {earlier : List String}
    {classes : List ClassNaming}
    (clear : ∀ station ∈ Station.ofClasses snapshot earlier classes, station.Clear) :
    ((snapshot.classFunctions first classes).map fun (naming, functions) => (naming.matlabName,
      (functions.flatMap ProxyFunction.marks).filter ProxyMark.isHeading)) =
      classes.map fun naming => (naming.matlabName,
        (snapshot.methodsOf naming.name).flatMap StaticMethod.headings) := by
  induction classes generalizing first earlier with
  | nil => rfl
  | cons naming rest ih =>
    obtain ⟨_, others⟩ := List.forall_mem_cons.1 clear
    obtain ⟨own, later⟩ := List.forall_mem_append.1 others
    obtain ⟨_, methods⟩ := List.forall_mem_append.1 own
    rw [Snapshot.classFunctions, List.map_cons, ih _ later, List.map_cons]
    exact congrArg (fun headings => (naming.matlabName, headings) :: _)
      (ClassFile.headings_proxyFunctions methods)

/-- The headings of the class files: those of the methods of each class. -/
theorem headings_proxies {settings : Settings} (accepted : settings.resolve = .ok session.config)
    (clear : ∀ station ∈ session.snapshot.stations, station.Clear) :
    (session.assembled.proxies.map fun (name, file) => (name,
      (ClassFile.marks session.config.wrapperName file.lines).filter ProxyMark.isHeading)) =
      session.snapshot.classes.map fun naming => (naming.matlabName,
        (session.snapshot.methodsOf naming.name).flatMap StaticMethod.headings) := by
  rw [← headings_classFunctions session.first clear]
  unfold assembled classFiles classFunctions
  rw [List.map_map]
  refine List.map_congr_left fun (naming, functions) _ => ?_
  simp only [Function.comp_apply, ClassFile.marks_lines accepted]

/-- The entries of the table are those of the listed overloads. -/
theorem entries_listed (clear : ∀ station ∈ session.snapshot.stations, station.Clear) :
    session.table.entries =
      (session.snapshot.listedOverloads.zipIdx session.first).map fun (listed, id) =>
        (id, listed.symbol id) := by
  rw [entries_table, ← Snapshot.placements_stations clear, List.zipIdx_map, List.map_map]
  rfl

/-- **One counter numbers all artifacts of a session.**  In a session that ends well the table is
frozen and holds the listed overloads in order, numbered from the first number on; the class files
call these numbers in this order; the wrapper file defines their symbols once each, in this order,
and then the gateway; the gateway has one case for each number, which calls its symbol; and the
function of a method has one first test, further tests for its further overloads, and one branch
without a test. -/
theorem numbering {settings : Settings} {session : Session} {generated : Generated}
    (accepted : settings.resolve = .ok session.config)
    (succeeded : session.runWritable.1 = .ok generated) :
    0 ≤ session.startId ∧ generated.table.frozen = true ∧
    generated.table.entries =
      (session.snapshot.listedOverloads.zipIdx session.startId.toNat).map
        (fun (listed, id) => (id, listed.symbol id)) ∧
    (generated.proxies.flatMap fun (_, file) =>
      (ClassFile.marks generated.wrapperName file.lines).filterMap ProxyMark.id?) =
      (List.range' session.startId.toNat session.snapshot.listedOverloads.length).map toString ∧
    (Wrapper.definitions generated.wrapper.lines).map Prod.fst =
      generated.table.entries.map Prod.snd ++ ["mexFunction"] ∧
    ((Wrapper.definitions generated.wrapper.lines).map Prod.fst).Nodup ∧
    Wrapper.gatewayCases generated.wrapper.lines =
      generated.table.entries.map (fun (id, symbol) => (toString id, [symbol])) ∧
    (generated.proxies.map fun (name, file) => (name,
      (ClassFile.marks generated.wrapperName file.lines).filter ProxyMark.isHeading)) =
      session.snapshot.classes.map fun naming => (naming.matlabName,
        (session.snapshot.methodsOf naming.name).flatMap StaticMethod.headings) := by
  obtain ⟨nonneg, emittable, rfl⟩ := eq_assembled_of_run (run_of_runWritable succeeded)
  have clear := Snapshot.stations_clear_iff.2 emittable
  have count : session.placements.length = session.snapshot.listedOverloads.length := by
    rw [← Snapshot.placements_stations clear, List.length_map]
    rfl
  have symbols : session.table.entries.map Prod.snd = session.table.symbols := by
    rw [entries_table, Placement.map_numbered]
    rfl
  refine ⟨nonneg, rfl, entries_listed clear, ?_, ?_, nodup_definedSymbols,
    gatewayCases_assembled, headings_proxies accepted clear⟩
  · rw [← count]
    exact ids_proxies accepted
  · rw [definedSymbols_assembled, ← symbols]
    rfl

/-- A session with two overloads, numbered from zero on. -/
theorem numbering_small :
    Settings.resolve { moduleName := "shop" } = .ok (small 0).config ∧
    (small 0).runWritable.1 = .ok (small 0).assembled ∧
    (small 0).assembled.table.entries = [(0, "Box_scaled_0"), (1, "Box_scaled_1")] := by
  refine ⟨resolve_small 0, runWritable_small, ?_⟩
  exact (numbering (resolve_small 0) runWritable_small).2.2.1.trans (by decide)

end Session

end MexBridge
