import MexBridge.Proofs.Emission.Following
import MexBridge.Session

/-!
# The proxy files of a traversal

The proxy file of a class is given here as data: one `ProxyFunction` for each method, whose branches
are numbered on from method to method and from class to class (`Snapshot.proxyFunctions`,
`Snapshot.classFiles`), printed by `ClassFile.lines`.

Each emitter follows its part of the traversal and writes the part of the proxy file that this data
describes: `follows_emitBranches`, `follows_emitMethod`, `follows_emitClassFile` and, for all
classes, `follows_emitClassFiles`.
-/

set_option autoImplicit false

namespace MexBridge

theorem TextBuffer.extend_extend (buffer : TextBuffer) (earlier later : List String) :
    (buffer.extend earlier).extend later = buffer.extend (earlier ++ later) := by
  simp [TextBuffer.extend]

theorem TextBuffer.extend_nil (buffer : TextBuffer) : buffer.extend [] = buffer := by
  simp [TextBuffer.extend]

/-! ## Class files as data -/

namespace ClassFile

/-- Functions with an empty line in front of each. -/
def furtherLines (wrapperName : String) (functions : List ProxyFunction) : List NestedLine :=
  functions.flatMap fun function => separator :: function.nestedLines wrapperName functionLevel

/-- The block of static methods, where there are any. -/
def blockLines (wrapperName : String) : List ProxyFunction → List NestedLine
  | [] => []
  | first :: rest =>
    blockOpening ::
      (first.nestedLines wrapperName functionLevel ++ furtherLines wrapperName rest ++
        [blockClosing])

/-- The lines of a class file with their nesting. -/
def nestedLines (wrapperName : String) (naming : ClassNaming) (functions : List ProxyFunction) :
    List NestedLine :=
  header naming ++ blockLines wrapperName functions ++ [closing]

/-- The lines of a class file. -/
def lines (config : Config) (naming : ClassNaming) (functions : List ProxyFunction) :
    List String :=
  (nestedLines config.wrapperName naming functions).map (NestedLine.text config)

end ClassFile

/-- The proxy function of a method, the first branch of which has a given number. -/
def StaticMethod.proxyFunction (naming : ClassNaming) (first : Nat) (declared : StaticMethod) :
    ProxyFunction where
  matlabClass := naming.matlabName
  method := declared.name
  branches := Placement.numbered Placement.branch first
    (Station.placements (Station.ofMethod naming declared))

/-- The proxy functions of methods, whose branches are numbered on. -/
def proxyFunctions (naming : ClassNaming) : Nat → List StaticMethod → List ProxyFunction
  | _, [] => []
  | first, declared :: rest =>
    let function := declared.proxyFunction naming first
    function :: proxyFunctions naming (first + function.branches.length) rest

/-- The numbers that proxy functions call, in order. -/
def calledIds (functions : List ProxyFunction) : List Nat :=
  functions.flatMap fun function => function.branches.map ProxyBranch.id

namespace Snapshot

/-- The proxy functions of each class, whose branches are numbered on. -/
def classFunctions (snapshot : Snapshot) :
    Nat → List ClassNaming → List (ClassNaming × List ProxyFunction)
  | _, [] => []
  | first, naming :: rest =>
    let functions := proxyFunctions naming first (snapshot.methodsOf naming.name)
    (naming, functions) :: snapshot.classFunctions (first + (calledIds functions).length) rest

end Snapshot

/-- The files of classes, each under the MATLAB name of its class. -/
def classFiles (config : Config) (functions : List (ClassNaming × List ProxyFunction)) :
    List (String × TextBuffer) :=
  functions.map fun (naming, functions) =>
    (naming.matlabName, ⟨ClassFile.lines config naming functions⟩)

theorem StaticMethod.length_branches_proxyFunction (naming : ClassNaming) (first : Nat)
    (declared : StaticMethod) :
    (declared.proxyFunction naming first).branches.length =
      (Station.placements (Station.ofMethod naming declared)).length :=
  Placement.length_numbered ..

theorem length_proxyFunctions (naming : ClassNaming) (first : Nat) (methods : List StaticMethod) :
    (proxyFunctions naming first methods).length = methods.length := by
  induction methods generalizing first with
  | nil => rfl
  | cons declared rest ih => rw [proxyFunctions, List.length_cons, ih, List.length_cons]

theorem length_calledIds_proxyFunctions (naming : ClassNaming) (first : Nat)
    (methods : List StaticMethod) :
    (calledIds (proxyFunctions naming first methods)).length =
      (Station.placements (Station.ofMethods naming methods)).length := by
  induction methods generalizing first with
  | nil => rfl
  | cons declared rest ih =>
    have later := ih (first + (declared.proxyFunction naming first).branches.length)
    simp only [calledIds, proxyFunctions, Station.ofMethods, List.flatMap_cons,
      List.length_append, List.length_map, Station.placements_append] at later ⊢
    rw [later, StaticMethod.length_branches_proxyFunction]

/-! ## What the emitters follow -/

namespace Emission

variable {config : Config} {bench : Workbench}

theorem perform_writeNested_withProxy (lines : List NestedLine) :
    (writeNested config lines).perform bench =
      (.ok (), bench.withProxy (bench.proxy.extend (lines.map (NestedLine.text config)))) := rfl

/-- An overload with a checked result is placed where its symbol is entered under the next number,
and its branch calls this number. -/
theorem perform_emitBranch_of_entered {registration : FunctionTable.Registration}
    {naming : ClassNaming} {method : String} {index : Nat} {overload : Overload}
    {outcome : Outcome} (checked : overload.result.outcome = .ok outcome)
    (entered : registration bench.table
      (Name.entrySymbol naming.matlabName method bench.table.nextId) =
      (.ok bench.table.nextId,
        bench.table.enter (Name.entrySymbol naming.matlabName method bench.table.nextId))) :
    (emitBranch registration config naming method index overload).perform bench =
      (.ok (ProxyBranch.ofOverload overload outcome bench.table.nextId),
        bench.place config ⟨naming, method, index, overload, outcome⟩) := by
  simp only [emitBranch, writeFunction, perform_bind, perform_requireOutcome, checked,
    Except.mapError, perform_nextId, perform_writeNative, perform_report, perform_pure,
    perform_register, entered, ne_eq, not_true_eq_false, if_false]
  simp [Workbench.place, Placement.events, Placement.symbol, Placement.function]

/-- A table of a session enters every such symbol. -/
theorem perform_emitBranch {naming : ClassNaming} {method : String} {index : Nat}
    {overload : Overload} {outcome : Outcome} (numbered : bench.table.Numbered)
    (checked : overload.result.outcome = .ok outcome) :
    (emitBranch FunctionTable.plainRegistration config naming method index overload).perform
        bench =
      (.ok (ProxyBranch.ofOverload overload outcome bench.table.nextId),
        bench.place config ⟨naming, method, index, overload, outcome⟩) := by
  apply perform_emitBranch_of_entered checked
  rw [FunctionTable.plainRegistration, numbered.register]

theorem follows_emitBranches (naming : ClassNaming) (method : String) (index : Nat)
    (overloads : List Overload) (bench : Workbench) (numbered : bench.table.Numbered) :
    Follows config bench (Station.ofOverloads naming method index overloads)
      (emitBranches FunctionTable.plainRegistration config naming method index overloads)
      (Placement.numbered Placement.branch bench.table.nextId
        (Station.placements (Station.ofOverloads naming method index overloads)))
      bench.proxy := by
  induction overloads generalizing index bench with
  | nil => exact .of_perform rfl
  | cons overload rest ih =>
    cases checked : overload.result.outcome with
    | error fault =>
      apply Follows.of_stop (.malformedResult naming.matlabName method index fault)
      · simp [Station.violation?, checked]
      · simp [emitBranches, emitBranch, perform_bind, perform_requireOutcome, checked,
          Except.mapError]
    | ok outcome =>
      have placed : (Station.overloadResult naming method index overload).placement? =
          some ⟨naming, method, index, overload, outcome⟩ := by
        simp [Station.placement?, checked]
      have passed : bench.pass config (.overloadResult naming method index overload) =
          bench.place config ⟨naming, method, index, overload, outcome⟩ := by
        rw [Workbench.pass_of_placement placed]
        simp [Station.announcement, Workbench.reported]
      have clear : (Station.overloadResult naming method index overload).Clear := by
        rw [← Station.violation?_eq_none_iff]
        simp [Station.violation?, checked]
      have first : Follows config bench [.overloadResult naming method index overload]
          (emitBranch FunctionTable.plainRegistration config naming method index overload)
          (ProxyBranch.ofOverload overload outcome bench.table.nextId) bench.proxy := by
        apply Follows.of_clear clear
        rw [perform_emitBranch numbered checked, passed]
        rfl
      have later := ih (index + 1)
        ((bench.passAll config [.overloadResult naming method index overload]).withProxy
          bench.proxy)
        (numbered.passAll [.overloadResult naming method index overload])
      have branches : Placement.numbered Placement.branch bench.table.nextId
          (Station.placements (Station.ofOverloads naming method index (overload :: rest))) =
          ProxyBranch.ofOverload overload outcome bench.table.nextId ::
            Placement.numbered Placement.branch (bench.table.nextId + 1)
              (Station.placements (Station.ofOverloads naming method (index + 1) rest)) := by
        rw [Station.ofOverloads, Station.placements, List.filterMap_cons_some placed]
        rfl
      rw [branches]
      change Follows config bench ([_] ++ Station.ofOverloads naming method (index + 1) rest)
        (emitBranch FunctionTable.plainRegistration config naming method index overload >>= _) _ _
      refine first.bind (later.bind_silent ?_)
      simp [Station.placements, placed]

theorem follows_announceMethod {naming : ClassNaming} {declared : StaticMethod} :
    Follows config bench [.overloadSet naming declared] (announceMethod naming declared) ()
      bench.proxy := by
  by_cases empty : declared.overloads = []
  · apply Follows.of_stop (.noOverloads naming.matlabName declared.name)
    · simp [Station.violation?, empty]
    · simp [announceMethod, empty, perform_bind]
  · apply Follows.of_clear (Station.clear_overloadSet.2 empty)
    simp [announceMethod, empty, Workbench.pass, Station.placement?, Station.announcement,
      Workbench.reported, Workbench.withProxy]

/-- A method's proxy function is written after the native functions of its overloads. -/
theorem follows_emitMethod (naming : ClassNaming) (declared : StaticMethod) (level : Int)
    (bench : Workbench) (numbered : bench.table.Numbered) :
    Follows config bench (Station.ofMethod naming declared)
      (emitMethod FunctionTable.plainRegistration config naming declared level)
      (calledIds [declared.proxyFunction naming bench.table.nextId])
      (bench.proxy.extend
        ((declared.proxyFunction naming bench.table.nextId).lines config level)) := by
  have branches : Follows config
      ((bench.passAll config [.overloadSet naming declared]).withProxy bench.proxy)
      (Station.ofOverloads naming declared.name 0 declared.overloads)
      (emitBranches FunctionTable.plainRegistration config naming declared.name 0
        declared.overloads)
      (declared.proxyFunction naming bench.table.nextId).branches bench.proxy :=
    follows_emitBranches naming declared.name 0 declared.overloads _ numbered
  change Follows config bench
    ([_] ++ Station.ofOverloads naming declared.name 0 declared.overloads)
    (announceMethod naming declared >>= fun _ =>
      writeMethod FunctionTable.plainRegistration config naming declared level) _ _
  refine follows_announceMethod.bind (branches.bind_silent ?_)
  simp only [perform_bind, perform_writeProxy, perform_pure]
  simp [calledIds, StaticMethod.proxyFunction, Workbench.withProxy]

theorem follows_emitFurtherMethods (naming : ClassNaming) (methods : List StaticMethod)
    (bench : Workbench) (numbered : bench.table.Numbered) :
    Follows config bench (Station.ofMethods naming methods)
      (emitFurtherMethods FunctionTable.plainRegistration config naming methods)
      (calledIds (proxyFunctions naming bench.table.nextId methods))
      (bench.proxy.extend ((ClassFile.furtherLines config.wrapperName
        (proxyFunctions naming bench.table.nextId methods)).map (NestedLine.text config))) := by
  induction methods generalizing bench with
  | nil =>
    apply Follows.of_perform
    rw [ClassFile.furtherLines, proxyFunctions, List.flatMap_nil, List.map_nil,
      TextBuffer.extend_nil]
    rfl
  | cons declared rest ih =>
    let opened := bench.withProxy (bench.proxy.extend [ClassFile.separator.text config])
    have first : Follows config opened _ _ _ _ :=
      follows_emitMethod naming declared ClassFile.functionLevel opened numbered
    have later := fun proxy => ih
      ((opened.passAll config (Station.ofMethod naming declared)).withProxy proxy)
      (numbered.passed config (Station.ofMethod naming declared) _ proxy)
    refine .silent_bind (perform_writeNested_withProxy _) ?_
    rw [Station.ofMethods, List.flatMap_cons]
    refine first.bind ((later _).bind_silent ?_)
    simp [opened, calledIds, proxyFunctions, ClassFile.furtherLines,
      StaticMethod.length_branches_proxyFunction, TextBuffer.extend_extend, ProxyFunction.lines]

theorem follows_emitMethods (naming : ClassNaming) (methods : List StaticMethod)
    (bench : Workbench) (numbered : bench.table.Numbered) :
    Follows config bench (Station.ofMethods naming methods)
      (emitMethods FunctionTable.plainRegistration config naming methods)
      (calledIds (proxyFunctions naming bench.table.nextId methods))
      (bench.proxy.extend ((ClassFile.blockLines config.wrapperName
        (proxyFunctions naming bench.table.nextId methods)).map (NestedLine.text config))) := by
  cases methods with
  | nil =>
    apply Follows.of_perform
    rw [proxyFunctions, ClassFile.blockLines, List.map_nil, TextBuffer.extend_nil]
    rfl
  | cons declared rest =>
    let opened := bench.withProxy (bench.proxy.extend [ClassFile.blockOpening.text config])
    have first : Follows config opened _ _ _ _ :=
      follows_emitMethod naming declared ClassFile.functionLevel opened numbered
    have later : ∀ proxy, Follows config _ _ _ _ _ := fun proxy =>
      follows_emitFurtherMethods naming rest
        ((opened.passAll config (Station.ofMethod naming declared)).withProxy proxy)
        (numbered.passed config (Station.ofMethod naming declared) _ proxy)
    refine .silent_bind (perform_writeNested_withProxy _) ?_
    rw [Station.ofMethods, List.flatMap_cons]
    refine first.bind ((later _).bind_silent ?_)
    simp only [perform_bind, perform_writeNested_withProxy, perform_pure]
    simp [opened, calledIds, proxyFunctions, ClassFile.blockLines,
      StaticMethod.length_branches_proxyFunction, TextBuffer.extend_extend, ProxyFunction.lines]

theorem follows_requireDistinctMethods {naming : ClassNaming} {methods : List StaticMethod} :
    Follows config bench (Station.ofNames naming [] methods)
      (requireDistinctMethods naming methods) () bench.proxy := by
  apply Follows.of_findSome
  · intro before start
    exact Workbench.passAll_of_silent fun station member =>
      Station.silent_of_mem_ofNames (start.mem member)
  · rw [Station.findSome?_ofNames, requireDistinctMethods]
    cases methodCollision? [] methods with
    | none => rfl
    | some collision => rfl

/-- The stations of a class are followed by the work on its file. -/
theorem follows_emitClass (naming : ClassNaming) (methods : List StaticMethod)
    (bench : Workbench) (numbered : bench.table.Numbered) :
    Follows config bench
      (Station.ofNames naming [] methods ++ Station.ofMethods naming methods)
      (emitClass FunctionTable.plainRegistration config naming methods)
      (calledIds (proxyFunctions naming bench.table.nextId methods))
      (bench.proxy.extend
        (ClassFile.lines config naming (proxyFunctions naming bench.table.nextId methods))) := by
  refine follows_requireDistinctMethods.bind ?_
  rw [Workbench.passAll_ofNames, Workbench.withProxy_self]
  refine .silent_bind (perform_writeNested_withProxy _) ?_
  have block : Follows config (bench.withProxy (bench.proxy.extend
      ((ClassFile.header naming).map (NestedLine.text config)))) _ _ _ _ :=
    follows_emitMethods naming methods _ numbered
  refine block.bind_silent ?_
  simp only [perform_bind, perform_writeNested_withProxy, perform_pure]
  simp [ClassFile.lines, ClassFile.nestedLines, TextBuffer.extend_extend]

theorem follows_emitClassFile (snapshot : Snapshot) (naming : ClassNaming) (bench : Workbench)
    (numbered : bench.table.Numbered) :
    Follows config bench
      (Station.ofNames naming [] (snapshot.methodsOf naming.name) ++
        Station.ofMethods naming (snapshot.methodsOf naming.name))
      (emitClassFile config snapshot naming)
      ⟨ClassFile.lines config naming
        (proxyFunctions naming bench.table.nextId (snapshot.methodsOf naming.name))⟩
      ⟨ClassFile.lines config naming
        (proxyFunctions naming bench.table.nextId (snapshot.methodsOf naming.name))⟩ := by
  have started : startProxy.perform bench = (.ok (), bench.withProxy {}) := rfl
  refine .silent_bind started ?_
  refine (follows_emitClass naming _ (bench.withProxy {}) numbered).bind_silent ?_
  simp only [perform_bind, perform_currentBench, perform_pure]
  simp [TextBuffer.extend]

/-- **The classes are emitted one after the other, as their stations come.** -/
theorem follows_emitClassFiles (snapshot : Snapshot) (earlier : List String)
    (classes : List ClassNaming) (bench : Workbench) (numbered : bench.table.Numbered) :
    ∃ proxy, Follows config bench (Station.ofClasses snapshot earlier classes)
      (emitClassFiles config snapshot earlier classes)
      (classFiles config (snapshot.classFunctions bench.table.nextId classes)) proxy := by
  induction classes generalizing earlier bench with
  | nil => exact ⟨bench.proxy, .of_perform rfl⟩
  | cons naming rest ih =>
    by_cases taken : naming.matlabName ∈ earlier
    · refine ⟨bench.proxy, .of_stop (.classCollision naming) ?_ ?_⟩
      · simp [Station.violation?, taken]
      · simp [emitClassFiles, taken, perform_bind]
    · have file : Follows config bench _ _ _ _ :=
        follows_emitClassFile snapshot naming bench numbered
      have emission : emitClassFiles config snapshot earlier (naming :: rest) =
          emitClassFile config snapshot naming >>= fun content =>
            emitClassFiles config snapshot (naming.matlabName :: earlier) rest >>= fun others =>
              pure ((naming.matlabName, content) :: others) := by
        rw [emitClassFiles]
        simp [taken]
      obtain ⟨proxy, later⟩ := ih (naming.matlabName :: earlier)
        ((bench.passAll config
          (Station.ofNames naming [] (snapshot.methodsOf naming.name) ++
            Station.ofMethods naming (snapshot.methodsOf naming.name))).withProxy
          ⟨ClassFile.lines config naming
            (proxyFunctions naming bench.table.nextId (snapshot.methodsOf naming.name))⟩)
        (numbered.passAll _)
      refine ⟨proxy, Follows.cons taken ?_ ?_⟩
      · exact Workbench.pass_of_silent ⟨rfl, rfl⟩
      · rw [emission]
        refine file.bind (later.bind_silent ?_)
        simp [classFiles, Snapshot.classFunctions, Workbench.passAll_append,
          Workbench.passAll_ofNames, length_calledIds_proxyFunctions]

end Emission

end MexBridge
