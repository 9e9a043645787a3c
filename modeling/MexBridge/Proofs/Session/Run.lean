import MexBridge.Proofs.Emission.ClassFiles
import MexBridge.Proofs.Traversal.Listing

/-!
# What a session does

A session passes the stations of its snapshot.  If all of them are clear it ends with
`Session.assembled`, the class files, the wrapper file and the table of its placements
(`run_of_clear`); otherwise it stops with the cause of the first station that is not clear, having
placed what comes before it (`run_of_violation`).

Numbers have to be written out, and those of too many digits cannot be.  `Session.CanNumber` says
that so many overloads can be numbered from the first number on; `runWritable_of_canNumber` and
`runWritable_of_not_canNumber` say what this means for a session.
-/

set_option autoImplicit false

namespace MexBridge

namespace Session

/-- The overloads that a session places if nothing stops it. -/
def placements (session : Session) : List Placement :=
  Station.placements session.snapshot.stations

/-- The first number. -/
def first (session : Session) : Nat :=
  session.startId.toNat

/-- The native functions of a session, in the order of their numbers. -/
def functions (session : Session) : List NativeFunction :=
  Placement.numbered (Placement.function session.config) session.first session.placements

/-- The function table at the end of a session. -/
def table (session : Session) : FunctionTable where
  start := session.first
  symbols := Placement.numbered Placement.symbol session.first session.placements
  frozen := true

/-- The proxy functions of the listed classes. -/
def classFunctions (session : Session) : List (ClassNaming × List ProxyFunction) :=
  session.snapshot.classFunctions session.first session.snapshot.classes

/-- What a session assembles if nothing stops it. -/
def assembled (session : Session) : Generated where
  proxies := classFiles session.config session.classFunctions
  wrapper := ⟨Gateway.prologue session.config ++
    session.functions.flatMap NativeFunction.lines ++
      Gateway.lines session.config session.table⟩
  table := session.table
  wrapperName := session.config.wrapperName

/-- The bench when the first class is looked at. -/
def opened (session : Session) : Workbench where
  native := ⟨Gateway.prologue session.config⟩
  table := { start := session.first }

/-- The log when some stations were passed. -/
def logAfter (session : Session) (passed : List Station) : List Event :=
  (session.opened.passAll session.config passed).events

variable {session : Session}

theorem startingAt_of_nonneg (nonneg : 0 ≤ session.startId) :
    FunctionTable.startingAt session.startId = .ok { start := session.first } := by
  rw [FunctionTable.startingAt, if_neg (Int.not_lt.2 nonneg)]
  rfl

/-- The class files are listed in the order of the classes. -/
theorem map_fst_proxies : session.assembled.proxies.map Prod.fst =
    session.snapshot.classes.map ClassNaming.matlabName := by
  have names : ∀ (first : Nat) (classes : List ClassNaming),
      (session.snapshot.classFunctions first classes).map Prod.fst = classes := by
    intro first classes
    induction classes generalizing first with
    | nil => rfl
    | cons naming rest ih => rw [Snapshot.classFunctions, List.map_cons, ih]
  unfold assembled classFiles classFunctions
  rw [List.map_map, ← names session.first session.snapshot.classes, List.map_map]
  rw [names]
  rfl

theorem countP_isNative_logAfter (passed : List Station) :
    (session.logAfter passed).countP Event.isNative = (Station.placements passed).length := by
  rw [logAfter, Workbench.countP_isNative_passAll]
  exact Nat.zero_add _

theorem perform_prologue :
    (Emission.writeNative (Gateway.prologue session.config)).perform
        { table := { start := session.first } } = (.ok (), session.opened) := rfl

theorem numbered_opened : session.opened.table.Numbered :=
  ⟨rfl, fun _ impossible => nomatch impossible⟩

theorem nextId_opened : session.opened.table.nextId = session.first := rfl

theorem freeze_passAll :
    (session.opened.passAll session.config session.snapshot.stations).table.freeze =
      session.table := by
  rw [Workbench.symbols_passAll, nextId_opened]
  rfl

theorem nativeLines_opened :
    (session.opened.passAll session.config session.snapshot.stations).native.lines =
      Gateway.prologue session.config ++ session.functions.flatMap NativeFunction.lines := by
  rw [Workbench.nativeLines_passAll, nextId_opened]
  rfl

/-- The class files of a session follow the stations of its snapshot. -/
theorem follows_classes (session : Session) :
    ∃ proxy, Emission.Follows session.config session.opened session.snapshot.stations
      (Emission.emitClassFiles session.config session.snapshot [] session.snapshot.classes)
      session.assembled.proxies proxy :=
  Emission.follows_emitClassFiles session.snapshot [] session.snapshot.classes session.opened
    numbered_opened

/-- **Without a hindrance a session ends with what it assembled.** -/
theorem run_of_clear (nonneg : 0 ≤ session.startId)
    (clear : ∀ station ∈ session.snapshot.stations, station.Clear) :
    session.run = (.ok session.assembled,
      session.logAfter session.snapshot.stations ++
        [.generated session.assembled.proxies.length session.table.size session.first
          session.config.moduleName]) := by
  obtain ⟨proxy, followed⟩ := session.follows_classes
  have files : (Emission.emitClassFiles session.config session.snapshot []
      session.snapshot.classes).perform session.opened =
      (.ok session.assembled.proxies, (session.opened.passAll session.config
        session.snapshot.stations).withProxy proxy) := followed.completes clear
  rw [run, startingAt_of_nonneg nonneg]
  simp only [Emission.emitSession, Emission.perform_bind, perform_prologue, files]
  simp only [Emission.perform_currentBench, Emission.perform_writeNative,
    Emission.perform_report, Emission.perform_pure, Workbench.table_withProxy, freeze_passAll,
    Workbench.native_withProxy, TextBuffer.extend, nativeLines_opened]
  rfl

/-- **A session stops at the first station that is not clear.** -/
theorem run_of_violation (nonneg : 0 ≤ session.startId) {before : List Station}
    {station : Station} {after : List Station} {violation : Violation}
    (parts : session.snapshot.stations = before ++ station :: after)
    (passed : ∀ earlier ∈ before, earlier.Clear) (found : station.violation? = some violation) :
    session.run = (.error (.violation violation), session.logAfter before) := by
  obtain ⟨proxy, followed⟩ := session.follows_classes
  obtain ⟨left, stopped⟩ := followed.stops parts passed found
  rw [run, startingAt_of_nonneg nonneg]
  simp only [Emission.emitSession, Emission.perform_bind, perform_prologue, stopped]
  rfl

/-! ## Numbers that can be written -/

/-- So many numbers can be written, from the first one on. -/
def CanNumber (session : Session) (count : Nat) : Prop :=
  ∀ offset < count, isWritable (session.startId + offset) = true

theorem canNumber_iff (nonneg : 0 ≤ session.startId) {count : Nat} :
    session.CanNumber count ↔ count ≤ writingBound - session.startId.toNat := by
  have writable : ∀ offset : Nat, isWritable (session.startId + offset) = true ↔
      session.startId.toNat + offset < writingBound := by
    intro offset
    rw [isWritable_iff]
    omega
  simp only [CanNumber, writable]
  constructor
  · intro each
    by_contra few
    have last := each (writingBound - session.startId.toNat) (by omega)
    omega
  · intro room offset below
    omega

/-- Numbers that can be written leave the outcome of a session as it is. -/
theorem runWritable_of_canNumber (nonneg : 0 ≤ session.startId)
    (room : session.CanNumber (session.run.2.countP Event.isNative)) :
    session.runWritable = session.run :=
  runWritable_eq_run ((canNumber_iff nonneg).1 room)

/-- A number that cannot be written stops a session. -/
theorem runWritable_of_not_canNumber (nonneg : 0 ≤ session.startId)
    (full : ¬ session.CanNumber (session.run.2.countP Event.isNative)) :
    session.runWritable.1 = .error (.number .tooManyDigits) := by
  rw [canNumber_iff nonneg, ← Event.beforeNative?_eq_none_iff] at full
  obtain ⟨earlier, cut⟩ := Option.ne_none_iff_exists'.1 full
  simp only [runWritable, cut]

/-- Writing numbers never turns a failure into a success. -/
theorem run_of_runWritable {generated : Generated}
    (succeeded : session.runWritable.1 = .ok generated) : session.run.1 = .ok generated := by
  simp only [runWritable] at succeeded
  split at succeeded
  · cases succeeded
  · exact succeeded

/-- **What a session generates is what it assembled.** -/
theorem eq_assembled_of_run {generated : Generated} (succeeded : session.run.1 = .ok generated) :
    0 ≤ session.startId ∧ session.snapshot.Emittable ∧ generated = session.assembled := by
  have nonneg : 0 ≤ session.startId := by
    by_contra negative
    rw [run, FunctionTable.startingAt, if_pos (Int.not_le.1 negative)] at succeeded
    cases succeeded
  refine ⟨nonneg, ?_⟩
  cases found : session.snapshot.stations.findSome? Station.violation? with
  | some violation =>
    obtain ⟨before, station, after, parts, stopped, passed⟩ := List.findSome?_eq_some_iff.1 found
    rw [run_of_violation nonneg parts
      (fun earlier member => Station.violation?_eq_none_iff.1 (passed earlier member))
      stopped] at succeeded
    cases succeeded
  | none =>
    have clear := Station.findSome?_violation?_eq_none_iff.1 found
    rw [run_of_clear nonneg clear] at succeeded
    cases succeeded
    exact ⟨Snapshot.stations_clear_iff.1 clear, rfl⟩

/-! ## A small session -/

/-- A session on a class with one method: its first overload takes and gives nothing, and its second
one takes and gives a number. -/
def small (start : Int) : Session where
  snapshot := .ofParts [⟨"Box", "shop::Box", "Box", []⟩]
    [("Box", [⟨"scaled",
      [⟨[], .shape ⟨.nothing, []⟩⟩,
        ⟨[{ type := ⟨"double", []⟩, name := "factor" }],
          .shape ⟨.single, [⟨⟨"double", []⟩, .copied, false⟩]⟩⟩]⟩])]
  config :=
    { moduleName := "shop", wrapperName := "shop_wrapper", usingNamespaces := []
      includes := defaultIncludes, indent := "  " }
  startId := start

theorem resolve_small (start : Int) :
    Settings.resolve { moduleName := "shop" } = .ok (small start).config := by
  rfl

theorem clear_small (start : Int) :
    ∀ station ∈ (small start).snapshot.stations, station.Clear := by
  have unfound : (small 0).snapshot.stations.findSome? Station.violation? = none := by decide
  exact Station.findSome?_violation?_eq_none_iff.1 unfound

theorem runWritable_small : (small 0).runWritable.1 = .ok (small 0).assembled := by
  have nonneg : 0 ≤ (small 0).startId := Int.le_refl 0
  have natives : (small 0).run.2.countP Event.isNative = 2 := by
    rw [run_of_clear nonneg (clear_small 0), List.countP_append, countP_isNative_logAfter]
    rfl
  have room : (small 0).CanNumber 2 := (canNumber_iff nonneg).2 (by decide +kernel)
  rw [runWritable_of_canNumber nonneg (natives.symm ▸ room), run_of_clear nonneg (clear_small 0)]

end Session

end MexBridge
