import MexBridge.Proofs.Session.Outcome
import MexBridge.Proofs.FunctionTable.Numbering

/-!
# The log of a session

A session logs as it goes: when it comes to the overloads of a method, a warning for each of them
that is shadowed, and then for each overload that its native function was written and that it got
its number.  `Station.trace` lists these events for the stations that were passed, and
`logAfter_eq_trace` says that they are the log at that point.

What is kept of an event is a `LogRecord`, with its level, its logger and its message.
`Station.records` spells out the records for the stations that were passed, and `map_logged_trace`
says that they are those of the trace.

A session that fails does so at one station (`Session.StopsAt`), and the records of its log are
those for the stations in front of it; the records of a session that ends well are those for all
stations and one more behind them.  This is `Session.runWritable_log`.
-/

set_option autoImplicit false

namespace MexBridge

/-! ## Records -/

/-- What a log keeps of an event: the word for its level, the logger that it went to, and the
message. -/
structure LogRecord where
  event : Event
  levelName : String
  logger : String
  message : String
  deriving DecidableEq

/-- The record of an event. -/
def Event.logged (event : Event) : LogRecord where
  event := event
  levelName := event.level.written
  logger := event.logger
  message := event.message

namespace LogRecord

/-- The warning about an overload with the dispatch key of an earlier one. -/
def shadowed (matlabClass method : String) (shadowing : Shadowing) : LogRecord where
  event := .overloadShadowed matlabClass method shadowing
  levelName := "WARNING"
  logger := "mexwrap.codegen.proxy"
  message := matlabClass ++ "." ++ method ++ ": overload " ++ toString shadowing.shadowed ++
    " has the same arity and argument types as overload " ++ toString shadowing.winner ++
    " and is unreachable"

/-- The two records of an overload: its native function was written, and it got its number. -/
def ofOverload (matlabClass method : String) (index id : Nat) : List LogRecord :=
  let symbol := Name.entrySymbol matlabClass method id
  [{ event := .nativeWritten symbol matlabClass method index
     levelName := "DEBUG"
     logger := "mexwrap.codegen.native"
     message := "emitted native wrapper " ++ symbol ++ " for " ++ matlabClass ++ "." ++ method ++
      " overload " ++ toString index },
    { event := .overloadNumbered matlabClass method index id symbol
      levelName := "DEBUG"
      logger := "mexwrap.codegen.proxy"
      message := matlabClass ++ "." ++ method ++ " overload " ++ toString index ++ " -> id " ++
        toString id ++ " (" ++ symbol ++ ")" }]

/-- The record of a session that ended well. -/
def finished (proxyCount nativeCount start : Nat) (moduleName : String) : LogRecord where
  event := .generated proxyCount nativeCount start moduleName
  levelName := "INFO"
  logger := "mexwrap.session"
  message := "generated " ++ toString proxyCount ++ " class proxies, " ++ toString nativeCount ++
    " native wrappers (ids " ++ toString start ++ ".." ++
    toString ((start : Int) + nativeCount - 1) ++ ") for module " ++ moduleName

end LogRecord

namespace Event

/-- A log is cut in front of the native function that is one too many. -/
theorem beforeNative?_of_native {count : Nat} {earlier later : List Event} {event : Event}
    (native : event.isNative = true) (full : earlier.countP isNative = count) :
    beforeNative? count (earlier ++ event :: later) = some earlier := by
  induction earlier generalizing count with
  | nil =>
    subst full
    simp [beforeNative?, native]
  | cons first rest ih =>
    subst full
    by_cases counted : first.isNative = true
    · rw [List.countP_cons_of_pos counted]
      simp [beforeNative?, counted, ih]
    · rw [List.countP_cons_of_neg counted]
      simp [beforeNative?, counted, ih]

end Event

namespace Station

/-- What is logged when stations are passed, the first overload getting the number `first`: for a
method with its overloads one warning for each that is shadowed, and for an overload two lines with
its class, method and index and its symbol. -/
def trace (first : Nat) : List Station → List Event
  | [] => []
  | className _ _ :: rest => trace first rest
  | methodName _ _ _ :: rest => trace first rest
  | overloadSet naming method :: rest =>
    (shadowings method.overloads).map (.overloadShadowed naming.matlabName method.name ·) ++
      trace first rest
  | overloadResult naming method index _ :: rest =>
    let symbol := Name.entrySymbol naming.matlabName method first
    .nativeWritten symbol naming.matlabName method index ::
      .overloadNumbered naming.matlabName method index first symbol :: trace (first + 1) rest

/-- The records that are kept when stations are passed, the first overload getting the number
`first`. -/
def records (first : Nat) : List Station → List LogRecord
  | [] => []
  | className _ _ :: rest => records first rest
  | methodName _ _ _ :: rest => records first rest
  | overloadSet naming method :: rest =>
    (shadowings method.overloads).map (.shadowed naming.matlabName method.name) ++
      records first rest
  | overloadResult naming method index _ :: rest =>
    LogRecord.ofOverload naming.matlabName method index first ++ records (first + 1) rest

/-- **The records of a trace.** -/
theorem map_logged_trace (first : Nat) (stations : List Station) :
    (trace first stations).map Event.logged = records first stations := by
  induction stations generalizing first with
  | nil => rfl
  | cons station rest ih =>
    cases station with
    | className earlier naming => exact ih first
    | methodName naming earlier method => exact ih first
    | overloadSet naming method =>
      rw [trace, List.map_append, List.map_map, records, ih]
      rfl
    | overloadResult naming method index overload =>
      rw [records, ← ih]
      rfl

/-- No record for a station says that a session ended. -/
theorem levelName_ne_info_of_mem_records {first : Nat} {stations : List Station}
    {record : LogRecord} (member : record ∈ records first stations) :
    record.levelName ≠ "INFO" := by
  induction stations generalizing first with
  | nil => cases member
  | cons station rest ih =>
    cases station with
    | className earlier naming => exact ih member
    | methodName naming earlier method => exact ih member
    | overloadSet naming method =>
      rcases List.mem_append.1 member with warned | later
      · obtain ⟨_, _, rfl⟩ := List.mem_map.1 warned
        exact ne_of_beq_false rfl
      · exact ih later
    | overloadResult naming method index overload =>
      rcases List.mem_append.1 member with own | later
      · rcases List.mem_pair.1 own with rfl | rfl
        · exact ne_of_beq_false rfl
        · exact ne_of_beq_false rfl
      · exact ih later

theorem filter_info_records (first : Nat) (stations : List Station) :
    (records first stations).filter (fun record => record.levelName = "INFO") = [] := by
  rw [List.filter_eq_nil_iff]
  intro record member
  rw [decide_eq_true_eq]
  exact levelName_ne_info_of_mem_records member

end Station

/-- **Passing clear stations logs their trace.** -/
theorem Workbench.events_passAll {config : Config} (bench : Workbench) {stations : List Station}
    (clear : ∀ station ∈ stations, station.Clear) :
    (bench.passAll config stations).events =
      bench.events ++ Station.trace bench.table.nextId stations := by
  induction stations generalizing bench with
  | nil => exact (List.append_nil _).symm
  | cons station rest ih =>
    have own : station.Clear := clear station List.mem_cons_self
    rw [passAll_cons, ih _ fun later member => clear later (List.mem_cons_of_mem _ member)]
    cases station with
    | className earlier naming => rw [pass_of_silent ⟨rfl, rfl⟩, Station.trace]
    | methodName naming earlier method => rw [pass_of_silent ⟨rfl, rfl⟩, Station.trace]
    | overloadSet naming method =>
      rw [pass_of_no_placement rfl, Station.trace, ← List.append_assoc]
      rfl
    | overloadResult naming method index overload =>
      obtain ⟨outcome, checked⟩ := DeclaredResult.outcome_isOk_iff.2 own
      have placed : (Station.overloadResult naming method index overload).placement? =
          some ⟨naming, method, index, overload, outcome⟩ := by
        simp only [Station.placement?, checked]
      rw [pass_of_placement placed, Station.trace]
      simp [place, reported, Station.announcement, Placement.events, Placement.symbol]

/-- Clear stations at the beginning lie in front of the first one that is not clear. -/
theorem Snapshot.FirstUnclear.prefix_of_clear {snapshot : Snapshot} {before part : List Station}
    {station : Station} (first : snapshot.FirstUnclear before station)
    (reached : part <+: snapshot.stations) (clear : ∀ earlier ∈ part, earlier.Clear) :
    part <+: before := by
  rcases List.prefix_or_prefix_of_prefix reached first.reached with inside | beyond
  · rcases List.prefix_concat_iff.1 inside with rfl | within
    · exact absurd (clear station (List.mem_append_right _ List.mem_cons_self)) first.unclear
    · exact within
  · exact absurd (clear station (beyond.mem (List.mem_append_right _ List.mem_cons_self)))
      first.unclear

namespace Session

variable {session : Session}

/-- **The log at a station is the trace of those in front of it.** -/
theorem logAfter_eq_trace {passed : List Station} (clear : ∀ station ∈ passed, station.Clear) :
    session.logAfter passed = Station.trace session.first passed := by
  rw [logAfter, Workbench.events_passAll _ clear, nextId_opened]
  exact List.nil_append _

/-- Behind the log at a station that places an overload come the two events of this overload. -/
theorem events_prefix_logAfter (session : Session) (before : List Station) {station : Station}
    {placement : Placement} (placed : station.placement? = some placement)
    (after : List Station) :
    session.logAfter before ++
        placement.events (session.opened.passAll session.config before).table.nextId <+:
      session.logAfter (before ++ station :: after) := by
  have unannounced : station.announcement = [] := by
    cases station with
    | overloadResult naming method index overload => rfl
    | className earlier naming => cases placed
    | methodName naming earlier method => cases placed
    | overloadSet naming method => cases placed
  have events : ((session.opened.passAll session.config before).pass session.config
      station).events = session.logAfter before ++
        placement.events (session.opened.passAll session.config before).table.nextId := by
    rw [Workbench.pass_of_placement placed, unannounced]
    exact congrArg (· ++ _) (List.append_nil _)
  rw [← events, logAfter, Workbench.passAll_append, Workbench.passAll_cons]
  exact Workbench.events_prefix_passAll _ after

/-! ## Where a session stops -/

/-- A session stops at a station with a fault: the station is the first one that is not clear, or
else there is no number for the overload there. -/
inductive StopsAt (session : Session) (before : List Station) (station : Station) :
    EmissionFault → Prop
  | unclear {violation : Violation} (first : session.snapshot.FirstUnclear before station)
      (found : station.violation? = some violation)
      (numbered : session.CanNumber (Station.placements before).length) :
      StopsAt session before station (.violation violation)
  | unnumbered (runsOut : session.RunsOut before station) :
      StopsAt session before station (.number .tooManyDigits)

theorem RunsOut.length_placements (nonneg : 0 ≤ session.startId) {before : List Station}
    {station : Station} (runsOut : session.RunsOut before station) :
    (Station.placements before).length = writingBound - session.startId.toNat := by
  have room := (canNumber_iff nonneg).1 runsOut.numbered
  have full := runsOut.unwritable
  rw [← Bool.not_eq_true, isWritable_iff] at full
  omega

/-- The log of a session whose numbers run out stops there, however far it would have come. -/
theorem RunsOut.runWritable_eq (nonneg : 0 ≤ session.startId) {before : List Station}
    {station : Station} (runsOut : session.RunsOut before station) {passed : List Station}
    (inside : before ++ [station] <+: passed) {answer : Except EmissionFault Generated}
    {closing : List Event} (ran : session.run = (answer, session.logAfter passed ++ closing)) :
    session.runWritable = (.error (.number .tooManyDigits), session.logAfter before) := by
  obtain ⟨after, rfl⟩ := inside
  obtain ⟨placement, placed⟩ := Option.isSome_iff_exists.1 runsOut.placed
  obtain ⟨later, goesOn⟩ := session.events_prefix_logAfter before placed after
  have full : (session.logAfter before).countP Event.isNative =
      writingBound - session.startId.toNat := by
    rw [countP_isNative_logAfter, runsOut.length_placements nonneg]
  rw [List.append_assoc, List.singleton_append, ← goesOn, Placement.events, List.append_assoc,
    List.append_assoc, List.cons_append] at ran
  simp only [runWritable, ran]
  rw [Event.beforeNative?_of_native rfl full]

/-- **A session that stops at a station logs the trace of those in front of it.** -/
theorem StopsAt.runWritable_eq (nonneg : 0 ≤ session.startId) {before : List Station}
    {station : Station} {fault : EmissionFault} (stops : session.StopsAt before station fault) :
    session.runWritable = (.error fault, Station.trace session.first before) := by
  cases stops with
  | unclear first found numbered =>
    have ran := run_of_firstUnclear nonneg first found
    have natives : session.run.2.countP Event.isNative = (Station.placements before).length := by
      rw [ran, countP_isNative_logAfter]
    rw [runWritable_of_canNumber nonneg (natives.symm ▸ numbered), ran,
      logAfter_eq_trace first.passed]
  | unnumbered runsOut =>
    have passed : ∀ earlier ∈ before, earlier.Clear := fun earlier member =>
      runsOut.passed earlier (List.mem_append_left _ member)
    rw [← logAfter_eq_trace passed]
    -- without the bound, the session would have gone on to its end or to an unclear station
    rcases session.snapshot.clear_or_firstUnclear with clear | ⟨later, last, first⟩
    · exact runsOut.runWritable_eq nonneg runsOut.reached (run_of_clear nonneg clear)
    · obtain ⟨violation, found⟩ := first.exists_violation
      have ran := run_of_firstUnclear nonneg first found
      rw [← List.append_nil (session.logAfter later)] at ran
      exact runsOut.runWritable_eq nonneg
        (first.prefix_of_clear runsOut.reached runsOut.passed) ran

theorem exists_stopsAt (nonneg : 0 ≤ session.startId) {fault : EmissionFault}
    (failed : session.runWritable.1 = .error fault) :
    ∃ (before : List Station) (station : Station), session.StopsAt before station fault := by
  rcases session.snapshot.clear_or_firstUnclear with clear | ⟨before, station, first⟩
  · rcases runWritable_of_clear nonneg clear with ⟨_, outcome⟩ | ⟨_, _, runsOut, outcome⟩
    · rw [outcome] at failed
      cases failed
    · rw [outcome] at failed
      cases failed
      exact ⟨_, _, .unnumbered runsOut⟩
  · obtain ⟨violation, found⟩ := first.exists_violation
    rcases runWritable_of_firstUnclear nonneg first found with
      ⟨numbered, outcome⟩ | ⟨_, _, runsOut, outcome⟩
    · rw [outcome] at failed
      cases failed
      exact ⟨_, _, .unclear first found numbered⟩
    · rw [outcome] at failed
      cases failed
      exact ⟨_, _, .unnumbered runsOut⟩

/-- Writing numbers does not touch a session that ends well. -/
theorem runWritable_eq_run_of_ok {generated : Generated}
    (succeeded : session.runWritable.1 = .ok generated) : session.runWritable = session.run := by
  cases cut : Event.beforeNative? (writingBound - session.startId.toNat) session.run.2 with
  | some earlier =>
    simp only [runWritable, cut] at succeeded
    cases succeeded
  | none => simp only [runWritable, cut]

theorem log_of_runWritable {generated : Generated}
    (succeeded : session.runWritable.1 = .ok generated) :
    session.runWritable.2 = Station.trace session.first session.snapshot.stations ++
      [.generated generated.proxies.length generated.table.size generated.table.start
        session.config.moduleName] := by
  obtain ⟨nonneg, emittable, rfl⟩ := eq_assembled_of_run (run_of_runWritable succeeded)
  have clear := Snapshot.stations_clear_iff.2 emittable
  rw [runWritable_eq_run_of_ok succeeded, run_of_clear nonneg clear, logAfter_eq_trace clear]
  rfl

/-- **The log of a session.**  If it ends well, the records of its log are those for all its
stations, each a warning about a shadowed overload or one of the two records of level DEBUG of an
overload, and behind them the only record of level INFO, which counts the proxies and the entries of
the table.  If it fails, it does so at a station, and its records are those for the stations in
front of it, none of them of level INFO. -/
theorem runWritable_log (session : Session) (nonneg : 0 ≤ session.startId) :
    (∀ generated : Generated, session.runWritable.1 = .ok generated →
      let closing := LogRecord.finished generated.proxies.length generated.table.entries.length
        generated.table.start session.config.moduleName
      session.runWritable.2.map Event.logged =
        Station.records session.first session.snapshot.stations ++ [closing] ∧
      (session.runWritable.2.map Event.logged).filter (fun record => record.levelName = "INFO") =
        [closing]) ∧
    (∀ fault : EmissionFault, session.runWritable.1 = .error fault →
      (∃ (before : List Station) (station : Station), session.StopsAt before station fault) ∧
      (session.runWritable.2.map Event.logged).filter
        (fun record => record.levelName = "INFO") = []) ∧
    ∀ (before : List Station) (station : Station) (fault : EmissionFault),
      session.StopsAt before station fault →
      session.runWritable.1 = .error fault ∧
      session.runWritable.2.map Event.logged = Station.records session.first before := by
  have stopped : ∀ (before : List Station) (station : Station) (fault : EmissionFault),
      session.StopsAt before station fault → session.runWritable.1 = .error fault ∧
        session.runWritable.2.map Event.logged = Station.records session.first before := by
    intro before station fault stops
    rw [stops.runWritable_eq nonneg]
    exact ⟨rfl, Station.map_logged_trace _ _⟩
  refine ⟨fun generated succeeded => ?_, fun fault failed => ?_, stopped⟩
  · have log : session.runWritable.2.map Event.logged =
        Station.records session.first session.snapshot.stations ++
          [.finished generated.proxies.length generated.table.entries.length
            generated.table.start session.config.moduleName] := by
      rw [log_of_runWritable succeeded, List.map_append, Station.map_logged_trace,
        generated.table.length_entries]
      rfl
    refine ⟨log, ?_⟩
    rw [log, List.filter_append, Station.filter_info_records]
    rfl
  · obtain ⟨before, station, stops⟩ := exists_stopsAt nonneg failed
    refine ⟨⟨before, station, stops⟩, ?_⟩
    rw [(stopped before station fault stops).2]
    exact Station.filter_info_records _ _

/-- A session on a class with two methods: the first one repeats an overload, and the second one has
an overload without a result shape. -/
def repeatedThenShapeless : Session where
  snapshot := .ofParts [⟨"Box", "shop::Box", "Box", []⟩]
    [("Box", [⟨"scaled",
        [⟨[], .shape ⟨.nothing, []⟩⟩,
          ⟨[{ type := ⟨"double", []⟩, name := "factor" }], .shape ⟨.nothing, []⟩⟩,
          ⟨[], .shape ⟨.single, [⟨⟨"double", []⟩, .copied, false⟩]⟩⟩]⟩,
      ⟨"total", [⟨[], .shape ⟨.nothing, []⟩⟩, ⟨[], .plain .absent⟩]⟩])]
  config := (small 0).config
  startId := 5

/-- The overload without a result shape is reached: what comes before it is logged, the warnings in
front of the overloads of their method, and nothing behind that. -/
theorem runWritable_log_repeatedThenShapeless :
    0 ≤ repeatedThenShapeless.startId ∧
    ∃ (before : List Station) (station : Station),
      repeatedThenShapeless.StopsAt before station
        (.violation (.malformedResult "Box" "total" 1 (.notAShape .absent))) ∧
      repeatedThenShapeless.runWritable.1 =
        .error (.violation (.malformedResult "Box" "total" 1 (.notAShape .absent))) ∧
      repeatedThenShapeless.runWritable.2.map Event.logged =
        .shadowed "Box" "scaled" ⟨2, 0⟩ :: (LogRecord.ofOverload "Box" "scaled" 0 5 ++
          LogRecord.ofOverload "Box" "scaled" 1 6 ++ LogRecord.ofOverload "Box" "scaled" 2 7 ++
          .shadowed "Box" "total" ⟨1, 0⟩ :: LogRecord.ofOverload "Box" "total" 0 8) := by
  have nonneg : 0 ≤ repeatedThenShapeless.startId := by decide
  have passed : (repeatedThenShapeless.snapshot.stations.take 9).findSome?
      Station.violation? = none := by decide
  have first : repeatedThenShapeless.snapshot.FirstUnclear
      (repeatedThenShapeless.snapshot.stations.take 9)
      (.overloadResult ⟨"Box", "shop::Box", "Box", []⟩ "total" 1 ⟨[], .plain .absent⟩) :=
    { reached := ⟨[], rfl⟩
      passed := Station.findSome?_violation?_eq_none_iff.1 passed
      unclear := fun clear => nomatch Station.violation?_eq_none_iff.2 clear }
  have numbered : repeatedThenShapeless.CanNumber (Station.placements
      (repeatedThenShapeless.snapshot.stations.take 9)).length :=
    (canNumber_iff nonneg).2 (by decide +kernel)
  have stops := StopsAt.unclear first rfl numbered
  exact ⟨nonneg, _, _, stops, (runWritable_log _ nonneg).2.2 _ _ _ stops⟩

end Session

end MexBridge
