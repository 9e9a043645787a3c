import MexBridge.Proofs.Session.Artifacts
import MexBridge.Proofs.Session.Outcome

/-!
# Sessions put together

A session works through its classes in order, and what it does for a class depends on the classes
before it in two ways only: their MATLAB names are taken, and their overloads have used up numbers.
So a session on two lists of classes is a session on the first list, followed by one on the second
list that begins with the next number.

`Session.composition` says this of the outcome of a session: a failure on the first list is the
failure of the whole, and otherwise the two outcomes are joined, file by file and entry by entry.
-/

set_option autoImplicit false

namespace MexBridge

/-! ## The traversal of two lists of classes -/

theorem Snapshot.methodsOf_congr {snapshot other : Snapshot}
    (same : snapshot.methods = other.methods) (className : String) :
    snapshot.methodsOf className = other.methodsOf className := by
  rw [methodsOf, same, methodsOf]

namespace Station

/-- The traversal of classes reads nothing of a snapshot but its methods. -/
theorem ofClasses_congr {snapshot other : Snapshot} (same : snapshot.methods = other.methods)
    (earlier : List String) (classes : List ClassNaming) :
    ofClasses snapshot earlier classes = ofClasses other earlier classes := by
  induction classes generalizing earlier with
  | nil => rfl
  | cons naming rest ih =>
    rw [ofClasses, ofClasses, Snapshot.methodsOf_congr same, ih]

/-- The second list is traversed with the names of the first one taken. -/
theorem ofClasses_append (snapshot : Snapshot) (earlier : List String)
    (first second : List ClassNaming) :
    ofClasses snapshot earlier (first ++ second) =
      ofClasses snapshot earlier first ++
        ofClasses snapshot ((first.map ClassNaming.matlabName).reverse ++ earlier) second := by
  induction first generalizing earlier with
  | nil => rfl
  | cons naming rest ih =>
    rw [List.cons_append, ofClasses, ih, ofClasses, List.map_cons, List.reverse_cons,
      List.append_assoc _ [naming.matlabName], List.singleton_append, List.cons_append,
      List.append_assoc (_ ++ _)]

/-- The overloads that are placed do not depend on the names that are taken. -/
theorem placements_ofClasses_earlier (snapshot : Snapshot) (earlier other : List String)
    (classes : List ClassNaming) :
    placements (ofClasses snapshot earlier classes) =
      placements (ofClasses snapshot other classes) := by
  induction classes generalizing earlier other with
  | nil => rfl
  | cons naming rest ih =>
    rw [placements_ofClasses_cons, placements_ofClasses_cons, ih _ (naming.matlabName :: other)]

/-- Taken names matter only to the classes that have them. -/
theorem ofClasses_clear_earlier_iff {snapshot : Snapshot} {earlier : List String}
    {classes : List ClassNaming} :
    (∀ station ∈ ofClasses snapshot earlier classes, station.Clear) ↔
      (∀ station ∈ ofClasses snapshot [] classes, station.Clear) ∧
        ∀ naming ∈ classes, naming.matlabName ∉ earlier := by
  rw [Snapshot.ofClasses_clear_iff, Snapshot.ofClasses_clear_iff]
  constructor
  · rintro ⟨distinct, free, each⟩
    exact ⟨⟨distinct, fun _ _ => List.not_mem_nil, each⟩, free⟩
  · rintro ⟨⟨distinct, _, each⟩, free⟩
    exact ⟨distinct, free, each⟩

end Station

namespace Snapshot

theorem classFunctions_congr {snapshot other : Snapshot} (same : snapshot.methods = other.methods)
    (first : Nat) (classes : List ClassNaming) :
    snapshot.classFunctions first classes = other.classFunctions first classes := by
  induction classes generalizing first with
  | nil => rfl
  | cons naming rest ih =>
    rw [classFunctions, classFunctions, methodsOf_congr same, ih]

/-- The functions of the second list are numbered on behind the overloads of the first one. -/
theorem classFunctions_append (snapshot : Snapshot) (start : Nat) (earlier : List String)
    (first second : List ClassNaming) :
    snapshot.classFunctions start (first ++ second) =
      snapshot.classFunctions start first ++ snapshot.classFunctions
        (start + (Station.placements (Station.ofClasses snapshot earlier first)).length)
        second := by
  induction first generalizing start earlier with
  | nil => rfl
  | cons naming rest ih =>
    rw [List.cons_append, classFunctions, classFunctions, List.cons_append,
      ih _ (naming.matlabName :: earlier), length_calledIds_proxyFunctions,
      Station.placements_ofClasses_cons, List.length_append, Nat.add_assoc]

end Snapshot

/-! ## Sessions that end well, and sessions that do not -/

namespace Session

variable {session : Session}

/-- A session ends well exactly if nothing stops it and all numbers can be written. -/
theorem runWritable_eq_ok_iff (nonneg : 0 ≤ session.startId) {generated : Generated} :
    session.runWritable.1 = .ok generated ↔
      (∀ station ∈ session.snapshot.stations, station.Clear) ∧
        session.CanNumber session.placements.length ∧ generated = session.assembled := by
  have natives (clear : ∀ station ∈ session.snapshot.stations, station.Clear) :
      session.run.2.countP Event.isNative = session.placements.length := by
    rw [run_of_clear nonneg clear, List.countP_append, countP_isNative_logAfter]
    rfl
  constructor
  · intro succeeded
    obtain ⟨_, emittable, same⟩ := eq_assembled_of_run (run_of_runWritable succeeded)
    have clear := Snapshot.stations_clear_iff.2 emittable
    refine ⟨clear, by_contra fun full => ?_, same⟩
    rw [runWritable_of_not_canNumber nonneg (natives clear ▸ full)] at succeeded
    cases succeeded
  · rintro ⟨clear, room, rfl⟩
    rw [runWritable_of_canNumber nonneg (natives clear ▸ room), run_of_clear nonneg clear]

/-- A session comes at least as far as the clear stations at its beginning. -/
theorem length_placements_le_countP (nonneg : 0 ≤ session.startId) {front : List Station}
    (begins : front <+: session.snapshot.stations) (clear : ∀ station ∈ front, station.Clear) :
    (Station.placements front).length ≤ session.run.2.countP Event.isNative := by
  have longer {whole : List Station} (part : front <+: whole) :
      (Station.placements front).length ≤ (Station.placements whole).length := by
    obtain ⟨rest, rfl⟩ := part
    rw [Station.placements_append, List.length_append]
    exact Nat.le_add_right _ _
  rcases session.snapshot.clear_or_firstUnclear with all | ⟨before, station, first⟩
  · rw [run_of_clear nonneg all, List.countP_append, countP_isNative_logAfter]
    exact Nat.le_trans (longer begins) (Nat.le_add_right _ _)
  · obtain ⟨violation, found⟩ := first.exists_violation
    rw [run_of_firstUnclear nonneg first found, countP_isNative_logAfter]
    refine longer ?_
    -- the station that stops the session does not belong to the clear front
    rcases List.prefix_or_prefix_of_prefix begins first.reached with inside | beyond
    · rcases List.prefix_concat_iff.1 inside with whole | within
      · have member : station ∈ front := whole ▸ List.mem_append_right _ List.mem_cons_self
        exact absurd (clear station member) first.unclear
      · exact within
    · have member := beyond.mem (List.mem_append_right before List.mem_cons_self)
      exact absurd (clear station member) first.unclear

/-! ## Two lists of classes -/

/-- A session on classes whose methods are given. -/
def onClasses (config : Config) (methods : OrderedMap String (List StaticMethod))
    (classes : List ClassNaming) (start : Nat) : Session where
  snapshot := { classes := classes, methods := methods }
  config := config
  startId := start

/-- The number behind the last one of a session. -/
def next (session : Session) : Nat :=
  session.first + session.placements.length

/-- A session that goes on with further classes. -/
def extended (session : Session) (further : List ClassNaming) : Session :=
  { session with
    snapshot := ⟨session.snapshot.classes ++ further, session.snapshot.methods⟩ }

/-- A session on further classes alone, with the numbers behind another session. -/
def following (session : Session) (further : List ClassNaming) : Session :=
  { session with
    snapshot := ⟨further, session.snapshot.methods⟩
    startId := session.next }

end Session

namespace Wrapper

/-- The functions of a wrapper file apart from the one that MATLAB calls. -/
def nativeDefinitions (lines : List String) : List (String × List String) :=
  (definitions lines).filter fun definition => definition.1 ≠ "mexFunction"

end Wrapper

/-- The outcome of a session is put together from two others: the files and the entries of the
second one follow those of the first one, and the wrapper file has the native functions of both and
the cases of both. -/
structure Generated.Joins (config : Config) (joint earlier later : Generated) : Prop where
  proxies : joint.proxies = earlier.proxies ++ later.proxies
  entries : joint.table.entries = earlier.table.entries ++ later.table.entries
  wrapper : ∃ first second : List NativeFunction,
    earlier.wrapper.lines = Wrapper.file config first earlier.table ∧
    later.wrapper.lines = Wrapper.file config second later.table ∧
    joint.wrapper.lines = Wrapper.file config (first ++ second) joint.table
  definitions : Wrapper.nativeDefinitions joint.wrapper.lines =
    Wrapper.nativeDefinitions earlier.wrapper.lines ++
      Wrapper.nativeDefinitions later.wrapper.lines
  cases : Wrapper.gatewayCases joint.wrapper.lines =
    Wrapper.gatewayCases earlier.wrapper.lines ++ Wrapper.gatewayCases later.wrapper.lines

namespace Session

theorem nativeDefinitions_assembled (session : Session) :
    Wrapper.nativeDefinitions session.assembled.wrapper.lines =
      session.functions.map fun function => (function.symbol, function.block) := by
  rw [Wrapper.nativeDefinitions, definitions_assembled, List.filter_append,
    List.filter_eq_self.2, List.filter_eq_nil_iff.2, List.append_nil]
  · intro definition last
    rw [List.mem_singleton.1 last]
    simp
  · intro definition member
    obtain ⟨function, listed, rfl⟩ := List.mem_map.1 member
    simpa using symbol_ne_mexFunction (map_symbol_functions ▸ List.mem_map_of_mem listed)

theorem exists_runWritable_iff {session : Session} (nonneg : 0 ≤ session.startId) :
    (∃ generated, session.runWritable.1 = .ok generated) ↔
      (∀ station ∈ session.snapshot.stations, station.Clear) ∧
        session.CanNumber session.placements.length := by
  constructor
  · rintro ⟨generated, succeeded⟩
    obtain ⟨clear, room, _⟩ := (runWritable_eq_ok_iff nonneg).1 succeeded
    exact ⟨clear, room⟩
  · rintro ⟨clear, room⟩
    exact ⟨session.assembled, (runWritable_eq_ok_iff nonneg).2 ⟨clear, room, rfl⟩⟩

variable {session : Session} {further : List ClassNaming}

theorem nonneg_extended (nonneg : 0 ≤ session.startId) :
    0 ≤ (session.extended further).startId := nonneg

theorem nonneg_following : 0 ≤ (session.following further).startId :=
  Int.natCast_nonneg session.next

theorem stations_extended :
    (session.extended further).snapshot.stations =
      session.snapshot.stations ++ Station.ofClasses (session.following further).snapshot
        (session.snapshot.classes.map ClassNaming.matlabName).reverse further := by
  have methodsOnly (other : Snapshot)
      (same : (session.extended further).snapshot.methods = other.methods)
      (earlier : List String) (classes : List ClassNaming) :
      Station.ofClasses (session.extended further).snapshot earlier classes =
        Station.ofClasses other earlier classes :=
    Station.ofClasses_congr same earlier classes
  refine (Station.ofClasses_append ..).trans ?_
  rw [methodsOnly session.snapshot rfl, methodsOnly (session.following further).snapshot rfl,
    List.append_nil]
  rfl

theorem placements_extended :
    (session.extended further).placements =
      session.placements ++ (session.following further).placements := by
  rw [placements, stations_extended, Station.placements_append,
    Station.placements_ofClasses_earlier _ _ []]
  rfl

/-- The whole is clear exactly if both parts are, and no name occurs in both. -/
theorem clear_extended_iff :
    (∀ station ∈ (session.extended further).snapshot.stations, station.Clear) ↔
      (∀ station ∈ session.snapshot.stations, station.Clear) ∧
      (∀ station ∈ (session.following further).snapshot.stations, station.Clear) ∧
        ∀ naming ∈ further,
          naming.matlabName ∉ session.snapshot.classes.map ClassNaming.matlabName := by
  rw [stations_extended, List.forall_mem_append, Station.ofClasses_clear_earlier_iff]
  simp only [List.mem_reverse]
  rfl

/-- If the numbers suffice for the first part, those that are left must suffice for the second. -/
theorem canNumber_extended_iff (nonneg : 0 ≤ session.startId)
    (room : session.CanNumber session.placements.length) :
    (session.extended further).CanNumber (session.extended further).placements.length ↔
      (session.following further).CanNumber (session.following further).placements.length := by
  have begins : (session.extended further).startId.toNat = session.startId.toNat := rfl
  have behind : (session.following further).startId.toNat =
      session.startId.toNat + session.placements.length := rfl
  rw [canNumber_iff nonneg] at room
  rw [canNumber_iff (nonneg_extended nonneg), canNumber_iff nonneg_following, begins,
    behind, placements_extended, List.length_append]
  omega

theorem numbered_extended {β : Type} (make : Placement → Nat → β) :
    Placement.numbered make (session.extended further).first
        (session.extended further).placements =
      Placement.numbered make session.first session.placements ++
        Placement.numbered make (session.following further).first
          (session.following further).placements := by
  rw [placements_extended, Placement.numbered_append]
  rfl

theorem classFunctions_extended :
    (session.extended further).classFunctions =
      session.classFunctions ++ (session.following further).classFunctions := by
  have methodsOnly (other : Snapshot)
      (same : (session.extended further).snapshot.methods = other.methods)
      (first : Nat) (classes : List ClassNaming) :
      (session.extended further).snapshot.classFunctions first classes =
        other.classFunctions first classes :=
    Snapshot.classFunctions_congr same first classes
  have placed : Station.placements (Station.ofClasses (session.extended further).snapshot []
      session.snapshot.classes) = session.placements :=
    congrArg Station.placements (Station.ofClasses_congr (by rfl) [] session.snapshot.classes)
  refine (Snapshot.classFunctions_append _ _ [] session.snapshot.classes further).trans ?_
  rw [methodsOnly session.snapshot rfl, methodsOnly (session.following further).snapshot rfl,
    placed]
  rfl

/-- What the whole assembles is what the parts assemble, the second one from the next number on. -/
theorem joins_extended :
    (session.extended further).assembled.Joins session.config session.assembled
      (session.following further).assembled := by
  have functions : (session.extended further).functions =
      session.functions ++ (session.following further).functions :=
    numbered_extended (Placement.function session.config)
  have entries : (session.extended further).table.entries =
      session.table.entries ++ (session.following further).table.entries := by
    rw [entries_table, entries_table, entries_table]
    exact numbered_extended fun placement id => (id, placement.symbol id)
  refine ⟨?_, entries,
    ⟨_, _, rfl, rfl, congrArg (Wrapper.file session.config · _) functions⟩, ?_, ?_⟩
  · unfold assembled classFiles
    rw [classFunctions_extended, List.map_append]
    rfl
  · rw [nativeDefinitions_assembled, nativeDefinitions_assembled, nativeDefinitions_assembled,
      functions, List.map_append]
  · rw [gatewayCases_assembled, gatewayCases_assembled, gatewayCases_assembled, entries,
      List.map_append]

/-- A session that fails fails in the same way when it goes on with further classes. -/
theorem runWritable_extended_of_error (nonneg : 0 ≤ session.startId) {fault : EmissionFault}
    (failed : session.runWritable.1 = .error fault) :
    (session.extended further).runWritable.1 = .error fault := by
  have begins : session.snapshot.stations <+: (session.extended further).snapshot.stations :=
    ⟨_, stations_extended.symm⟩
  rcases session.snapshot.clear_or_firstUnclear with clear | ⟨before, station, first⟩
  · -- nothing stops the session but its numbers, and the whole needs as many
    have full : ¬ session.CanNumber session.placements.length := by
      intro room
      rw [(runWritable_eq_ok_iff nonneg).2 ⟨clear, room, rfl⟩] at failed
      cases failed
    have exhausted (other : Session) (same : other.startId = session.startId)
        (reached : session.snapshot.stations <+: other.snapshot.stations) :
        other.runWritable.1 = .error (.number .tooManyDigits) := by
      have many := length_placements_le_countP (same ▸ nonneg) reached clear
      refine runWritable_of_not_canNumber (same ▸ nonneg) fun room => full fun offset below => ?_
      rw [← same]
      exact room offset (Nat.lt_of_lt_of_le below many)
    rw [exhausted session rfl List.prefix_rfl] at failed
    rw [exhausted (session.extended further) rfl begins]
    exact failed
  · -- both stop at the same station, so they have the same log
    have later : (session.extended further).snapshot.FirstUnclear before station :=
      ⟨first.reached.trans begins, first.passed, first.unclear⟩
    obtain ⟨violation, found⟩ := first.exists_violation
    have same : (session.extended further).run = session.run := by
      rw [run_of_firstUnclear nonneg first found,
        run_of_firstUnclear (nonneg_extended nonneg) later found]
      rfl
    rw [runWritable, same]
    exact failed

/-- **A session on two lists of classes is one on the first and then one on the second.**  A failure
on the first list is the failure of the whole.  If the first list ends well, the whole ends well
exactly if the second list does, with numbers from the next one on, and has no name in common with
the first list; and then the outcome of the whole joins the two outcomes. -/
theorem composition (config : Config) (methods : OrderedMap String (List StaticMethod))
    (first second : List ClassNaming) (start : Nat) :
    (∀ fault, (onClasses config methods first start).runWritable.1 = .error fault →
      (onClasses config methods (first ++ second) start).runWritable.1 = .error fault) ∧
    ∀ earlier, (onClasses config methods first start).runWritable.1 = .ok earlier →
      ((∃ joint, (onClasses config methods (first ++ second) start).runWritable.1 = .ok joint) ↔
        (∃ later, (onClasses config methods second
            (start + earlier.table.size)).runWritable.1 = .ok later) ∧
          ∀ naming ∈ second, naming.matlabName ∉ first.map ClassNaming.matlabName) ∧
      ∀ joint later,
        (onClasses config methods (first ++ second) start).runWritable.1 = .ok joint →
        (onClasses config methods second (start + earlier.table.size)).runWritable.1 = .ok later →
        joint.Joins config earlier later := by
  have nonneg : 0 ≤ (onClasses config methods first start).startId := Int.natCast_nonneg start
  have whole : onClasses config methods (first ++ second) start =
      (onClasses config methods first start).extended second := rfl
  rw [whole]
  refine ⟨fun fault => runWritable_extended_of_error nonneg, fun earlier succeeded => ?_⟩
  obtain ⟨clear, room, rfl⟩ := (runWritable_eq_ok_iff nonneg).1 succeeded
  have behind : onClasses config methods second
      (start + (onClasses config methods first start).assembled.table.size) =
        (onClasses config methods first start).following second := by
    rw [show (onClasses config methods first start).assembled.table.size =
      (onClasses config methods first start).placements.length from Placement.length_numbered ..]
    rfl
  rw [behind]
  refine ⟨?_, fun joint later joined alone => ?_⟩
  · rw [exists_runWritable_iff (nonneg_extended nonneg),
      exists_runWritable_iff nonneg_following, clear_extended_iff,
      canNumber_extended_iff nonneg room]
    exact ⟨fun ⟨⟨_, clearLater, apart⟩, roomLater⟩ => ⟨⟨clearLater, roomLater⟩, apart⟩,
      fun ⟨⟨clearLater, roomLater⟩, apart⟩ => ⟨⟨clear, clearLater, apart⟩, roomLater⟩⟩
  · obtain ⟨_, _, rfl⟩ := (runWritable_eq_ok_iff (nonneg_extended nonneg)).1 joined
    obtain ⟨_, _, rfl⟩ := (runWritable_eq_ok_iff nonneg_following).1 alone
    have joins : Generated.Joins (onClasses config methods first start).config
        ((onClasses config methods first start).extended second).assembled _ _ := joins_extended
    exact joins

end Session

end MexBridge
