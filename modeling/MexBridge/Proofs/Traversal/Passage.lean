import MexBridge.Emission.Basic
import MexBridge.Proofs.Name.EntrySymbol
import MexBridge.Proofs.Traversal.Station

/-!
# What passing stations leaves on the bench

A station that lets a session pass leaves something behind: the overloads of a method may be
announced as shadowed, and an overload with a checked result is placed.  A `Placement` is such an
overload with its place among the declarations; together with the next number of the table it gives
a native function, an entry of the table, a branch of a proxy and two events.

`Workbench.pass` is the step for one station and `Workbench.passAll` the run over a list of them.
What a run appends to the native file, to the table and to the log is read off the placements of its
stations, numbered from the next number on (`nativeLines_passAll`, `symbols_passAll`,
`countP_isNative_passAll`).  A run keeps the table open, with every symbol ending in a number below
the next one (`Numbered.passAll`), and such a table never refuses a symbol for its next number
(`FunctionTable.Numbered.register`).
-/

set_option autoImplicit false

namespace MexBridge

/-! ## Placements -/

/-- An overload with a checked result, at its place among the declarations. -/
structure Placement where
  naming : ClassNaming
  method : String
  index : Nat
  overload : Overload
  outcome : Outcome

namespace Placement

/-- The entry symbol of the overload under a number. -/
def symbol (placement : Placement) (id : Nat) : String :=
  Name.entrySymbol placement.naming.matlabName placement.method id

/-- The native function of the overload under a number. -/
def function (config : Config) (placement : Placement) (id : Nat) : NativeFunction :=
  .ofOverload config placement.naming placement.method (placement.symbol id)
    placement.overload.arguments placement.outcome

/-- The branch of the overload under a number. -/
def branch (placement : Placement) (id : Nat) : ProxyBranch :=
  .ofOverload placement.overload placement.outcome id

/-- The events of the overload under a number. -/
def events (placement : Placement) (id : Nat) : List Event :=
  [.nativeWritten (placement.symbol id) placement.naming.matlabName placement.method
      placement.index,
    .overloadNumbered placement.naming.matlabName placement.method placement.index id
      (placement.symbol id)]

/-- Functions of placements and their numbers, which are consecutive from `first` on. -/
def numbered {β : Type} (make : Placement → Nat → β) (first : Nat)
    (placements : List Placement) : List β :=
  (placements.zipIdx first).map fun (placement, id) => make placement id

@[simp] theorem numbered_nil {β : Type} (make : Placement → Nat → β) (first : Nat) :
    numbered make first [] = [] := rfl

@[simp] theorem numbered_cons {β : Type} (make : Placement → Nat → β) (first : Nat)
    (placement : Placement) (rest : List Placement) :
    numbered make first (placement :: rest) =
      make placement first :: numbered make (first + 1) rest := rfl

theorem numbered_append {β : Type} (make : Placement → Nat → β) (first : Nat)
    (earlier later : List Placement) :
    numbered make first (earlier ++ later) =
      numbered make first earlier ++ numbered make (first + earlier.length) later := by
  rw [numbered, List.zipIdx_append, List.map_append]
  rfl

@[simp] theorem length_numbered {β : Type} (make : Placement → Nat → β) (first : Nat)
    (placements : List Placement) :
    (numbered make first placements).length = placements.length := by
  simp [numbered]

theorem map_numbered {β γ : Type} (make : Placement → Nat → β) (change : β → γ) (first : Nat)
    (placements : List Placement) :
    (numbered make first placements).map change =
      numbered (fun placement id => change (make placement id)) first placements := by
  rw [numbered, List.map_map]
  rfl

/-- Numbering once more from the same number on gives every entry its own number. -/
theorem zipIdx_numbered {β : Type} (make : Placement → Nat → β) (first : Nat)
    (placements : List Placement) :
    (numbered make first placements).zipIdx first =
      numbered (fun placement id => (make placement id, id)) first placements := by
  induction placements generalizing first with
  | nil => rfl
  | cons placement rest ih => rw [numbered_cons, List.zipIdx_cons, ih, numbered_cons]

/-- What does not depend on the numbers is as if nothing were numbered. -/
theorem numbered_const {β : Type} (make : Placement → β) (first : Nat)
    (placements : List Placement) :
    numbered (fun placement _ => make placement) first placements = placements.map make := by
  induction placements generalizing first with
  | nil => rfl
  | cons placement rest ih => rw [numbered_cons, ih, List.map_cons]

/-- The numbers themselves are consecutive. -/
theorem numbered_ids (first : Nat) (placements : List Placement) :
    numbered (fun _ id => id) first placements = List.range' first placements.length := by
  induction placements generalizing first with
  | nil => rfl
  | cons placement rest ih => rw [numbered_cons, ih, List.length_cons, List.range'_succ]

theorem getElem?_numbered {β : Type} (make : Placement → Nat → β) (first : Nat)
    (placements : List Placement) (position : Nat) :
    (numbered make first placements)[position]? =
      placements[position]?.map fun placement => make placement (first + position) := by
  rw [numbered, List.getElem?_map, List.getElem?_zipIdx, Option.map_map]
  rfl

theorem exists_of_mem_numbered {β : Type} {make : Placement → Nat → β} {first : Nat}
    {placements : List Placement} {entry : β} (member : entry ∈ numbered make first placements) :
    ∃ (placement : Placement) (id : Nat), first ≤ id ∧ entry = make placement id := by
  obtain ⟨⟨placement, id⟩, listed, rfl⟩ := List.mem_map.1 member
  exact ⟨placement, id, (List.mem_zipIdx listed).1, rfl⟩

/-- No entry symbol is given twice. -/
theorem nodup_symbols (first : Nat) (placements : List Placement) :
    (numbered symbol first placements).Nodup := by
  induction placements generalizing first with
  | nil => exact List.nodup_nil
  | cons placement rest ih =>
    rw [numbered_cons, List.nodup_cons]
    refine ⟨?_, ih (first + 1)⟩
    intro member
    obtain ⟨other, id, later, same⟩ := exists_of_mem_numbered member
    have equal : first = id := Name.entrySymbol_id_inj same
    omega

end Placement

namespace Station

/-- The overload that a station places, if it is one with a checked result. -/
def placement? : Station → Option Placement
  | className .. => none
  | methodName .. => none
  | overloadSet .. => none
  | overloadResult naming method index overload =>
    match overload.result.outcome with
    | .ok outcome => some ⟨naming, method, index, overload, outcome⟩
    | .error _ => none

/-- What is reported of the overloads of a method as a whole. -/
def announcement : Station → List Event
  | overloadSet naming method =>
    (shadowings method.overloads).map (.overloadShadowed naming.matlabName method.name ·)
  | className .. => []
  | methodName .. => []
  | overloadResult .. => []

/-- A station that places nothing and announces nothing. -/
def Silent (station : Station) : Prop :=
  station.placement? = none ∧ station.announcement = []

theorem silent_of_mem_ofNames {naming : ClassNaming} {earlier methods : List StaticMethod}
    {station : Station} (member : station ∈ ofNames naming earlier methods) : station.Silent := by
  obtain ⟨before, declared, rfl⟩ := eq_methodName_of_mem_ofNames member
  exact ⟨rfl, rfl⟩

/-- The overloads that stations place, in order. -/
def placements (stations : List Station) : List Placement :=
  stations.filterMap placement?

@[simp] theorem placements_append (earlier later : List Station) :
    placements (earlier ++ later) = placements earlier ++ placements later :=
  List.filterMap_append

end Station

/-! ## Tables that refuse no symbol for their next number -/

namespace FunctionTable

/-- An open table in which every symbol ends with a number below the next one. -/
structure Numbered (table : FunctionTable) : Prop where
  unfrozen : table.frozen = false
  below : ∀ symbol ∈ table.symbols, ∃ (matlabClass method : String) (id : Nat),
    id < table.nextId ∧ symbol = Name.entrySymbol matlabClass method id

/-- The table with a symbol entered at its end. -/
def enter (table : FunctionTable) (symbol : String) : FunctionTable :=
  { table with symbols := table.symbols ++ [symbol] }

@[simp] theorem nextId_enter (table : FunctionTable) (symbol : String) :
    (table.enter symbol).nextId = table.nextId + 1 := by
  simp [enter, nextId, size, Nat.add_assoc]

/-- **The symbol for the next number is never refused.** -/
theorem Numbered.register {table : FunctionTable} (numbered : table.Numbered)
    (matlabClass method : String) :
    table.register (Name.entrySymbol matlabClass method table.nextId) =
      .ok (table.nextId, table.enter (Name.entrySymbol matlabClass method table.nextId)) := by
  have fresh : Name.entrySymbol matlabClass method table.nextId ∉ table.symbols := by
    intro member
    obtain ⟨otherClass, otherMethod, id, below, same⟩ := numbered.below _ member
    exact absurd (Name.entrySymbol_id_inj same) (Nat.ne_of_gt below)
  have unknown : table.idOf? (Name.entrySymbol matlabClass method table.nextId) = none := by
    rw [idOf?, List.idxOf?_eq_none_iff.2 fresh]
    rfl
  simp [FunctionTable.register, numbered.unfrozen, unknown, enter]

theorem Numbered.enter {table : FunctionTable} (numbered : table.Numbered)
    (matlabClass method : String) :
    (table.enter (Name.entrySymbol matlabClass method table.nextId)).Numbered := by
  refine ⟨numbered.unfrozen, ?_⟩
  intro symbol member
  rw [nextId_enter]
  rcases List.mem_append.1 member with earlier | last
  · obtain ⟨otherClass, otherMethod, id, below, same⟩ := numbered.below symbol earlier
    exact ⟨otherClass, otherMethod, id, Nat.lt_succ_of_lt below, same⟩
  · exact ⟨matlabClass, method, table.nextId, Nat.lt_succ_self _, List.mem_singleton.1 last⟩

end FunctionTable

/-! ## Passing one station, and passing many -/

namespace Workbench

/-- The bench after an overload was placed under the next number of the table. -/
def place (config : Config) (bench : Workbench) (placement : Placement) : Workbench :=
  { bench with
    native := bench.native.extend (placement.function config bench.table.nextId).lines
    table := bench.table.enter (placement.symbol bench.table.nextId)
    events := bench.events ++ placement.events bench.table.nextId }

/-- The bench with another proxy file on it. -/
def withProxy (bench : Workbench) (proxy : TextBuffer) : Workbench :=
  { bench with proxy := proxy }

@[simp] theorem withProxy_withProxy (bench : Workbench) (earlier later : TextBuffer) :
    (bench.withProxy earlier).withProxy later = bench.withProxy later := rfl

@[simp] theorem withProxy_self (bench : Workbench) : bench.withProxy bench.proxy = bench := rfl

@[simp] theorem proxy_withProxy (bench : Workbench) (proxy : TextBuffer) :
    (bench.withProxy proxy).proxy = proxy := rfl

@[simp] theorem table_withProxy (bench : Workbench) (proxy : TextBuffer) :
    (bench.withProxy proxy).table = bench.table := rfl

@[simp] theorem native_withProxy (bench : Workbench) (proxy : TextBuffer) :
    (bench.withProxy proxy).native = bench.native := rfl

/-- The bench after events were reported. -/
def reported (bench : Workbench) (events : List Event) : Workbench :=
  { bench with events := bench.events ++ events }

/-- The bench after a station was passed. -/
def pass (config : Config) (bench : Workbench) (station : Station) : Workbench :=
  match station.placement? with
  | some placement => (bench.reported station.announcement).place config placement
  | none => bench.reported station.announcement

/-- The bench after stations were passed, one after the other. -/
def passAll (config : Config) (bench : Workbench) (stations : List Station) : Workbench :=
  stations.foldl (pass config) bench

variable {config : Config}

@[simp] theorem passAll_nil (bench : Workbench) : bench.passAll config [] = bench := rfl

theorem passAll_cons (bench : Workbench) (station : Station) (rest : List Station) :
    bench.passAll config (station :: rest) = (bench.pass config station).passAll config rest := rfl

theorem passAll_append (bench : Workbench) (earlier later : List Station) :
    bench.passAll config (earlier ++ later) =
      (bench.passAll config earlier).passAll config later :=
  List.foldl_append

theorem pass_withProxy (bench : Workbench) (station : Station) (proxy : TextBuffer) :
    (bench.withProxy proxy).pass config station = (bench.pass config station).withProxy proxy := by
  unfold pass
  cases station.placement? <;> rfl

/-- Passing stations neither reads nor writes the proxy file. -/
theorem passAll_withProxy (bench : Workbench) (stations : List Station) (proxy : TextBuffer) :
    (bench.withProxy proxy).passAll config stations =
      (bench.passAll config stations).withProxy proxy := by
  induction stations generalizing bench with
  | nil => rfl
  | cons station rest ih => rw [passAll_cons, passAll_cons, pass_withProxy, ih]

theorem pass_of_placement {bench : Workbench} {station : Station} {placement : Placement}
    (placed : station.placement? = some placement) :
    bench.pass config station =
      (bench.reported station.announcement).place config placement := by
  simp [pass, placed]

theorem pass_of_no_placement {bench : Workbench} {station : Station}
    (none : station.placement? = none) :
    bench.pass config station = bench.reported station.announcement := by
  simp [pass, none]

/-- Passing stations only adds to the log. -/
theorem events_prefix_passAll (bench : Workbench) (stations : List Station) :
    bench.events <+: (bench.passAll config stations).events := by
  induction stations generalizing bench with
  | nil => exact List.prefix_rfl
  | cons station rest ih =>
    refine List.IsPrefix.trans ?_ (ih _)
    cases placed : station.placement? with
    | none =>
      rw [pass_of_no_placement placed]
      exact List.prefix_append _ _
    | some placement =>
      rw [pass_of_placement placed]
      exact (List.prefix_append _ _).trans (List.prefix_append _ _)

/-- A silent station leaves the bench as it is. -/
theorem pass_of_silent {bench : Workbench} {station : Station} (silent : station.Silent) :
    bench.pass config station = bench := by
  rw [pass_of_no_placement silent.1, silent.2, reported, List.append_nil]

theorem passAll_of_silent {bench : Workbench} {stations : List Station}
    (silent : ∀ station ∈ stations, station.Silent) : bench.passAll config stations = bench := by
  induction stations with
  | nil => rfl
  | cons station rest ih =>
    rw [passAll_cons, pass_of_silent (silent station List.mem_cons_self)]
    exact ih fun later member => silent later (List.mem_cons_of_mem _ member)

theorem passAll_ofNames (bench : Workbench) (naming : ClassNaming)
    (earlier methods : List StaticMethod) :
    bench.passAll config (Station.ofNames naming earlier methods) = bench :=
  passAll_of_silent fun _ member => Station.silent_of_mem_ofNames member

/-! ## What a run appends -/

theorem symbols_passAll (bench : Workbench) (stations : List Station) :
    (bench.passAll config stations).table =
      { bench.table with
        symbols := bench.table.symbols ++
          Placement.numbered Placement.symbol bench.table.nextId
            (Station.placements stations) } := by
  induction stations generalizing bench with
  | nil => simp [Station.placements]
  | cons station rest ih =>
    rw [passAll_cons, ih]
    cases placed : station.placement? with
    | none => simp [pass_of_no_placement placed, Station.placements, placed, reported]
    | some placement =>
      simp [pass_of_placement placed, Station.placements, placed, reported, place,
        FunctionTable.enter, FunctionTable.nextId, FunctionTable.size, Nat.add_assoc]

@[simp] theorem nextId_passAll (bench : Workbench) (stations : List Station) :
    (bench.passAll config stations).table.nextId =
      bench.table.nextId + (Station.placements stations).length := by
  rw [symbols_passAll]
  simp [FunctionTable.nextId, FunctionTable.size, Nat.add_assoc]

theorem nativeLines_passAll (bench : Workbench) (stations : List Station) :
    (bench.passAll config stations).native.lines =
      bench.native.lines ++
        (Placement.numbered (Placement.function config) bench.table.nextId
          (Station.placements stations)).flatMap NativeFunction.lines := by
  induction stations generalizing bench with
  | nil => simp [Station.placements]
  | cons station rest ih =>
    rw [passAll_cons, ih]
    cases placed : station.placement? with
    | none => simp [pass_of_no_placement placed, Station.placements, placed, reported]
    | some placement =>
      simp [pass_of_placement placed, Station.placements, placed, reported, place]

theorem countP_isNative_announcement (station : Station) :
    station.announcement.countP Event.isNative = 0 := by
  cases station <;> simp [Station.announcement, List.countP_map, Function.comp_def, Event.isNative]

/-- As many native functions are reported as overloads are placed. -/
theorem countP_isNative_passAll (bench : Workbench) (stations : List Station) :
    (bench.passAll config stations).events.countP Event.isNative =
      bench.events.countP Event.isNative + (Station.placements stations).length := by
  induction stations generalizing bench with
  | nil => simp [Station.placements]
  | cons station rest ih =>
    rw [passAll_cons, ih]
    cases placed : station.placement? with
    | none =>
      simp [pass_of_no_placement placed, Station.placements, placed, reported,
        countP_isNative_announcement]
    | some placement =>
      simp [pass_of_placement placed, Station.placements, placed, reported, place,
        countP_isNative_announcement, Placement.events, Event.isNative, List.countP_cons]
      omega

end Workbench

/-- A run leaves a table that refuses no symbol for its next number. -/
theorem FunctionTable.Numbered.passAll {config : Config} {bench : Workbench}
    (numbered : bench.table.Numbered) (stations : List Station) :
    (bench.passAll config stations).table.Numbered := by
  induction stations generalizing bench with
  | nil => exact numbered
  | cons station rest ih =>
    rw [Workbench.passAll_cons]
    apply ih
    cases placed : station.placement? with
    | none =>
      rw [Workbench.pass_of_no_placement placed]
      exact numbered
    | some placement =>
      rw [Workbench.pass_of_placement placed]
      exact numbered.enter _ _

/-- The proxy files before and after a run do not matter to the table. -/
theorem FunctionTable.Numbered.passed {bench : Workbench} (numbered : bench.table.Numbered)
    (config : Config) (stations : List Station) (before after : TextBuffer) :
    (((bench.withProxy before).passAll config stations).withProxy after).table.Numbered := by
  rw [Workbench.passAll_withProxy]
  exact numbered.passAll stations

end MexBridge
