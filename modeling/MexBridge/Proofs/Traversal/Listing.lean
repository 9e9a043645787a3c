import MexBridge.Proofs.Traversal.Passage

/-!
# The overloads of a snapshot

`Snapshot.listedOverloads` enumerates the overloads of the listed classes: class by class, method by
method, and each method's overloads as they were declared.  A traversal without a hindrance places
exactly these, in this order (`placements_stations`), and each of them with its checked result.
-/

set_option autoImplicit false

namespace MexBridge

/-- An overload of a listed class, with its place among the declarations. -/
structure ListedOverload where
  naming : ClassNaming
  method : String
  index : Nat
  overload : Overload
  deriving DecidableEq

/-- The entry symbol of an overload under a number. -/
def ListedOverload.symbol (listed : ListedOverload) (id : Nat) : String :=
  Name.entrySymbol listed.naming.matlabName listed.method id

/-- The overloads of a method, in the order of their declaration. -/
def StaticMethod.listed (naming : ClassNaming) (declared : StaticMethod) : List ListedOverload :=
  declared.overloads.zipIdx.map fun (overload, index) => ⟨naming, declared.name, index, overload⟩

theorem StaticMethod.map_overload_listed (naming : ClassNaming) (declared : StaticMethod) :
    (declared.listed naming).map ListedOverload.overload = declared.overloads := by
  rw [listed, List.map_map]
  exact List.zipIdx_map_fst 0 declared.overloads

/-- The overloads of the listed classes, in the order of a session. -/
def Snapshot.listedOverloads (snapshot : Snapshot) : List ListedOverload :=
  snapshot.classes.flatMap fun naming =>
    (snapshot.methodsOf naming.name).flatMap (StaticMethod.listed naming)

/-- A placement without its checked result. -/
def Placement.listed (placement : Placement) : ListedOverload :=
  ⟨placement.naming, placement.method, placement.index, placement.overload⟩

namespace Station

theorem outcome_of_placement {station : Station} {placement : Placement}
    (placed : station.placement? = some placement) :
    placement.overload.result.outcome = .ok placement.outcome := by
  cases station with
  | className earlier naming => cases placed
  | methodName naming earlier declared => cases placed
  | overloadSet naming declared => cases placed
  | overloadResult naming method index overload =>
    cases checked : overload.result.outcome with
    | error fault => simp [placement?, checked] at placed
    | ok outcome =>
      simp only [placement?, checked, Option.some.injEq] at placed
      rw [← placed]
      exact checked

/-- A placed overload has the result with which it is placed. -/
theorem outcome_of_mem_placements {stations : List Station} {placement : Placement}
    (member : placement ∈ placements stations) :
    placement.overload.result.outcome = .ok placement.outcome := by
  obtain ⟨station, _, placed⟩ := List.mem_filterMap.1 member
  exact outcome_of_placement placed

theorem map_listed_ofOverloads {naming : ClassNaming} {method : String} {index : Nat}
    {overloads : List Overload}
    (clear : ∀ station ∈ ofOverloads naming method index overloads, station.Clear) :
    (placements (ofOverloads naming method index overloads)).map Placement.listed =
      (overloads.zipIdx index).map fun (overload, place) => ⟨naming, method, place, overload⟩ := by
  induction overloads generalizing index with
  | nil => rfl
  | cons overload rest ih =>
    obtain ⟨wellFormed, later⟩ := List.forall_mem_cons.1 clear
    obtain ⟨outcome, checked⟩ := DeclaredResult.outcome_isOk_iff.2 wellFormed
    have placed : (overloadResult naming method index overload).placement? =
        some ⟨naming, method, index, overload, outcome⟩ := by
      simp [placement?, checked]
    rw [ofOverloads, placements, List.filterMap_cons_some placed, List.map_cons,
      List.zipIdx_cons, List.map_cons]
    exact congrArg _ (ih later)

theorem map_listed_ofMethod {naming : ClassNaming} {declared : StaticMethod}
    (clear : ∀ station ∈ ofMethod naming declared, station.Clear) :
    (placements (ofMethod naming declared)).map Placement.listed = declared.listed naming :=
  map_listed_ofOverloads (List.forall_mem_cons.1 clear).2

theorem map_listed_ofMethods {naming : ClassNaming} {methods : List StaticMethod}
    (clear : ∀ station ∈ ofMethods naming methods, station.Clear) :
    (placements (ofMethods naming methods)).map Placement.listed =
      methods.flatMap (StaticMethod.listed naming) := by
  induction methods with
  | nil => rfl
  | cons declared rest ih =>
    rw [ofMethods, List.flatMap_cons, List.forall_mem_append] at clear
    rw [ofMethods, List.flatMap_cons, placements_append, List.map_append, List.flatMap_cons,
      map_listed_ofMethod clear.1]
    exact congrArg _ (ih clear.2)

theorem placements_ofNames (naming : ClassNaming) (earlier methods : List StaticMethod) :
    placements (ofNames naming earlier methods) = [] :=
  List.filterMap_eq_nil_iff.2 fun _ member => (silent_of_mem_ofNames member).1

/-- The names of a class and of its methods place nothing. -/
theorem placements_ofClasses_cons (snapshot : Snapshot) (earlier : List String)
    (naming : ClassNaming) (rest : List ClassNaming) :
    placements (ofClasses snapshot earlier (naming :: rest)) =
      placements (ofMethods naming (snapshot.methodsOf naming.name)) ++
        placements (ofClasses snapshot (naming.matlabName :: earlier) rest) := by
  have unplaced : placements (ofClasses snapshot earlier (naming :: rest)) =
      placements (ofNames naming [] (snapshot.methodsOf naming.name) ++
        ofMethods naming (snapshot.methodsOf naming.name) ++
        ofClasses snapshot (naming.matlabName :: earlier) rest) := rfl
  rw [unplaced, placements_append, placements_append, placements_ofNames, List.nil_append]

theorem map_listed_ofClasses {snapshot : Snapshot} {earlier : List String}
    {classes : List ClassNaming}
    (clear : ∀ station ∈ ofClasses snapshot earlier classes, station.Clear) :
    (placements (ofClasses snapshot earlier classes)).map Placement.listed =
      classes.flatMap fun naming =>
        (snapshot.methodsOf naming.name).flatMap (StaticMethod.listed naming) := by
  induction classes generalizing earlier with
  | nil => rfl
  | cons naming rest ih =>
    obtain ⟨_, others⟩ := List.forall_mem_cons.1 clear
    obtain ⟨own, later⟩ := List.forall_mem_append.1 others
    obtain ⟨_, methods⟩ := List.forall_mem_append.1 own
    rw [placements_ofClasses_cons, List.map_append, map_listed_ofMethods methods, ih later,
      List.flatMap_cons]

end Station

/-- **A traversal without a hindrance places the overloads of the listed classes, in order.** -/
theorem Snapshot.placements_stations {snapshot : Snapshot}
    (clear : ∀ station ∈ snapshot.stations, station.Clear) :
    (Station.placements snapshot.stations).map Placement.listed = snapshot.listedOverloads :=
  Station.map_listed_ofClasses clear

end MexBridge
