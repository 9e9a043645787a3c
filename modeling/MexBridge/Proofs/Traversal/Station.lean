import MexBridge.Emission.Method
import MexBridge.Proofs.Signature.WellFormed
import MexBridge.Registry.Snapshot

/-!
# The traversal of a snapshot

A session looks at the declarations of a snapshot one after the other, and each look can stop it.
`Snapshot.stations` is the list of these looks, in order: for a class its MATLAB name, then the
capitalised name of each of its methods, then method by method whether there are overloads, and
each overload's result.  Nothing is emitted here, and no number is handed out.

`Station.Clear` says in plain terms when a station lets a session pass, and `Station.violation?` is
the cause for which it stops it otherwise; `Station.violation?_eq_none_iff` ties the two together.
`Snapshot.Emittable` lists the conditions on a snapshot as a whole, and
`Snapshot.stations_clear_iff` says that they hold exactly when every station is clear.
-/

set_option autoImplicit false

namespace MexBridge

/-- A look at the declarations that can stop a session. -/
inductive Station
  /-- The MATLAB name of a class; `earlier` are the names that are taken. -/
  | className (earlier : List String) (naming : ClassNaming)
  /-- The name of a method in MATLAB; `earlier` are the methods of the class before it. -/
  | methodName (naming : ClassNaming) (earlier : List StaticMethod) (method : StaticMethod)
  /-- The overloads of a method as a whole. -/
  | overloadSet (naming : ClassNaming) (method : StaticMethod)
  /-- The result of an overload. -/
  | overloadResult (naming : ClassNaming) (method : String) (index : Nat) (overload : Overload)

namespace Station

/-- What a station asks for. -/
def Clear : Station → Prop
  | className earlier naming => naming.matlabName ∉ earlier
  | methodName _ earlier method =>
    ∀ other ∈ earlier, Name.capitalized other.name ≠ Name.capitalized method.name
  | overloadSet _ method => method.overloads ≠ []
  | overloadResult _ _ _ overload => overload.result.IsWellFormed

/-- The code of the diagnostic with which a station stops a session. -/
def code : Station → String
  | className .. => "E-NAME-COLLISION"
  | methodName .. => "E-NAME-COLLISION"
  | overloadSet .. => "E-NO-OVERLOADS"
  | overloadResult .. => "E-RETURN-SHAPE"

/-- The place that the diagnostic of a station names. -/
def site : Station → Site
  | className _ naming => { className := some naming.matlabName }
  | methodName naming _ method =>
    { className := some naming.matlabName, methodName := some method.name }
  | overloadSet naming method =>
    { className := some naming.matlabName, methodName := some method.name }
  | overloadResult naming method index _ =>
    { className := some naming.matlabName, methodName := some method
      overloadIndex := some index }

/-- The cause for which a station stops a session, if it does. -/
def violation? : Station → Option Violation
  | className earlier naming =>
    if naming.matlabName ∈ earlier then some (.classCollision naming) else none
  | methodName naming earlier method =>
    (earlier.find? fun other => Name.capitalized other.name = Name.capitalized method.name).map
      fun other => .methodCollision naming.matlabName other.name method.name
        (Name.capitalized method.name)
  | overloadSet naming method =>
    if method.overloads = [] then some (.noOverloads naming.matlabName method.name) else none
  | overloadResult naming method index overload =>
    match overload.result.outcome with
    | .ok _ => none
    | .error fault => some (.malformedResult naming.matlabName method index fault)

@[simp] theorem clear_className {earlier : List String} {naming : ClassNaming} :
    (className earlier naming).Clear ↔ naming.matlabName ∉ earlier := Iff.rfl

@[simp] theorem clear_methodName {naming : ClassNaming} {earlier : List StaticMethod}
    {method : StaticMethod} :
    (methodName naming earlier method).Clear ↔
      ∀ other ∈ earlier, Name.capitalized other.name ≠ Name.capitalized method.name := Iff.rfl

@[simp] theorem clear_overloadSet {naming : ClassNaming} {method : StaticMethod} :
    (overloadSet naming method).Clear ↔ method.overloads ≠ [] := Iff.rfl

@[simp] theorem clear_overloadResult {naming : ClassNaming} {method : String} {index : Nat}
    {overload : Overload} :
    (overloadResult naming method index overload).Clear ↔ overload.result.IsWellFormed := Iff.rfl

theorem violation?_eq_none_iff {station : Station} :
    station.violation? = none ↔ station.Clear := by
  cases station with
  | className earlier naming => simp [violation?]
  | methodName naming earlier method => simp [violation?]
  | overloadSet naming method => simp [violation?]
  | overloadResult naming method index overload =>
    rw [clear_overloadResult, ← DeclaredResult.outcome_isOk_iff]
    cases checked : overload.result.outcome with
    | ok outcome => simp [violation?, checked]
    | error fault => simp [violation?, checked]

/-- No station of a list has a cause to stop exactly if all of them are clear. -/
theorem findSome?_violation?_eq_none_iff {stations : List Station} :
    stations.findSome? violation? = none ↔ ∀ station ∈ stations, station.Clear := by
  simp only [List.findSome?_eq_none_iff, violation?_eq_none_iff]

/-- The diagnostic of a station's cause has the station's code and names its place. -/
theorem diagnostic_of_violation {station : Station} {violation : Violation}
    (found : station.violation? = some violation) :
    violation.diagnostic.code = some station.code ∧ violation.diagnostic.site = station.site := by
  cases station with
  | className earlier naming =>
    obtain ⟨_, same⟩ := Option.ite_none_right_eq_some.1 found
    cases same
    exact ⟨rfl, rfl⟩
  | methodName naming earlier method =>
    obtain ⟨other, _, rfl⟩ := Option.map_eq_some_iff.1 found
    exact ⟨rfl, rfl⟩
  | overloadSet naming method =>
    obtain ⟨_, same⟩ := Option.ite_none_right_eq_some.1 found
    cases same
    exact ⟨rfl, rfl⟩
  | overloadResult naming method index overload =>
    cases checked : overload.result.outcome with
    | ok outcome => simp [violation?, checked] at found
    | error fault =>
      simp only [violation?, checked, Option.some.injEq] at found
      subst found
      exact ⟨rfl, rfl⟩

/-! ## The stations of classes and methods -/

/-- The stations of the names of methods; `earlier` are the methods that come before the list. -/
def ofNames (naming : ClassNaming) (earlier : List StaticMethod) :
    List StaticMethod → List Station
  | [] => []
  | method :: rest => methodName naming earlier method :: ofNames naming (earlier ++ [method]) rest

/-- The stations of overloads, the first of which stands at the given position. -/
def ofOverloads (naming : ClassNaming) (method : String) : Nat → List Overload → List Station
  | _, [] => []
  | index, declared :: rest =>
    overloadResult naming method index declared :: ofOverloads naming method (index + 1) rest

/-- The stations of a method: its overloads as a whole, and then each of them. -/
def ofMethod (naming : ClassNaming) (declared : StaticMethod) : List Station :=
  overloadSet naming declared :: ofOverloads naming declared.name 0 declared.overloads

/-- The stations of methods that come after their names. -/
def ofMethods (naming : ClassNaming) (methods : List StaticMethod) : List Station :=
  methods.flatMap (ofMethod naming)

/-- The stations of classes; `earlier` are the MATLAB names that are taken. -/
def ofClasses (snapshot : Snapshot) (earlier : List String) : List ClassNaming → List Station
  | [] => []
  | naming :: rest =>
    className earlier naming ::
      (ofNames naming [] (snapshot.methodsOf naming.name) ++
        ofMethods naming (snapshot.methodsOf naming.name) ++
        ofClasses snapshot (naming.matlabName :: earlier) rest)

/-- A session looks for a collision of method names at the stations of these names. -/
theorem findSome?_ofNames (naming : ClassNaming) (earlier methods : List StaticMethod) :
    (ofNames naming earlier methods).findSome? violation? =
      (Emission.methodCollision? earlier methods).map fun (other, later) =>
        .methodCollision naming.matlabName other.name later.name
          (Name.capitalized later.name) := by
  induction methods generalizing earlier with
  | nil => rfl
  | cons method rest ih =>
    unfold ofNames Emission.methodCollision?
    rw [List.findSome?_cons]
    cases found : earlier.find? fun other =>
        Name.capitalized other.name = Name.capitalized method.name with
    | some other => simp [violation?, found]
    | none => simpa [violation?, found] using ih (earlier ++ [method])

theorem eq_methodName_of_mem_ofNames {naming : ClassNaming} {earlier methods : List StaticMethod}
    {station : Station} (member : station ∈ ofNames naming earlier methods) :
    ∃ (before : List StaticMethod) (declared : StaticMethod),
      station = methodName naming before declared := by
  induction methods generalizing earlier with
  | nil => cases member
  | cons first rest ih =>
    rcases List.mem_cons.1 member with rfl | later
    · exact ⟨earlier, first, rfl⟩
    · exact ih later

theorem ofNames_clear_iff {naming : ClassNaming} {earlier methods : List StaticMethod} :
    (∀ station ∈ ofNames naming earlier methods, station.Clear) ↔
      (methods.map fun method => Name.capitalized method.name).Nodup ∧
        ∀ method ∈ methods, ∀ other ∈ earlier,
          Name.capitalized other.name ≠ Name.capitalized method.name := by
  induction methods generalizing earlier with
  | nil => simp [ofNames]
  | cons method rest ih =>
    simp only [ofNames, List.forall_mem_cons, ih, List.map_cons, List.nodup_cons,
      clear_methodName, List.mem_append, List.mem_singleton, List.mem_map]
    constructor
    · rintro ⟨first, distinct, later⟩
      refine ⟨⟨?_, distinct⟩, first, ?_⟩
      · rintro ⟨other, member, same⟩
        exact later other member method (.inr rfl) same.symm
      · intro other member known before
        exact later other member known (.inl before)
    · rintro ⟨⟨fresh, distinct⟩, first, later⟩
      refine ⟨first, distinct, ?_⟩
      intro other member known before
      rcases before with before | rfl
      · exact later other member known before
      · intro same
        exact fresh ⟨other, member, same.symm⟩

theorem ofOverloads_clear_iff {naming : ClassNaming} {method : String} {index : Nat}
    {overloads : List Overload} :
    (∀ station ∈ ofOverloads naming method index overloads, station.Clear) ↔
      ∀ overload ∈ overloads, overload.result.IsWellFormed := by
  induction overloads generalizing index with
  | nil => simp [ofOverloads]
  | cons declared rest ih => simp [ofOverloads, ih]

theorem ofMethods_clear_iff {naming : ClassNaming} {methods : List StaticMethod} :
    (∀ station ∈ ofMethods naming methods, station.Clear) ↔
      ∀ method ∈ methods, method.overloads ≠ [] ∧
        ∀ overload ∈ method.overloads, overload.result.IsWellFormed := by
  simp only [ofMethods, List.forall_mem_flatMap, ofMethod, List.forall_mem_cons,
    ofOverloads_clear_iff, clear_overloadSet]

end Station

/-! ## A snapshot as a whole -/

namespace Snapshot

/-- The looks at a snapshot, in the order of a session. -/
def stations (snapshot : Snapshot) : List Station :=
  Station.ofClasses snapshot [] snapshot.classes

/-- The snapshots that a session can turn into files. -/
structure Emittable (snapshot : Snapshot) : Prop where
  /-- The listed classes have different names in MATLAB. -/
  classNames : (snapshot.classes.map ClassNaming.matlabName).Nodup
  /-- The methods of a listed class have different names in MATLAB. -/
  methodNames : ∀ naming ∈ snapshot.classes,
    ((snapshot.methodsOf naming.name).map fun method => Name.capitalized method.name).Nodup
  /-- Every method of a listed class has an overload. -/
  overloaded : ∀ naming ∈ snapshot.classes, ∀ method ∈ snapshot.methodsOf naming.name,
    method.overloads ≠ []
  /-- Every overload of these has a result that can be marshalled. -/
  marshallable : ∀ naming ∈ snapshot.classes, ∀ method ∈ snapshot.methodsOf naming.name,
    ∀ overload ∈ method.overloads, overload.result.IsWellFormed

theorem ofClasses_clear_iff {snapshot : Snapshot} {earlier : List String}
    {classes : List ClassNaming} :
    (∀ station ∈ Station.ofClasses snapshot earlier classes, station.Clear) ↔
      (classes.map ClassNaming.matlabName).Nodup ∧
      (∀ naming ∈ classes, naming.matlabName ∉ earlier) ∧
      ∀ naming ∈ classes,
        ((snapshot.methodsOf naming.name).map fun method => Name.capitalized method.name).Nodup ∧
        ∀ method ∈ snapshot.methodsOf naming.name, method.overloads ≠ [] ∧
          ∀ overload ∈ method.overloads, overload.result.IsWellFormed := by
  induction classes generalizing earlier with
  | nil => simp [Station.ofClasses]
  | cons naming rest ih =>
    simp only [Station.ofClasses, List.forall_mem_cons, List.forall_mem_append, ih,
      Station.ofNames_clear_iff, Station.ofMethods_clear_iff, Station.clear_className,
      List.map_cons, List.nodup_cons, List.mem_map]
    constructor
    · rintro ⟨fresh, ⟨⟨names, _⟩, methods⟩, distinct, apart, others⟩
      refine ⟨⟨?_, distinct⟩, ⟨fresh, ?_⟩, ⟨names, methods⟩, others⟩
      · rintro ⟨other, member, same⟩
        exact apart other member (List.mem_cons.2 (.inl same))
      · intro other member before
        exact apart other member (List.mem_cons_of_mem _ before)
    · rintro ⟨⟨alone, distinct⟩, ⟨fresh, apart⟩, ⟨names, methods⟩, others⟩
      refine ⟨fresh, ⟨⟨names, ?_⟩, methods⟩, distinct, ?_, others⟩
      · intro _ _ _ impossible
        cases impossible
      · intro other member known
        rcases List.mem_cons.1 known with same | before
        · exact alone ⟨other, member, same⟩
        · exact apart other member before

/-- **A snapshot can be emitted exactly when every look at it is clear.** -/
theorem stations_clear_iff {snapshot : Snapshot} :
    (∀ station ∈ snapshot.stations, station.Clear) ↔ snapshot.Emittable := by
  rw [stations, ofClasses_clear_iff]
  constructor
  · rintro ⟨classes, _, each⟩
    exact
      { classNames := classes
        methodNames := fun naming member => (each naming member).1
        overloaded := fun naming member method declared =>
          ((each naming member).2 method declared).1
        marshallable := fun naming member method declared =>
          ((each naming member).2 method declared).2 }
  · rintro ⟨classes, names, overloaded, marshallable⟩
    refine ⟨classes, ?_, ?_⟩
    · intro naming _ impossible
      cases impossible
    · intro naming member
      refine ⟨names naming member, ?_⟩
      intro method declared
      exact ⟨overloaded naming member method declared,
        marshallable naming member method declared⟩

end Snapshot

end MexBridge
