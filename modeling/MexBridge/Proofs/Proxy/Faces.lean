import MexBridge.Proofs.Emission.ClassFiles
import MexBridge.Proofs.Traversal.Listing

/-!
# What proxies show of declarations

A proxy shows little of what is declared: the names of a class and of its methods, the dispatch key
of each overload, and the kind of its result.  A face is this part of a declaration, and
`Snapshot.faces` are the faces of the listed classes.

`classFiles_eq_ofFaces` says that the class files of a snapshot without a hindrance are made from
its faces, the first number, and the indent unit and the wrapper's name of the configuration.
-/

set_option autoImplicit false

namespace MexBridge

/-! ## Faces -/

/-- The kind of a declared result; a plain value has none. -/
def DeclaredResult.kind? : DeclaredResult → Option ResultKind
  | .shape declared => some declared.kind
  | .plain _ => none

/-- What a proxy shows of an overload. -/
structure OverloadFace where
  dispatchKey : Nat × List String
  kind? : Option ResultKind
  deriving DecidableEq

/-- What a proxy shows of a method. -/
structure MethodFace where
  name : String
  overloads : List OverloadFace
  deriving DecidableEq

/-- What a proxy shows of a class. -/
structure ClassFace where
  cppName : String
  matlabName : String
  methods : List MethodFace
  deriving DecidableEq

/-- The face of an overload. -/
def Overload.face (overload : Overload) : OverloadFace :=
  ⟨overload.dispatchKey, overload.result.kind?⟩

/-- The face of a method. -/
def StaticMethod.face (declared : StaticMethod) : MethodFace :=
  ⟨declared.name, declared.overloads.map Overload.face⟩

/-- The faces of the listed classes, in order. -/
def Snapshot.faces (snapshot : Snapshot) : List ClassFace :=
  snapshot.classes.map fun naming =>
    ⟨naming.cppName, naming.matlabName, (snapshot.methodsOf naming.name).map StaticMethod.face⟩

/-! ## Proxies of faces -/

/-- How the outputs are bound for a kind of result. -/
def OverloadFace.binding (face : OverloadFace) : OutputBinding :=
  match face.kind? with
  | some kind => .ofKind kind
  | none => .nothing

/-- The branch of an overload with a number. -/
def OverloadFace.branch (face : OverloadFace) (id : Nat) : ProxyBranch where
  tags := face.dispatchKey.2
  binding := face.binding
  id := id

/-- The proxy function of a method whose overloads are numbered from the first one on. -/
def MethodFace.proxyFunction (matlabClass : String) (first : Nat) (face : MethodFace) :
    ProxyFunction where
  matlabClass := matlabClass
  method := face.name
  branches := (face.overloads.zipIdx first).map fun (overload, id) => overload.branch id

/-- The proxy functions of methods whose overloads are numbered on. -/
def MethodFace.proxyFunctions (matlabClass : String) : Nat → List MethodFace → List ProxyFunction
  | _, [] => []
  | first, face :: rest =>
    face.proxyFunction matlabClass first ::
      proxyFunctions matlabClass (first + face.overloads.length) rest

namespace ClassFace

/-- A naming with this face. -/
def naming (face : ClassFace) : ClassNaming where
  name := face.matlabName
  cppName := face.cppName
  matlabName := face.matlabName

/-- The number of overloads of a class. -/
def overloadCount (face : ClassFace) : Nat :=
  (face.methods.flatMap MethodFace.overloads).length

/-- The proxy functions of each class, whose overloads are numbered on. -/
def functions : Nat → List ClassFace → List (ClassNaming × List ProxyFunction)
  | _, [] => []
  | first, face :: rest =>
    (face.naming, MethodFace.proxyFunctions face.matlabName first face.methods) ::
      functions (first + face.overloadCount) rest

end ClassFace

/-- The branch of an overload with a checked result is that of its face. -/
theorem ProxyBranch.ofOverload_eq_face {overload : Overload} {outcome : Outcome}
    (checked : overload.result.outcome = .ok outcome) (id : Nat) :
    ofOverload overload outcome id = overload.face.branch id := by
  have binding : OutputBinding.ofOutcome outcome = overload.face.binding := by
    have declared := OutputBinding.ofDeclared_of_outcome checked
    unfold OverloadFace.binding Overload.face DeclaredResult.kind?
    cases result : overload.result with
    | plain value =>
      rw [result] at declared
      cases declared
    | shape shape =>
      rw [result] at declared
      exact (Except.ok.inj declared).symm
  rw [ofOverload, binding]
  rfl

namespace StaticMethod

/-- The branches of overloads in order are those of their faces. -/
theorem branches_eq_face {naming : ClassNaming} {method : String} {index : Nat}
    {overloads : List Overload} (first : Nat)
    (clear : ∀ station ∈ Station.ofOverloads naming method index overloads, station.Clear) :
    Placement.numbered Placement.branch first
        (Station.placements (Station.ofOverloads naming method index overloads)) =
      ((overloads.map Overload.face).zipIdx first).map fun (face, id) => face.branch id := by
  induction overloads generalizing index first with
  | nil => rfl
  | cons overload rest ih =>
    obtain ⟨wellFormed, later⟩ := List.forall_mem_cons.1 clear
    obtain ⟨outcome, checked⟩ := DeclaredResult.outcome_isOk_iff.2 wellFormed
    have placed : (Station.overloadResult naming method index overload).placement? =
        some ⟨naming, method, index, overload, outcome⟩ := by
      simp [Station.placement?, checked]
    rw [Station.ofOverloads, Station.placements, List.filterMap_cons_some placed,
      Placement.numbered_cons, Placement.branch, ProxyBranch.ofOverload_eq_face checked]
    exact congrArg _ (ih (first + 1) later)

theorem proxyFunction_eq_face {naming : ClassNaming} {declared : StaticMethod} (first : Nat)
    (clear : ∀ station ∈ Station.ofMethod naming declared, station.Clear) :
    declared.proxyFunction naming first = declared.face.proxyFunction naming.matlabName first := by
  have branches : Placement.numbered Placement.branch first
      (Station.placements (Station.ofMethod naming declared)) = _ :=
    branches_eq_face first (List.forall_mem_cons.1 clear).2
  rw [proxyFunction, branches]
  rfl

theorem proxyFunctions_eq_faces {naming : ClassNaming} {methods : List StaticMethod} (first : Nat)
    (clear : ∀ station ∈ Station.ofMethods naming methods, station.Clear) :
    proxyFunctions naming first methods =
      MethodFace.proxyFunctions naming.matlabName first (methods.map face) := by
  induction methods generalizing first with
  | nil => rfl
  | cons declared rest ih =>
    rw [Station.ofMethods, List.flatMap_cons, List.forall_mem_append] at clear
    have own := proxyFunction_eq_face first clear.1
    have count : (declared.proxyFunction naming first).branches.length =
        declared.face.overloads.length := by
      rw [own, MethodFace.proxyFunction, List.length_map, List.length_zipIdx]
    rw [List.map_cons, MethodFace.proxyFunctions, ← ih _ clear.2, ← own, ← count]
    rfl

end StaticMethod

/-! ## Class files of faces -/

namespace MethodFace

/-- The functions of faces call as many numbers as there are overloads. -/
theorem length_calledIds (matlabClass : String) (first : Nat) (faces : List MethodFace) :
    (calledIds (proxyFunctions matlabClass first faces)).length =
      (faces.flatMap overloads).length := by
  induction faces generalizing first with
  | nil => rfl
  | cons face rest ih =>
    have later := ih (first + face.overloads.length)
    rw [calledIds] at later
    rw [calledIds, proxyFunctions, List.flatMap_cons, List.length_append, later, List.flatMap_cons,
      List.length_append, List.length_map, proxyFunction, List.length_map, List.length_zipIdx]

/-- Methods with overloads have functions with branches. -/
theorem branched_proxyFunctions {matlabClass : String} {first : Nat} {faces : List MethodFace}
    (overloaded : ∀ face ∈ faces, face.overloads ≠ []) :
    ∀ function ∈ proxyFunctions matlabClass first faces, function.branches ≠ [] := by
  induction faces generalizing first with
  | nil => exact fun _ impossible => nomatch impossible
  | cons face rest ih =>
    obtain ⟨own, others⟩ := List.forall_mem_cons.1 overloaded
    refine List.forall_mem_cons.2 ⟨?_, ih others⟩
    rwa [proxyFunction, ← List.length_pos_iff, List.length_map, List.length_zipIdx,
      List.length_pos_iff]

end MethodFace

theorem ClassFace.branched_functions {first : Nat} {faces : List ClassFace}
    (overloaded : ∀ face ∈ faces, ∀ declared ∈ face.methods, declared.overloads ≠ []) :
    ∀ entry ∈ functions first faces, ∀ function ∈ entry.2, function.branches ≠ [] := by
  induction faces generalizing first with
  | nil => exact fun _ impossible => nomatch impossible
  | cons face rest ih =>
    obtain ⟨own, others⟩ := List.forall_mem_cons.1 overloaded
    exact List.forall_mem_cons.2 ⟨MethodFace.branched_proxyFunctions own, ih others⟩

/-- The methods of a snapshot that can be emitted have overloads. -/
theorem Snapshot.Emittable.overloaded_faces {snapshot : Snapshot}
    (emittable : snapshot.Emittable) :
    ∀ face ∈ snapshot.faces, ∀ declared ∈ face.methods, declared.overloads ≠ [] := by
  intro face listed declared member
  obtain ⟨naming, among, rfl⟩ := List.mem_map.1 listed
  obtain ⟨method, own, rfl⟩ := List.mem_map.1 member
  exact fun empty => emittable.overloaded naming among method own (List.map_eq_nil_iff.1 empty)

/-- Of a configuration, a class file shows the indent unit and the wrapper's name, and of a class
the two names. -/
theorem ClassFile.lines_congr {config other : Config} (indent : config.indent = other.indent)
    (wrapperName : config.wrapperName = other.wrapperName) {naming second : ClassNaming}
    (cppName : naming.cppName = second.cppName)
    (matlabName : naming.matlabName = second.matlabName) (functions : List ProxyFunction) :
    lines config naming functions = lines other second functions := by
  have text : NestedLine.text config = NestedLine.text other := by
    funext line
    rw [NestedLine.text, NestedLine.text, Config.indentation, Config.indentation, indent]
  have nested : nestedLines config.wrapperName naming functions =
      nestedLines other.wrapperName second functions := by
    rw [nestedLines, nestedLines, header, header, wrapperName, cppName, matlabName]
  rw [lines, lines, text, nested]

/-- **The class files of a snapshot are made from its faces.** -/
theorem classFiles_eq_ofFaces {config other : Config} (indent : config.indent = other.indent)
    (wrapperName : config.wrapperName = other.wrapperName) {snapshot : Snapshot} (first : Nat)
    {earlier : List String} {classes : List ClassNaming}
    (clear : ∀ station ∈ Station.ofClasses snapshot earlier classes, station.Clear) :
    classFiles config (snapshot.classFunctions first classes) =
      classFiles other (ClassFace.functions first (classes.map fun naming =>
        ⟨naming.cppName, naming.matlabName,
          (snapshot.methodsOf naming.name).map StaticMethod.face⟩)) := by
  induction classes generalizing first earlier with
  | nil =>
    rw [List.map_nil, Snapshot.classFunctions, ClassFace.functions, classFiles, classFiles,
      List.map_nil, List.map_nil]
  | cons naming rest ih =>
    -- of the stations of a class only those of its methods bear on its file
    obtain ⟨_, others⟩ := List.forall_mem_cons.1 clear
    obtain ⟨own, later⟩ := List.forall_mem_append.1 others
    obtain ⟨_, methods⟩ := List.forall_mem_append.1 own
    have functions := StaticMethod.proxyFunctions_eq_faces first methods
    rw [Snapshot.classFunctions, List.map_cons, ClassFace.functions, classFiles, List.map_cons,
      classFiles, List.map_cons, functions, MethodFace.length_calledIds]
    refine congrArg₂ List.cons (Prod.ext rfl (congrArg TextBuffer.mk ?_)) (ih _ later)
    exact ClassFile.lines_congr indent wrapperName rfl rfl _

end MexBridge
