import MexBridge.Proofs.Name.Words
import MexBridge.Proofs.Session.ClassNames

/-!
# The names of handles

A handle is stored and taken under a name, `TypeName.mangled`: the namespaces and the name of a type
one behind the other.  Between identifiers, the name in C++ shows where one part ends and the next
one begins (`TypeName.cpp_inj`), and the name of a handle does not.  It is the name in C++ without
the colons (`withoutColons_cpp`), so handles with one name are of types that differ in where the
marks stand at most, and such types are one type exactly if their parts are equally long
(`cpp_eq_iff_of_mangled`).

`Overload.UsesHandle` lists the types that pass through handles, `NativeFunction.NamesHandles` says
what a native function writes for them, and `Session.handleNames` puts this together with the check
of a session that no two classes have one name.  `Session.handleNames_ambiguous` shows a
session with two types of one name.
-/

set_option autoImplicit false

namespace MexBridge

/-! ## Parts of type names -/

/-- A text without its colons. -/
def withoutColons (text : String) : String :=
  String.ofList (text.toList.filter fun character => character ≠ ':')

namespace TypeName

/-- The namespaces and the name. -/
def parts (type : TypeName) : List String :=
  type.namespaces ++ [type.base]

/-- A type whose namespaces and name are identifiers. -/
def IsSpelled (type : TypeName) : Prop :=
  ∀ part ∈ type.parts, Name.IsWord part

instance (type : TypeName) : Decidable type.IsSpelled :=
  inferInstanceAs (Decidable (∀ part ∈ type.parts, Name.IsWord part))

variable {type other : TypeName}

theorem qualified_eq_intercalate (type : TypeName) (delimiter : String) :
    type.qualified delimiter = String.intercalate delimiter type.parts := by
  obtain ⟨base, namespaces⟩ := type
  show String.join (namespaces.map (· ++ delimiter)) ++ base =
    String.intercalate delimiter (namespaces ++ [base])
  induction namespaces with
  | nil => simp
  | cons scope rest ih =>
    rw [List.map_cons, String.join_cons, String.append_assoc, ih, List.cons_append,
      String.intercalate_cons_of_ne_nil (by simp)]

theorem toList_cpp (type : TypeName) :
    type.cpp.toList = Name.joinScopes (type.parts.map String.toList) := by
  rw [cpp, qualified_eq_intercalate, Name.toList_chain]

theorem toList_mangled (type : TypeName) :
    type.mangled.toList = (type.parts.map String.toList).flatten := by
  simp [mangled, qualified, parts, String.toList_join, List.flatMap_def]

theorem parts_inj (same : type.parts = other.parts) : type = other := by
  obtain ⟨base, namespaces⟩ := type
  obtain ⟨otherBase, otherNamespaces⟩ := other
  obtain ⟨rfl, last⟩ := List.append_inj' same rfl
  cases last
  rfl

theorem IsSpelled.free (spelled : type.IsSpelled) :
    ∀ piece ∈ type.parts.map String.toList, ':' ∉ piece := by
  intro piece member
  obtain ⟨part, among, rfl⟩ := List.mem_map.1 member
  exact fun colon => ((spelled part among).letters _ colon).ne_colon rfl

/-- **The name in C++ determines a type** whose parts are identifiers. -/
theorem cpp_inj (spelled : type.IsSpelled) (otherSpelled : other.IsSpelled)
    (same : type.cpp = other.cpp) : type = other := by
  have split : ∀ {type : TypeName}, type.IsSpelled →
      Name.splitScopes type.cpp.toList = type.parts.map String.toList := by
    intro type spelled
    rw [toList_cpp]
    exact Name.splitScopes_joinScopes (by simp [parts]) spelled.free
  have pieces := split spelled
  rw [same, split otherSpelled] at pieces
  exact parts_inj (List.map_injective_iff.2 (fun _ _ => String.toList_inj.1) pieces.symm)

/-- **The name of handles is the name in C++ without the colons.** -/
theorem withoutColons_cpp (spelled : type.IsSpelled) : withoutColons type.cpp = type.mangled := by
  apply String.toList_inj.1
  rw [withoutColons, String.toList_ofList, toList_cpp, Name.filter_joinScopes spelled.free,
    toList_mangled]

/-- Types with one name for their handles are one type exactly if their parts are equally long. -/
theorem cpp_eq_iff_of_mangled (spelled : type.IsSpelled) (otherSpelled : other.IsSpelled)
    (same : type.mangled = other.mangled) :
    type.cpp = other.cpp ↔ type.parts.map String.length = other.parts.map String.length := by
  constructor
  · intro equal
    rw [cpp_inj spelled otherSpelled equal]
  · intro lengths
    have pieces : type.parts.map String.toList = other.parts.map String.toList := by
      refine List.eq_iff_flatten_eq.2 ⟨?_, ?_⟩
      · rw [← toList_mangled, ← toList_mangled, same]
      · simpa [Function.comp_def, String.length_toList] using lengths
    rw [parts_inj (List.map_injective_iff.2 (fun _ _ => String.toList_inj.1) pieces)]

/-- In the same namespaces, types with one name for their handles are one type. -/
theorem eq_of_mangled_of_namespaces (same : type.mangled = other.mangled)
    (scopes : type.namespaces = other.namespaces) : type = other := by
  obtain ⟨base, namespaces⟩ := type
  obtain ⟨otherBase, otherNamespaces⟩ := other
  cases scopes
  have bases := congrArg String.toList same
  rw [mangled, mangled, qualified, qualified, String.toList_append, String.toList_append] at bases
  obtain rfl : base = otherBase := String.toList_inj.1 (List.append_cancel_left bases)
  rfl

end TypeName

/-! ## The handles of an overload -/

/-- Whether an argument is bound to the object behind a handle. -/
def Argument.takesHandle (argument : Argument) : Bool :=
  match argument.passing with
  | .pointer => true
  | .reference => !argument.type.isValueType
  | .value => false

/-- A type that passes through a handle when an overload with a checked result is called: that of an
argument behind a handle, or of a result behind one. -/
inductive Overload.UsesHandle (overload : Overload) (outcome : Outcome) : TypeName → Prop
  | taken {place : Nat} {argument : Argument}
      (declared : overload.arguments[place]? = some argument)
      (handle : argument.takesHandle = true) : UsesHandle overload outcome argument.type
  | stored {position : Nat} {slot : ResultSlot} (listed : outcome.slots[position]? = some slot)
      (handle : slot.needsHandle = true) : UsesHandle overload outcome slot.type

/-- The binding of an argument behind a handle names the type and its mangled name. -/
theorem Argument.exists_unwrapping {argument : Argument} (handle : argument.takesHandle = true)
    (input : String) :
    ∃ front, argument.unwrapping input = front ++ ("unwrap_shared_ptr< " ++ argument.type.cpp ++
      " >(" ++ input ++ ", \"ptr_" ++ argument.type.mangled ++ "\");") := by
  obtain ⟨type, name, isConst, passing⟩ := argument
  cases passing with
  | pointer => exact ⟨"boost::shared_ptr<" ++ type.cpp ++ "> " ++ name ++ " = ", rfl⟩
  | reference =>
    have copied : type.isValueType = false := by simpa [takesHandle] using handle
    refine ⟨type.cpp ++ "& " ++ name ++ " = *", ?_⟩
    simp only [unwrapping, copied, Bool.false_eq_true, if_false]
  | value => cases handle

namespace NativeFunction

/-- What a native function writes for the types that pass through handles: each argument behind a
handle is bound as an object of its type from a handle under the mangled name, and each result
behind one is stored under the mangled name, too. -/
structure NamesHandles (function : NativeFunction) (overload : Overload) (outcome : Outcome) :
    Prop where
  taken : ∀ (place : Nat) (argument : Argument), overload.arguments[place]? = some argument →
    argument.takesHandle = true →
    ∃ front, margin ++ (front ++ ("unwrap_shared_ptr< " ++ argument.type.cpp ++ " >(" ++
      Argument.input place ++ ", \"ptr_" ++ argument.type.mangled ++ "\");")) ∈ function.block
  stored : ∀ (position : Nat) (slot : ResultSlot), outcome.slots[position]? = some slot →
    slot.needsHandle = true → function.Collects position slot.type.mangled

/-- The binding of an argument stands in the body. -/
theorem unwrapping_mem_block (config : Config) (naming : ClassNaming) (method symbol : String)
    {arguments : List Argument} (outcome : Outcome) {place : Nat} {argument : Argument}
    (declared : arguments[place]? = some argument) :
    margin ++ argument.unwrapping (Argument.input place) ∈
      (ofOverload config naming method symbol arguments outcome).block := by
  have bound : Statement.bind argument place ∈
      (ofOverload config naming method symbol arguments outcome).body := by
    obtain ⟨below, rfl⟩ := List.getElem?_eq_some_iff.1 declared
    have member : Statement.bind arguments[place] place ∈
        arguments.mapIdx fun position argument => .bind argument position :=
      List.mem_mapIdx.2 ⟨place, below, rfl⟩
    exact List.mem_append_left _ (List.mem_append_left _ (List.mem_append_right _ member))
  exact List.mem_cons_of_mem _ (List.mem_map.2 ⟨_, bound, rfl⟩)

theorem namesHandles_ofOverload (config : Config) (naming : ClassNaming) (method symbol : String)
    (overload : Overload) (outcome : Outcome) :
    (ofOverload config naming method symbol overload.arguments outcome).NamesHandles overload
      outcome where
  taken place argument declared handle := by
    obtain ⟨front, written⟩ := argument.exists_unwrapping handle (Argument.input place)
    refine ⟨front, ?_⟩
    rw [← written]
    exact unwrapping_mem_block config naming method symbol outcome declared
  stored _ _ listed handle :=
    collects_ofOverload config naming method symbol overload.arguments listed handle

end NativeFunction

/-! ## The handles of a session -/

namespace Session

variable {session : Session}

/-- A type that passes through a handle in a listed overload. -/
def UsesHandle (session : Session) (type : TypeName) : Prop :=
  ∃ listed ∈ session.snapshot.listedOverloads, ∃ outcome,
    listed.overload.result.outcome = .ok outcome ∧ listed.overload.UsesHandle outcome type

/-- Listed classes under the names that come from their types have different names for handles. -/
theorem eq_of_mangled_of_listed (emittable : session.snapshot.Emittable) {first second : TypeName}
    (firstListed : first.declaration.naming ∈ session.snapshot.classes)
    (secondListed : second.declaration.naming ∈ session.snapshot.classes)
    (same : first.mangled = second.mangled) : first = second := by
  rw [← first.matlabName_declaration, ← second.matlabName_declaration] at same
  have naming := List.inj_on_of_nodup_map emittable.classNames firstListed secondListed same
  obtain ⟨base, namespaces⟩ := first
  obtain ⟨otherBase, otherNamespaces⟩ := second
  obtain rfl : base = otherBase := congrArg ClassNaming.name naming
  obtain rfl : namespaces = otherNamespaces := congrArg ClassNaming.namespaces naming
  rfl

/-- **The names of handles.**  In a session that ends well, every type that passes through a handle
is named by its mangled name in the native function that its overload has in the wrapper.  If two
such types of identifiers have one name, then their names in C++ differ in where the `::` marks
stand at most, and they are one type exactly if their parts are equally long.  So they are one type
if they are in the same namespaces, and also if both are listed classes under the names that come
from their types. -/
theorem handleNames {settings : Settings} (accepted : settings.resolve = .ok session.config)
    {generated : Generated} (succeeded : session.runWritable.1 = .ok generated) :
    (∀ listed id, (listed, id) ∈ session.snapshot.listedOverloads.zipIdx session.first →
      ∃ outcome, generated.Carries session.config listed outcome id ∧
        (NativeFunction.ofOverload session.config listed.naming listed.method (listed.symbol id)
          listed.overload.arguments outcome).NamesHandles listed.overload outcome) ∧
    ∀ first second : TypeName, session.UsesHandle first → session.UsesHandle second →
      first.IsSpelled → second.IsSpelled → first.mangled = second.mangled →
      withoutColons first.cpp = withoutColons second.cpp ∧
      (first.cpp = second.cpp ↔
        first.parts.map String.length = second.parts.map String.length) ∧
      (first.namespaces = second.namespaces → first.cpp = second.cpp) ∧
      (first.declaration.naming ∈ session.snapshot.classes →
        second.declaration.naming ∈ session.snapshot.classes → first.cpp = second.cpp) := by
  obtain ⟨_, emittable, rfl⟩ := eq_assembled_of_run (run_of_runWritable succeeded)
  refine ⟨fun listed id numbered => ?_, ?_⟩
  · obtain ⟨outcome, carries⟩ :=
      carries_of_listed accepted (Snapshot.stations_clear_iff.2 emittable) numbered
    exact ⟨outcome, carries, NativeFunction.namesHandles_ofOverload ..⟩
  · intro first second _ _ spelled otherSpelled same
    refine ⟨?_, TypeName.cpp_eq_iff_of_mangled spelled otherSpelled same, ?_, ?_⟩
    · rw [TypeName.withoutColons_cpp spelled, TypeName.withoutColons_cpp otherSpelled, same]
    · intro scopes
      rw [TypeName.eq_of_mangled_of_namespaces same scopes]
    · intro firstListed secondListed
      rw [eq_of_mangled_of_listed emittable firstListed secondListed same]

/-! ## Two types of one name -/

/-- A type `a::bc`. -/
def earlyType : TypeName :=
  ⟨"bc", ["a"]⟩

/-- A type `ab::c`, whose parts make the same name. -/
def lateType : TypeName :=
  ⟨"c", ["ab"]⟩

/-- A static method that takes a handle to an object of the one type and gives back an object of the
other one. -/
def regrouped : Overload :=
  ⟨[{ type := earlyType, name := "source", passing := .pointer }],
    .shape ⟨.single, [⟨lateType, .object, false⟩]⟩⟩

/-- A session on the class of the first type. -/
def ofRegrouped : Session where
  snapshot := .ofParts [earlyType.declaration.naming] [("bc", [⟨"regrouped", [regrouped]⟩])]
  config := (small 0).config

theorem emittable_ofRegrouped : ofRegrouped.snapshot.Emittable := by
  have unfound : ofRegrouped.snapshot.stations.findSome? Station.violation? = none := by decide
  exact Snapshot.stations_clear_iff.1 (Station.findSome?_violation?_eq_none_iff.1 unfound)

theorem runWritable_ofRegrouped : ofRegrouped.runWritable.1 = .ok ofRegrouped.assembled := by
  have nonneg : 0 ≤ ofRegrouped.startId := Int.le_refl 0
  have count : ofRegrouped.placements.length = 1 := by rfl
  have room : ofRegrouped.CanNumber 1 := (canNumber_iff nonneg).2 (by decide +kernel)
  exact (runWritable_eq_ok_iff nonneg).2
    ⟨Snapshot.stations_clear_iff.2 emittable_ofRegrouped, count ▸ room, rfl⟩

theorem usesHandle_ofRegrouped :
    ofRegrouped.UsesHandle earlyType ∧ ofRegrouped.UsesHandle lateType := by
  have listed : ⟨earlyType.declaration.naming, "regrouped", 0, regrouped⟩ ∈
      ofRegrouped.snapshot.listedOverloads := by decide
  have declared : regrouped.arguments[0]? =
      some { type := earlyType, name := "source", passing := .pointer } := rfl
  have returned : (Outcome.one ⟨lateType, .object, false⟩).slots[0]? =
      some ⟨lateType, .object, false⟩ := rfl
  exact ⟨⟨_, listed, _, rfl, .taken declared rfl⟩, ⟨_, listed, _, rfl, .stored returned rfl⟩⟩

/-- The two types have one name in C++ but for the marks, and their parts are not equally long. -/
theorem handleNames_ofRegrouped :
    Settings.resolve { moduleName := "shop" } = .ok ofRegrouped.config ∧
    ofRegrouped.runWritable.1 = .ok ofRegrouped.assembled ∧
    ofRegrouped.UsesHandle earlyType ∧ ofRegrouped.UsesHandle lateType ∧
    earlyType.IsSpelled ∧ lateType.IsSpelled ∧ earlyType.mangled = lateType.mangled ∧
    withoutColons earlyType.cpp = withoutColons lateType.cpp ∧
    (earlyType.cpp = lateType.cpp ↔
      earlyType.parts.map String.length = lateType.parts.map String.length) := by
  have accepted : Settings.resolve { moduleName := "shop" } = .ok ofRegrouped.config :=
    resolve_small 0
  have same : earlyType.mangled = lateType.mangled := by decide
  obtain ⟨early, late⟩ := usesHandle_ofRegrouped
  obtain ⟨marks, parts, _⟩ := (handleNames accepted runWritable_ofRegrouped).2 earlyType lateType
    early late (by decide) (by decide) same
  exact ⟨accepted, runWritable_ofRegrouped, early, late, by decide, by decide, same, marks, parts⟩

/-- **Two types under one name.**  The session ends well, all names in it are identifiers, and its
native function takes an object of one type from a handle under the name under which it stores an
object of another type. -/
theorem handleNames_ambiguous :
    Settings.resolve { moduleName := "shop" } = .ok ofRegrouped.config ∧
    ofRegrouped.runWritable.1 = .ok ofRegrouped.assembled ∧
    ofRegrouped.UsesHandle earlyType ∧ ofRegrouped.UsesHandle lateType ∧
    earlyType.IsSpelled ∧ lateType.IsSpelled ∧
    earlyType.mangled = lateType.mangled ∧ earlyType.cpp ≠ lateType.cpp ∧
    ∃ block, (Wrapper.definitions ofRegrouped.assembled.wrapper.lines).filter
        (fun definition => definition.1 = "abc_regrouped_0") = [("abc_regrouped_0", block)] ∧
      "  boost::shared_ptr<a::bc> source = unwrap_shared_ptr< a::bc >(in[0], \"ptr_abc\");" ∈
        block ∧
      "  Sharedc* ret = new Sharedc(new ab::c(result));" ∈ block ∧
      "  out[0] = wrap_collect_shared_ptr(ret,\"abc\");" ∈ block := by
  have accepted : Settings.resolve { moduleName := "shop" } = .ok ofRegrouped.config :=
    resolve_small 0
  have clear := Snapshot.stations_clear_iff.2 emittable_ofRegrouped
  have numbered :
      ((⟨earlyType.declaration.naming, "regrouped", 0, regrouped⟩ : ListedOverload), 0) ∈
      ofRegrouped.snapshot.listedOverloads.zipIdx ofRegrouped.first := by decide
  obtain ⟨outcome, carries⟩ := carries_of_listed accepted clear numbered
  have checked : regrouped.result.outcome = .ok outcome := carries.checked
  cases checked
  obtain ⟨early, late⟩ := usesHandle_ofRegrouped
  exact ⟨accepted, runWritable_ofRegrouped, early, late, by decide, by decide, by decide, by decide,
    _, carries.function, by decide, by decide, by decide⟩

end Session

end MexBridge
