import MexBridge.Proofs.Native.HandleAliases
import MexBridge.Proofs.Session.Composition
import MexBridge.Proofs.Session.Registered

/-!
# The names of a class in MATLAB

A class occurs under a name in three places: its file defines it, a native function stores a handle
under the class of the object, and a proxy tests the tag of an argument.  The first two names are
the namespaces and the name without anything between them, `TypeName.mangled`.  The tag has a point
behind every namespace, so it is longer by as many characters as there are namespaces
(`TypeName.length_qualified`), and the names meet exactly for a class outside of all namespaces.

`ClassFile.definedClass?` reads the name off a file, `NativeFunction.Collects` says under which name
an output is stored, and `Overload.TestsFor` for which name a condition tests.  The main statement
is `Session.artifactNames`; in a session on a class that is in a namespace,
`Session.artifactNames_apart` shows an object that its own class does not get back.
-/

set_option autoImplicit false

namespace MexBridge

/-! ## Names with and without points -/

namespace TypeName

variable (type : TypeName)

theorem length_qualified (delimiter : String) :
    (type.qualified delimiter).length =
      type.mangled.length + type.namespaces.length * delimiter.length := by
  have joined (delimiter : String) (names : List String) :
      (String.join (names.map (· ++ delimiter))).length =
        (names.map String.length).sum + names.length * delimiter.length := by
    induction names with
    | nil => simp
    | cons name rest ih =>
      rw [List.map_cons, String.join_cons, String.length_append, ih, String.length_append,
        List.map_cons, List.sum_cons, List.length_cons, Nat.succ_mul]
      omega
  rw [mangled, qualified, qualified, String.length_append, String.length_append, joined, joined,
    String.length_empty]
  omega

/-- **A tag is the name of a class exactly outside of all namespaces.** -/
theorem qualified_point_eq_mangled_iff :
    type.qualified "." = type.mangled ↔ type.namespaces = [] := by
  constructor
  · intro same
    have lengths := type.length_qualified "."
    have point : ".".length = 1 := by decide
    rw [same, point] at lengths
    exact List.eq_nil_of_length_eq_zero (by omega)
  · intro outside
    rw [mangled, qualified, qualified, outside]
    rfl

/-- The declaration of a class that takes its names from a type. -/
def declaration : ClassDeclaration where
  name := type.base
  namespaces := type.namespaces

theorem matlabName_declaration : type.declaration.naming.matlabName = type.mangled := by
  show String.join type.namespaces ++ type.base = _
  rw [mangled, qualified]
  simp

/-- A class with a name of its own is tested by its qualified name. -/
theorem matlabClass_of_own (own : builtinMatlabClass? type.base = none) (delimiter : String) :
    type.matlabClass delimiter = type.qualified delimiter := by
  rw [matlabClass, own, Option.getD_none]

end TypeName

/-! ## The class that a file defines -/

namespace ClassFile

/-- The class that the first line of its kind in a file defines. -/
def definedClass? (lines : List String) : Option String :=
  lines.findSome? (Text.between? "classdef " " < handle")

/-- **The file of a class defines it under its name in MATLAB.** -/
theorem definedClass?_lines (config : Config) (naming : ClassNaming)
    (functions : List ProxyFunction) :
    definedClass? (lines config naming functions) = some naming.matlabName := by
  have flush (content : String) : (⟨0, content⟩ : NestedLine).text config = content := by
    rw [NestedLine.text, Config.indentation_eq_join]
    exact String.empty_append
  have comment : Text.between? "classdef " " < handle"
      ("%class " ++ naming.matlabName ++ ", generated by mexwrap for " ++ naming.cppName) = none :=
    Text.between?_of_head 'c' rfl (by simp)
  have opening : Text.between? "classdef " " < handle"
      ("classdef " ++ naming.matlabName ++ " < handle") = some naming.matlabName :=
    Text.between?_append _ _ _
  rw [lines, nestedLines, header, List.append_assoc, List.map_append, List.map_cons, List.map_cons,
    flush, flush, definedClass?, List.cons_append, List.findSome?_cons, comment, List.cons_append,
    List.findSome?_cons, opening]

end ClassFile

/-! ## The name under which an output is stored -/

theorem ResultSlot.collect_mem_marshalling_iff {slot : ResultSlot} {expression holder : String}
    {output asked : Nat} {other name : String} :
    Marshalling.collect asked other name ∈ slot.marshalling expression output holder ↔
      slot.needsHandle = true ∧ asked = output ∧ other = holder ∧ name = slot.type.mangled := by
  unfold marshalling
  by_cases pointer : slot.isPointer = true
  · simp [pointer, needsHandle]
  · by_cases object : slot.category = .object
    · simp [pointer, object, needsHandle]
    · simp [pointer, object, needsHandle]

namespace NativeFunction

/-- An output is stored under a name, and under no other one. -/
structure Collects (function : NativeFunction) (output : Nat) (name : String) : Prop where
  stored : ∃ holder, margin ++ (Marshalling.collect output holder name).text ∈ function.block
  unique : ∀ holder other, Marshalling.collect output holder other ∈ function.marshallings →
    other = name

theorem text_mem_block {function : NativeFunction} {marshalling : Marshalling}
    (member : marshalling ∈ function.marshallings) :
    margin ++ marshalling.text ∈ function.block := by
  obtain ⟨statement, inside, read⟩ := List.mem_filterMap.1 member
  cases statement with
  | marshal other =>
    cases read
    exact List.mem_cons_of_mem _ (List.mem_map.2 ⟨_, inside, rfl⟩)
  | _ => cases read

/-- **A value that needs a handle is stored under the mangled name of its type.** -/
theorem collects_ofOverload (config : Config) (naming : ClassNaming) (method symbol : String)
    (arguments : List Argument) {outcome : Outcome} {position : Nat} {slot : ResultSlot}
    (listed : outcome.slots[position]? = some slot) (handle : slot.needsHandle = true) :
    (ofOverload config naming method symbol arguments outcome).Collects position
      slot.type.mangled := by
  have stored : (∃ holder, Marshalling.collect position holder slot.type.mangled ∈
      outcome.marshalling resultLocal) ∧
      ∀ holder other, Marshalling.collect position holder other ∈
        outcome.marshalling resultLocal → other = slot.type.mangled := by
    rcases Outcome.cases_of_slot listed with ⟨rfl, rfl⟩ | ⟨second, rfl, rfl⟩ | ⟨first, rfl, rfl⟩
    · simp [Outcome.marshalling, ResultSlot.collect_mem_marshalling_iff, handle]
    · simp [Outcome.marshalling, ResultSlot.collect_mem_marshalling_iff, handle]
    · simp [Outcome.marshalling, ResultSlot.collect_mem_marshalling_iff, handle]
  rw [← marshallings_ofOverload config naming method symbol arguments] at stored
  obtain ⟨⟨holder, member⟩, unique⟩ := stored
  exact ⟨⟨holder, text_mem_block member⟩, unique⟩

end NativeFunction

/-! ## The name that a condition tests for -/

/-- A piece of a composed text stands in it. -/
theorem exists_of_mem_intercalate {separator piece : String} {pieces : List String}
    (member : piece ∈ pieces) :
    ∃ front back, String.intercalate separator pieces = front ++ piece ++ back := by
  induction pieces with
  | nil => cases member
  | cons first rest ih =>
    rcases List.mem_cons.1 member with rfl | later
    · cases rest with
      | nil => exact ⟨"", "", by simp⟩
      | cons second others =>
        exact ⟨"", separator ++ String.intercalate separator (second :: others), by
          rw [String.intercalate_cons_cons, String.empty_append, String.append_assoc]⟩
    · obtain ⟨front, back, inside⟩ := ih later
      refine ⟨first ++ separator ++ front, back, ?_⟩
      rw [String.intercalate_cons_of_ne_nil (List.ne_nil_of_mem later), inside]
      simp only [String.append_assoc]

/-- The condition of an overload tests for a name at a place: its text says so, and if no tag holds
an apostrophe, then it is read as this test, and as no other one at the place. -/
structure Overload.TestsFor (overload : Overload) (place : Nat) (name : String) : Prop where
  written : ∃ front back, branchCondition overload.tags =
    front ++ ("isa(varargin\x7b" ++ toString place ++ "\x7d,'" ++ name ++ "')") ++ back
  tested : ∀ tag, .isClass place tag ∈ BranchTest.ofTags overload.tags ↔ tag = name
  read : Unquoted overload.tags → ∃ tests,
    Condition.tests? (branchCondition overload.tags) = some tests ∧
      ∀ tag, .isClass place tag ∈ tests ↔ tag = name

/-- **A condition tests for the tag of an argument** at its place. -/
theorem Overload.testsFor_of_argument {overload : Overload} {place : Nat} {argument : Argument}
    (declared : overload.arguments[place]? = some argument) :
    overload.TestsFor (place + 1) argument.tag := by
  have atPlace : overload.tags[place]? = some argument.tag := by
    rw [tags, Argument.tags, List.getElem?_map, declared]
    rfl
  have tested : ∀ tag, .isClass (place + 1) tag ∈ BranchTest.ofTags overload.tags ↔
      tag = argument.tag := by
    intro tag
    rw [BranchTest.isClass_mem_ofTags_iff, atPlace, Option.some.injEq, eq_comm]
  refine ⟨?_, tested, fun unquoted => ⟨_, Condition.tests?_branchCondition unquoted, tested⟩⟩
  rw [branchCondition_eq]
  exact exists_of_mem_intercalate (List.mem_map_of_mem (f := BranchTest.text)
    ((tested argument.tag).2 rfl))

/-- Where being of a class is having its name, an object passes a test exactly if its class has the
name that is tested. -/
theorem BranchTest.holds_isClass_iff {Value : Type} {className : Value → String}
    {values : List Value} {value : Value} {place : Nat} (given : values[place]? = some value)
    {tag : String} :
    (isClass (place + 1) tag).Holds (fun value tag => className value = tag) values ↔
      className value = tag := by
  constructor
  · rintro ⟨index, other, same, found, named⟩
    cases same
    rw [given] at found
    cases found
    exact named
  · intro named
    exact ⟨place, value, rfl, given, named⟩

/-! ## The names in the artifacts of a session -/

namespace Session

variable {session : Session}

/-- **The names of a class in the artifacts.**  For a class under the names that come from its
type, in any namespaces, its file defines it under the mangled name, and every handle to a result of
the type is stored under this name, while every argument of the type is tested for the qualified
name with points.  The two names are equal exactly if the class is in no namespace, and exactly then
an object of the class passes the test for an argument of its own type. -/
theorem artifactNames {settings : Settings} (accepted : settings.resolve = .ok session.config)
    {generated : Generated} (succeeded : session.runWritable.1 = .ok generated) {type : TypeName}
    (listed : type.declaration.naming ∈ session.snapshot.classes)
    (own : builtinMatlabClass? type.base = none) :
    (∃ file, generated.proxies.lookup type.mangled = some file ∧
      ClassFile.definedClass? file.lines = some type.mangled) ∧
    (∀ overload id, (overload, id) ∈ session.snapshot.listedOverloads.zipIdx session.first →
      ∃ outcome, generated.Carries session.config overload outcome id ∧
        (∀ position slot, outcome.slots[position]? = some slot → slot.type = type →
          slot.needsHandle = true →
          (NativeFunction.ofOverload session.config overload.naming overload.method
            (overload.symbol id) overload.overload.arguments outcome).Collects position
              type.mangled) ∧
        ∀ place argument, overload.overload.arguments[place]? = some argument →
          argument.type = type →
            overload.overload.TestsFor (place + 1) (type.qualified ".")) ∧
    (type.qualified "." = type.mangled ↔ type.namespaces = []) ∧
    ∀ (Value : Type) (className : Value → String) (values : List Value) (value : Value)
      (place : Nat), values[place]? = some value → className value = type.mangled →
        ((BranchTest.isClass (place + 1) (type.qualified ".")).Holds
          (fun value tag => className value = tag) values ↔ type.namespaces = []) := by
  obtain ⟨nonneg, emittable, rfl⟩ := eq_assembled_of_run (run_of_runWritable succeeded)
  have clear := Snapshot.stations_clear_iff.2 emittable
  refine ⟨?_, ?_, type.qualified_point_eq_mangled_iff, ?_⟩
  · obtain ⟨start, found, _⟩ := exists_classFile accepted emittable listed
    rw [type.matlabName_declaration] at found
    refine ⟨_, found, ?_⟩
    rw [ClassFile.definedClass?_lines, type.matlabName_declaration]
  · intro overload id numbered
    obtain ⟨outcome, carries⟩ := carries_of_listed accepted clear numbered
    refine ⟨outcome, carries, ?_, ?_⟩
    · rintro position slot returned rfl handle
      exact NativeFunction.collects_ofOverload _ _ _ _ _ returned handle
    · rintro place argument declared rfl
      rw [← TypeName.matlabClass_of_own _ own]
      exact Overload.testsFor_of_argument declared
  · intro Value className values value place given named
    rw [BranchTest.holds_isClass_iff given, named, eq_comm,
      type.qualified_point_eq_mangled_iff]

/-! ## A class in a namespace -/

/-- The type of a point in a namespace. -/
def pointType : TypeName :=
  ⟨"Point2", ["gtsam"]⟩

/-- A static method that takes a point and gives one back. -/
def mirrored : Overload :=
  ⟨[{ type := pointType, name := "point" }], .shape ⟨.single, [⟨pointType, .object, false⟩]⟩⟩

/-- A session on the class of points. -/
def ofPoint : Session where
  snapshot := .ofParts [pointType.declaration.naming] [("Point2", [⟨"mirrored", [mirrored]⟩])]
  config := (small 0).config

theorem emittable_ofPoint : ofPoint.snapshot.Emittable := by
  have unfound : ofPoint.snapshot.stations.findSome? Station.violation? = none := by decide
  exact Snapshot.stations_clear_iff.1 (Station.findSome?_violation?_eq_none_iff.1 unfound)

theorem runWritable_ofPoint : ofPoint.runWritable.1 = .ok ofPoint.assembled := by
  have nonneg : 0 ≤ ofPoint.startId := Int.le_refl 0
  have count : ofPoint.placements.length = 1 := by rfl
  have room : ofPoint.CanNumber 1 := (canNumber_iff nonneg).2 (by decide +kernel)
  exact (runWritable_eq_ok_iff nonneg).2
    ⟨Snapshot.stations_clear_iff.2 emittable_ofPoint, count ▸ room, rfl⟩

theorem artifactNames_ofPoint :
    Settings.resolve { moduleName := "shop" } = .ok ofPoint.config ∧
    ofPoint.runWritable.1 = .ok ofPoint.assembled ∧
    pointType.declaration.naming ∈ ofPoint.snapshot.classes ∧
    builtinMatlabClass? pointType.base = none ∧
    (∃ file, ofPoint.assembled.proxies.lookup "gtsamPoint2" = some file ∧
      ClassFile.definedClass? file.lines = some "gtsamPoint2") ∧
    pointType.qualified "." ≠ pointType.mangled := by
  have listed : pointType.declaration.naming ∈ ofPoint.snapshot.classes := List.mem_cons_self
  have own : builtinMatlabClass? pointType.base = none := by decide
  have accepted : Settings.resolve { moduleName := "shop" } = .ok ofPoint.config := resolve_small 0
  obtain ⟨file, _, same, _⟩ := artifactNames accepted runWritable_ofPoint listed own
  refine ⟨accepted, runWritable_ofPoint, listed, own, file, fun equal => ?_⟩
  cases same.1 equal

/-- **A point does not pass for a point.**  The object that the method stores under the name of the
class is not accepted by this very method, whose branch tests for a name with a point. -/
theorem artifactNames_apart :
    ofPoint.runWritable.1 = .ok ofPoint.assembled ∧
    pointType.declaration.naming ∈ ofPoint.snapshot.classes ∧
    builtinMatlabClass? pointType.base = none ∧
    (∃ file, ofPoint.assembled.proxies.lookup "gtsamPoint2" = some file ∧
      ClassFile.definedClass? file.lines = some "gtsamPoint2") ∧
    ∃ outcome,
      ofPoint.assembled.Carries ofPoint.config
        ⟨pointType.declaration.naming, "mirrored", 0, mirrored⟩ outcome 0 ∧
      (NativeFunction.ofOverload ofPoint.config pointType.declaration.naming "mirrored"
        "gtsamPoint2_mirrored_0" mirrored.arguments outcome).Collects 0 "gtsamPoint2" ∧
      (∃ tests, Condition.tests? (branchCondition mirrored.tags) = some tests ∧
        .isClass 1 "gtsam.Point2" ∈ tests) ∧
      "gtsam.Point2" ≠ "gtsamPoint2" ∧
      ¬ Condition.Holds (fun value tag => value = tag) ["gtsamPoint2"]
        (branchCondition mirrored.tags) := by
  have clear := Snapshot.stations_clear_iff.2 emittable_ofPoint
  have listed : pointType.declaration.naming ∈ ofPoint.snapshot.classes := List.mem_cons_self
  have accepted : Settings.resolve { moduleName := "shop" } = .ok ofPoint.config := resolve_small 0
  have numbered : ((⟨pointType.declaration.naming, "mirrored", 0, mirrored⟩ : ListedOverload), 0) ∈
      ofPoint.snapshot.listedOverloads.zipIdx ofPoint.first := by decide
  obtain ⟨start, found, _⟩ := exists_classFile accepted emittable_ofPoint listed
  obtain ⟨outcome, carries⟩ := carries_of_listed accepted clear numbered
  have taken : mirrored.arguments[0]? = some { type := pointType, name := "point" } := rfl
  have one : outcome = .one ⟨pointType, .object, false⟩ := by
    have checked : mirrored.result.outcome = .ok outcome := carries.checked
    cases checked
    rfl
  have unquoted : Unquoted mirrored.tags := by decide
  obtain ⟨tests, read, tested⟩ := (Overload.testsFor_of_argument taken).read unquoted
  have point : BranchTest.isClass 1 "gtsam.Point2" ∈ tests := (tested _).2 (by decide)
  refine ⟨runWritable_ofPoint, listed, by decide,
    ⟨_, found, ClassFile.definedClass?_lines _ _ _⟩, outcome, carries, ?_, ⟨tests, read, point⟩,
    by decide, ?_⟩
  · have returned : outcome.slots[0]? = some ⟨pointType, .object, false⟩ := by
      rw [one]
      rfl
    exact NativeFunction.collects_ofOverload _ _ _ _ _ returned rfl
  · rintro ⟨others, readAgain, holds⟩
    rw [read] at readAgain
    cases readAgain
    have passed := holds _ point
    rw [BranchTest.holds_isClass_iff rfl] at passed
    exact absurd passed (by decide)

end Session

end MexBridge
