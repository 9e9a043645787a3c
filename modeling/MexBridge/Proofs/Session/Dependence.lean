import MexBridge.Proofs.Proxy.Faces
import MexBridge.Proofs.Proxy.Nesting
import MexBridge.Proofs.Session.Reach

/-!
# What the artifacts of a session depend on

Two sessions are compared here.  Where they have the same faces, the same first number, indent unit
and wrapper's name, they write the same proxies, however their declarations differ otherwise
(`proxies_eq_of_faces`).  Where they have everything in common but the indent unit, they come to the
same end, with the same wrapper file and the same table, and their proxies differ by the indentation
of each line at most (`runWritable_withIndent`).  `Session.dependence` is both statements.
-/

set_option autoImplicit false

namespace MexBridge

namespace Session

/-- The session with another indent unit. -/
def withIndent (session : Session) (unit : String) : Session :=
  { session with config := { session.config with indent := unit } }

variable {session : Session}

/-- What a session that ends well has generated, and that nothing was in its way. -/
theorem assembled_of_runWritable {generated : Generated}
    (succeeded : session.runWritable.1 = .ok generated) :
    (∀ station ∈ session.snapshot.stations, station.Clear) ∧ generated = session.assembled := by
  obtain ⟨-, emittable, same⟩ := eq_assembled_of_run (run_of_runWritable succeeded)
  exact ⟨Snapshot.stations_clear_iff.2 emittable, same⟩

/-- The proxies of a session that ends well are made from the faces of its snapshot. -/
theorem proxies_assembled {other : Config} (indent : session.config.indent = other.indent)
    (wrapperName : session.config.wrapperName = other.wrapperName)
    (clear : ∀ station ∈ session.snapshot.stations, station.Clear) :
    session.assembled.proxies =
      classFiles other (ClassFace.functions session.first session.snapshot.faces) :=
  classFiles_eq_ofFaces indent wrapperName session.first clear

/-- Sessions with the same faces write the same proxies. -/
theorem proxies_eq_of_faces {first second : Session} {earlier later : Generated}
    (startId : first.startId = second.startId)
    (indent : first.config.indent = second.config.indent)
    (wrapperName : first.config.wrapperName = second.config.wrapperName)
    (faces : first.snapshot.faces = second.snapshot.faces)
    (endsFirst : first.runWritable.1 = .ok earlier)
    (endsSecond : second.runWritable.1 = .ok later) : earlier.proxies = later.proxies := by
  obtain ⟨clearFirst, rfl⟩ := assembled_of_runWritable endsFirst
  obtain ⟨clearSecond, rfl⟩ := assembled_of_runWritable endsSecond
  have start : first.first = second.first := congrArg Int.toNat startId
  rw [proxies_assembled indent wrapperName clearFirst, proxies_assembled rfl rfl clearSecond, start,
    faces]

end Session

/-! ## Class files without their indentation -/

section Indentation

variable {settings : Settings} {config : Config}
  {functions : List (ClassNaming × List ProxyFunction)}

/-- The contents of class files do not show the indent unit. -/
theorem map_unindented_classFiles (accepted : settings.resolve = .ok config) :
    ((classFiles config functions).map fun (name, file) =>
        (name, file.lines.map Text.unindented)) =
      functions.map fun (naming, own) => (naming.matlabName,
        (ClassFile.nestedLines config.wrapperName naming own).map NestedLine.content) := by
  rw [classFiles, List.map_map]
  exact List.map_congr_left fun entry _ =>
    Prod.ext rfl (ClassFile.map_unindented_lines accepted entry.1 entry.2)

/-- Each line of a class file is indented by the blocks that it stands in. -/
theorem indented_classFiles (accepted : settings.resolve = .ok config)
    (branched : ∀ entry ∈ functions, ∀ function ∈ entry.2, function.branches ≠ []) :
    ∀ entry ∈ classFiles config functions,
      entry.2.lines = Blocks.indented config (entry.2.lines.map Text.unindented) := by
  intro entry member
  obtain ⟨⟨naming, own⟩, listed, rfl⟩ := List.mem_map.1 member
  exact ClassFile.lines_eq_indented accepted naming (branched _ listed)

end Indentation

namespace Session

variable {session : Session}

/-- The outcome of a session with another indent unit. -/
theorem fst_runWritable_withIndent (nonneg : 0 ≤ session.startId) (unit : String) :
    (session.withIndent unit).runWritable.1 =
      if session.snapshot.reach ≤ writingBound - session.startId.toNat then
        match session.snapshot.hindrance? with
        | some violation => .error (.violation violation)
        | none => .ok (session.withIndent unit).assembled
      else .error (.number .tooManyDigits) :=
  fst_runWritable nonneg

/-- Two sessions that differ in the indent unit come to the same end. -/
theorem runWritable_withIndent (unit : String) :
    (∃ fault, session.runWritable.1 = .error fault ∧
      (session.withIndent unit).runWritable.1 = .error fault) ∨
    (∀ station ∈ session.snapshot.stations, station.Clear) ∧
      session.runWritable.1 = .ok session.assembled ∧
      (session.withIndent unit).runWritable.1 = .ok (session.withIndent unit).assembled := by
  by_cases nonneg : 0 ≤ session.startId
  · have own := fst_runWritable nonneg
    have others := fst_runWritable_withIndent nonneg unit
    split at own
    next room =>
      rw [if_pos room] at others
      cases hindrance : session.snapshot.hindrance? with
      | some violation =>
        rw [hindrance] at own others
        exact .inl ⟨_, own, others⟩
      | none =>
        rw [hindrance] at own others
        exact .inr ⟨Snapshot.hindrance?_eq_none_iff.1 hindrance, own, others⟩
    next full =>
      rw [if_neg full] at others
      exact .inl ⟨_, own, others⟩
  · exact .inl ⟨_, fst_runWritable_of_negative (Int.not_le.1 nonneg),
      fst_runWritable_of_negative (Int.not_le.1 nonneg)⟩

/-- **What the artifacts depend on.**  Two sessions that end well and agree on the first number, the
indent unit, the wrapper's name and the faces of their snapshots write the same proxies.  Two
sessions that differ in the indent unit alone fail for the same cause, or both end well with the
same wrapper file and the same table; their proxies have the same lines, each of them behind so many
of the indent units as there are blocks around it. -/
theorem dependence :
    (∀ (first second : Session) (earlier later : Generated),
      first.startId = second.startId → first.config.indent = second.config.indent →
      first.config.wrapperName = second.config.wrapperName →
      first.snapshot.faces = second.snapshot.faces →
      first.runWritable.1 = .ok earlier → second.runWritable.1 = .ok later →
      earlier.proxies = later.proxies) ∧
    ∀ (session : Session) (unit : String) (settings otherSettings : Settings),
      settings.resolve = .ok session.config →
      otherSettings.resolve = .ok (session.withIndent unit).config →
      (∃ fault, session.runWritable.1 = .error fault ∧
        (session.withIndent unit).runWritable.1 = .error fault) ∨
      ∃ first second : Generated, session.runWritable.1 = .ok first ∧
        (session.withIndent unit).runWritable.1 = .ok second ∧
        first.wrapper = second.wrapper ∧ first.table.entries = second.table.entries ∧
        (first.proxies.map fun (name, file) => (name, file.lines.map Text.unindented)) =
          (second.proxies.map fun (name, file) => (name, file.lines.map Text.unindented)) ∧
        (∀ entry ∈ first.proxies, entry.2.lines =
          Blocks.indented session.config (entry.2.lines.map Text.unindented)) ∧
        ∀ entry ∈ second.proxies, entry.2.lines =
          Blocks.indented (session.withIndent unit).config
            (entry.2.lines.map Text.unindented) := by
  refine ⟨fun _ _ _ _ => proxies_eq_of_faces, ?_⟩
  intro session unit settings otherSettings accepted otherAccepted
  rcases session.runWritable_withIndent unit with failed | ⟨clear, own, others⟩
  · exact .inl failed
  · have branched : ∀ entry ∈ ClassFace.functions session.first session.snapshot.faces,
        ∀ function ∈ entry.2, function.branches ≠ [] :=
      ClassFace.branched_functions (Snapshot.stations_clear_iff.1 clear).overloaded_faces
    have proxies : session.assembled.proxies =
        classFiles session.config
          (ClassFace.functions session.first session.snapshot.faces) :=
      proxies_assembled rfl rfl clear
    have otherProxies : (session.withIndent unit).assembled.proxies =
        classFiles (session.withIndent unit).config
          (ClassFace.functions session.first session.snapshot.faces) :=
      proxies_assembled rfl rfl clear
    refine .inr ⟨_, _, own, others, rfl, rfl, ?_, ?_, ?_⟩
    · rw [proxies, otherProxies, map_unindented_classFiles accepted,
        map_unindented_classFiles otherAccepted]
      rfl
    · rw [proxies]
      exact indented_classFiles accepted branched
    · rw [otherProxies]
      exact indented_classFiles otherAccepted branched

/-- The small session once more, with other declarations behind the same faces: the argument is a
vector by reference, the result is a vector, and the module has another name. -/
def smallRestated : Session where
  snapshot := .ofParts [⟨"Carton", "shop::Box", "Box", ["shop"]⟩]
    [("Carton", [⟨"scaled",
      [⟨[], .shape ⟨.nothing, []⟩⟩,
        ⟨[{ type := ⟨"Vector", []⟩, name := "scale", isConst := true, passing := .reference }],
          .shape ⟨.single, [⟨⟨"Vector", ["shop"]⟩, .object, true⟩]⟩⟩]⟩])]
  config :=
    { moduleName := "store", wrapperName := "shop_wrapper", usingNamespaces := ["shop"]
      includes := [], indent := "  " }

/-- The restated session writes another wrapper file and the same proxies, and a tab as indent unit
changes nothing but the indentation. -/
theorem dependence_small :
    (small 0).runWritable.1 = .ok (small 0).assembled ∧
    smallRestated.runWritable.1 = .ok smallRestated.assembled ∧
    (small 0).assembled.wrapper ≠ smallRestated.assembled.wrapper ∧
    (small 0).assembled.proxies = smallRestated.assembled.proxies ∧
    ∃ second, ((small 0).withIndent "\t").runWritable.1 = .ok second ∧
      (small 0).assembled.wrapper = second.wrapper := by
  have hindrance : smallRestated.snapshot.hindrance? = none := by decide
  have reach : smallRestated.snapshot.reach = 2 := by decide
  have two : 2 ≤ writingBound := by decide +kernel
  have room : smallRestated.snapshot.reach ≤ writingBound - smallRestated.startId.toNat := by
    rw [reach, show smallRestated.startId.toNat = 0 from rfl, Nat.sub_zero]
    exact two
  have restated : smallRestated.runWritable.1 = .ok smallRestated.assembled := by
    rw [fst_runWritable (Int.le_refl 0), if_pos room, hindrance]
  have tabbed : Settings.resolve { moduleName := "shop", indent := "\t" } =
      .ok ((small 0).withIndent "\t").config := rfl
  refine ⟨runWritable_small, restated, ?_, ?_, ?_⟩
  · intro same
    exact absurd (congrArg TextBuffer.size same) (by decide)
  · exact dependence.1 (small 0) smallRestated _ _ rfl rfl rfl (by decide) runWritable_small
      restated
  · rcases dependence.2 (small 0) "\t" _ _ (resolve_small 0) tabbed with
      ⟨fault, failed, -⟩ | ⟨first, second, own, other, wrapper, -⟩
    · rw [runWritable_small] at failed
      cases failed
    · rw [runWritable_small] at own
      cases own
      exact ⟨second, other, wrapper⟩

end Session

end MexBridge
