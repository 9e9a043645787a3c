import MexBridge.Proofs.Emission.ProxyText
import MexBridge.Proofs.Reading.Blocks
import MexBridge.Proofs.Session.Run

/-!
# The nesting of a class file

`ClosedBlock.InPlace` says where the blocks of a class file belong: functions stand in the block of
methods of the class, and a function holds one conditional and nothing else, which ends with a part
without a test.  `nested_emitClass` says that every class file that is emitted can be read to its
end, that all its blocks are in place, and that its lines are indented by the blocks around them.
-/

set_option autoImplicit false

namespace MexBridge

open Blocks

/-- A block stands where blocks of its kind belong.  The one statement of a function is its
conditional, and a conditional stands directly in a function and has had a part without a test. -/
def ClosedBlock.InPlace (closed : ClosedBlock) : Prop :=
  match closed.block.kind with
  | .classdef => closed.around = []
  | .methods => closed.around = [.classdef]
  | .function =>
    closed.around = [.methods, .classdef] ∧ closed.block.statements = [some .conditional]
  | .conditional =>
    closed.around = [.function, .methods, .classdef] ∧ closed.block.hasElse = true

namespace ClassFile

/-- The kinds of blocks of a class file with so many functions, in the order in which they are
closed. -/
def blockKinds (count : Nat) : List BlockKind :=
  (List.replicate count [.conditional, .function]).flatten ++
    if count = 0 then [.classdef] else [.methods, .classdef]

theorem map_kind_blocks (functions : List ProxyFunction) :
    (blocks functions).map (·.block.kind) = blockKinds functions.length := by
  have inside : (functions.flatMap (ProxyFunction.blocks [.methods, .classdef])).map
      (·.block.kind) =
        (List.replicate functions.length [BlockKind.conditional, .function]).flatten := by
    induction functions with
    | nil => rfl
    | cons function rest ih =>
      rw [List.flatMap_cons, List.map_append, ih, List.length_cons, List.replicate_succ]
      rfl
  rw [blocks, List.map_append, inside, blockKinds]
  cases functions <;> rfl

theorem inPlace_of_mem_blocks {functions : List ProxyFunction} {closed : ClosedBlock}
    (member : closed ∈ blocks functions) : closed.InPlace := by
  rcases List.mem_append.1 member with inside | outside
  · obtain ⟨function, _, own⟩ := List.mem_flatMap.1 inside
    rcases List.mem_pair.1 own with rfl | rfl
    · exact ⟨rfl, rfl⟩
    · exact ⟨rfl, rfl⟩
  · split at outside
    · rw [List.mem_singleton.1 outside]
      rfl
    · rcases List.mem_pair.1 outside with rfl | rfl <;> rfl

/-- The lines of a class file without their indentation are the contents of its nested lines. -/
theorem map_unindented_lines {settings : Settings} {config : Config}
    (accepted : settings.resolve = .ok config) (naming : ClassNaming)
    (functions : List ProxyFunction) :
    (lines config naming functions).map Text.unindented =
      (nestedLines config.wrapperName naming functions).map NestedLine.content := by
  have leads := Settings.leadsWithWord_wrapperName accepted
  rw [lines, List.map_map]
  refine List.map_congr_left fun line member => ?_
  exact Text.unindented_append (Settings.allBlank_indentation accepted line.level)
    (NestedLine.flush_classFile leads member)

/-- The lines of a class file have the indentation of the blocks that they stand in. -/
theorem lines_eq_indented {settings : Settings} {config : Config}
    (accepted : settings.resolve = .ok config) (naming : ClassNaming)
    {functions : List ProxyFunction}
    (branched : ∀ function ∈ functions, function.branches ≠ []) :
    lines config naming functions =
      indented config ((lines config naming functions).map Text.unindented) := by
  have reads := reads_classFile (Settings.leadsWithWord_wrapperName accepted) naming branched
  rw [map_unindented_lines accepted, lines, reads.map_text]

end ClassFile

namespace Emission

/-- **A class file is nested.**  Read without its indentation, the file that the work on a class
leaves opens and closes its blocks in turn, and no block is open at its end.  Each method has its
conditional and, around it, its function; the functions have the block of methods around them, and
this has the class.  All these blocks are in place, and each line is indented by the blocks that it
stands in, whatever the names, the indent unit and the table. -/
theorem nested_emitClass {settings : Settings} {config : Config}
    {registration : FunctionTable.Registration} {naming : ClassNaming}
    {methods : List StaticMethod} {bench left : Workbench} {ids : List Nat}
    (accepted : settings.resolve = .ok config) (empty : bench.proxy = {})
    (done : (emitClass registration config naming methods).perform bench = (.ok ids, left)) :
    ∃ readings,
      readLines [] (left.proxy.lines.map Text.unindented) = some (readings, []) ∧
      (readings.filterMap LineReading.closed).map (·.block.kind) =
        ClassFile.blockKinds methods.length ∧
      (∀ closed ∈ readings.filterMap LineReading.closed, closed.InPlace) ∧
      left.proxy.lines = indented config (left.proxy.lines.map Text.unindented) := by
  obtain ⟨functions, serve, text⟩ := exists_functions_of_emitClass done
  have branched : ∀ function ∈ functions, function.branches ≠ [] := by
    intro function member
    obtain ⟨position, inside, rfl⟩ := List.mem_iff_getElem.1 member
    exact (serve.get inside (serve.length_eq ▸ inside)).branched
  have lines : left.proxy.lines = ClassFile.lines config naming functions := by
    rw [text, empty]
    rfl
  have leads := Settings.leadsWithWord_wrapperName accepted
  obtain ⟨readings, read, closed, -⟩ := reads_classFile leads naming branched
  refine ⟨readings, ?_, ?_, ?_, ?_⟩
  · rw [lines, ClassFile.map_unindented_lines accepted, read]
  · rw [closed, ClassFile.map_kind_blocks, serve.length_eq]
  · rw [closed]
    exact fun _ => ClassFile.inPlace_of_mem_blocks
  · rw [lines]
    exact ClassFile.lines_eq_indented accepted naming branched

/-- The file of a class with one method, at an empty bench: four blocks are closed in it. -/
theorem nested_emitClass_small :
    Settings.resolve { moduleName := "shop" } = .ok (Session.small 0).config ∧
    ∃ ids left readings,
      (emitClass FunctionTable.plainRegistration (Session.small 0).config
        ⟨"Box", "shop::Box", "Box", []⟩ ((Session.small 0).snapshot.methodsOf "Box")).perform {} =
          (.ok ids, left) ∧
      readLines [] (left.proxy.lines.map Text.unindented) = some (readings, []) ∧
      (readings.filterMap LineReading.closed).map (·.block.kind) =
        [.conditional, .function, .methods, .classdef] := by
  have clear : ∀ station ∈ Station.ofNames ⟨"Box", "shop::Box", "Box", []⟩ []
      ((Session.small 0).snapshot.methodsOf "Box") ++
        Station.ofMethods ⟨"Box", "shop::Box", "Box", []⟩
          ((Session.small 0).snapshot.methodsOf "Box"), station.Clear :=
    fun station member => Session.clear_small 0 station (List.mem_cons_of_mem _ member)
  have follows : Follows (Session.small 0).config {} _ _ _ _ :=
    follows_emitClass ⟨"Box", "shop::Box", "Box", []⟩
      ((Session.small 0).snapshot.methodsOf "Box") {}
      ⟨rfl, fun _ impossible => nomatch impossible⟩
  have done := follows.completes clear
  obtain ⟨readings, read, kinds, -⟩ := nested_emitClass (Session.resolve_small 0) rfl done
  exact ⟨Session.resolve_small 0, _, _, readings, done, read, kinds⟩

end Emission

end MexBridge
