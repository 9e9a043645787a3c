import MexBridge.Emission.Event
import MexBridge.Emission.Violation
import MexBridge.Native.Function
import MexBridge.Proxy.ClassFile
import MexBridge.Text.Buffer

/-!
# Emission

The emitters work at a bench that holds the two files under construction, the function table and
the log.  Whatever an emitter did before it stopped stays on the bench, so an `Emission` answers
with a result or a fault and always leaves a bench.

The native function of an overload is written before its number is entered, and the proxy function
of a method is written only when all its branches are there.
-/

namespace MexBridge

set_option autoImplicit false

/-- The files under construction, the function table and the log. -/
structure Workbench where
  proxy : TextBuffer := {}
  native : TextBuffer := {}
  table : FunctionTable := {}
  events : List Event := []
  deriving DecidableEq

/-- Work at the bench: a result or a fault, and the bench as it is left. -/
abbrev Emission := ExceptT EmissionFault (StateM Workbench)

namespace Emission

/-- The answer of an emission and the bench that it leaves. -/
def perform {α : Type} (emission : Emission α) (bench : Workbench) :
    Except EmissionFault α × Workbench :=
  (ExceptT.run emission).run bench

/-- Stops with a violation. -/
def stop {α : Type} (cause : Violation) : Emission α :=
  throw (.violation cause)

/-- Appends lines to the proxy file. -/
def writeProxy (lines : List String) : Emission Unit :=
  modify fun bench => { bench with proxy := bench.proxy.extend lines }

/-- Appends nested lines to the proxy file. -/
def writeNested (config : Config) (lines : List NestedLine) : Emission Unit :=
  writeProxy (lines.map (NestedLine.text config))

/-- Appends lines to the native file. -/
def writeNative (lines : List String) : Emission Unit :=
  modify fun bench => { bench with native := bench.native.extend lines }

/-- Reports events. -/
def report (events : List Event) : Emission Unit :=
  modify fun bench => { bench with events := bench.events ++ events }

/-- Begins the next proxy file. -/
def startProxy : Emission Unit :=
  modify fun bench => { bench with proxy := {} }

/-- The bench as it is. -/
def currentBench : Emission Workbench :=
  get

/-- The number that the table gives next. -/
def nextId : Emission Nat :=
  return (← get).table.nextId

/-- Enters a symbol into the table. -/
def register (registration : FunctionTable.Registration) (symbol : String) : Emission Nat := do
  let bench ← get
  let (answer, table) := registration bench.table symbol
  set { bench with table := table }
  match answer with
  | .ok id => return id
  | .error refusal => throw (.table refusal)

/-- The checked result of an overload. -/
def requireOutcome (naming : ClassNaming) (method : String) (overload : Overload) (index : Int) :
    Emission Outcome :=
  match overload.result.outcome with
  | .ok outcome => return outcome
  | .error fault => stop (.malformedResult naming.matlabName method index fault)

/-- Stops where the indentation of a nesting level cannot be made. -/
def requireIndentation (config : Config) (level : Int) : Emission Unit :=
  match config.indentFault? level with
  | some fault => throw (.indentation fault)
  | none => return ()

/-! ## What each step leaves on the bench -/

@[simp] theorem perform_pure {α : Type} (value : α) (bench : Workbench) :
    perform (pure value) bench = (.ok value, bench) := rfl

/-- Work in sequence: the second part starts from the bench of the first, unless that stopped. -/
theorem perform_bind {α β : Type} (first : Emission α) (second : α → Emission β)
    (bench : Workbench) :
    perform (first >>= second) bench =
      match perform first bench with
      | (.ok value, later) => perform (second value) later
      | (.error fault, later) => (.error fault, later) := by
  unfold perform
  rw [ExceptT.run_bind, StateT.run_bind]
  rcases (ExceptT.run first).run bench with ⟨answer, later⟩
  cases answer <;> rfl

@[simp] theorem perform_stop {α : Type} (cause : Violation) (bench : Workbench) :
    perform (stop cause : Emission α) bench = (.error (.violation cause), bench) := rfl

@[simp] theorem perform_writeProxy (lines : List String) (bench : Workbench) :
    perform (writeProxy lines) bench =
      (.ok (), { bench with proxy := bench.proxy.extend lines }) := rfl

@[simp] theorem perform_writeNested (config : Config) (lines : List NestedLine)
    (bench : Workbench) :
    perform (writeNested config lines) bench =
      (.ok (), { bench with proxy := bench.proxy.extend (lines.map (NestedLine.text config)) }) :=
  rfl

@[simp] theorem perform_writeNative (lines : List String) (bench : Workbench) :
    perform (writeNative lines) bench =
      (.ok (), { bench with native := bench.native.extend lines }) := rfl

@[simp] theorem perform_report (events : List Event) (bench : Workbench) :
    perform (report events) bench = (.ok (), { bench with events := bench.events ++ events }) := rfl

@[simp] theorem perform_startProxy (bench : Workbench) :
    perform startProxy bench = (.ok (), { bench with proxy := {} }) := rfl

@[simp] theorem perform_currentBench (bench : Workbench) :
    perform currentBench bench = (.ok bench, bench) := rfl

@[simp] theorem perform_nextId (bench : Workbench) :
    perform nextId bench = (.ok bench.table.nextId, bench) := rfl

theorem perform_register (registration : FunctionTable.Registration) (symbol : String)
    (bench : Workbench) :
    perform (register registration symbol) bench =
      let (answer, table) := registration bench.table symbol
      (answer.mapError .table, { bench with table := table }) := by
  unfold register
  rw [perform_bind]
  change perform _ bench = _
  rcases registration bench.table symbol with ⟨answer, table⟩
  cases answer <;> rfl

theorem perform_requireOutcome (naming : ClassNaming) (method : String) (overload : Overload)
    (index : Int) (bench : Workbench) :
    perform (requireOutcome naming method overload index) bench =
      (overload.result.outcome.mapError fun fault =>
        .violation (.malformedResult naming.matlabName method index fault), bench) := by
  unfold requireOutcome
  cases overload.result.outcome <;> rfl

theorem perform_requireIndentation (config : Config) (level : Int) (bench : Workbench) :
    perform (requireIndentation config level) bench =
      ((config.checkedIndentation level).map (fun _ => ()) |>.mapError .indentation, bench) := by
  unfold requireIndentation Config.checkedIndentation
  cases config.indentFault? level <;> rfl

end Emission

end MexBridge
