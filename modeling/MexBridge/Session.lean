import MexBridge.Emission.Method
import MexBridge.Native.Gateway
import MexBridge.Registry.Basic

/-!
# Sessions

A session turns a snapshot into the texts of its files: a proxy file for each class, in the order
of the snapshot, and one wrapper file with all native functions and the gateway behind them.  The
outcome depends on the snapshot, the configuration and the starting number alone.  A session that
is stopped gives no texts, but its log tells how far it came.
-/

namespace MexBridge

set_option autoImplicit false

/-- A generation pass: what it reads, its configuration and its first number. -/
structure Session where
  snapshot : Snapshot
  config : Config
  startId : Int := 0

/-- What a session is opened on: a registry, or a snapshot that was taken before. -/
inductive Source
  | registry (recorded : Registry)
  | snapshot (taken : Snapshot)

namespace Source

/-- What a session reads of its source, and the source afterwards: a registry is frozen. -/
def read : Source → Snapshot × Source
  | .registry recorded =>
    let (taken, closed) := recorded.freeze
    (taken, .registry closed)
  | .snapshot taken => (taken, .snapshot taken)

/-- Whether a registry is frozen; of a snapshot there is nothing to tell. -/
def frozen? : Source → Option Bool
  | .registry recorded => some recorded.frozen
  | .snapshot _ => none

end Source

/-- Opens a session on a source; gives the source as the session leaves it. -/
def Session.openOn (source : Source) (config : Config) (startId : Int) : Session × Source :=
  let (snapshot, left) := source.read
  ({ snapshot := snapshot, config := config, startId := startId }, left)

/-- The outcome of a session that ended well; proxies are under the MATLAB names of classes. -/
structure Generated where
  proxies : List (String × TextBuffer)
  wrapper : TextBuffer
  table : FunctionTable
  wrapperName : String
  deriving DecidableEq

namespace Emission

/-- Writes the proxy file of a class from its start, and the native functions of its methods. -/
def emitClassFile (config : Config) (snapshot : Snapshot) (naming : ClassNaming) :
    Emission TextBuffer := do
  startProxy
  let _ ← emitClass FunctionTable.plainRegistration config naming (snapshot.methodsOf naming.name)
  return (← currentBench).proxy

/-- Writes the files of classes; `earlier` are the MATLAB names that are taken. -/
def emitClassFiles (config : Config) (snapshot : Snapshot) (earlier : List String) :
    List ClassNaming → Emission (List (String × TextBuffer))
  | [] => return []
  | naming :: rest => do
    if earlier.contains naming.matlabName then
      stop (.classCollision naming)
    let file ← emitClassFile config snapshot naming
    let files ← emitClassFiles config snapshot (naming.matlabName :: earlier) rest
    return (naming.matlabName, file) :: files

/-- The emission of a whole session. -/
def emitSession (config : Config) (snapshot : Snapshot) : Emission Generated := do
  writeNative (Gateway.prologue config)
  let proxies ← emitClassFiles config snapshot [] snapshot.classes
  let table := (← currentBench).table.freeze
  writeNative (Gateway.lines config table)
  report [.generated proxies.length table.size table.start config.moduleName]
  return {
    proxies := proxies
    wrapper := (← currentBench).native
    table := table
    wrapperName := config.wrapperName }

end Emission

namespace Session

/-- The outcome of a session, and its log. -/
def run (session : Session) : Except EmissionFault Generated × List Event :=
  match FunctionTable.startingAt session.startId with
  | .error refusal => (.error (.table refusal), [])
  | .ok table =>
    let (answer, bench) :=
      (Emission.emitSession session.config session.snapshot).perform { table := table }
    (answer, bench.events)

/-- The outcome of a session whose numbers have to be written out, and its log.  A number with too
many digits stops the session before anything of its overload is written. -/
def runWritable (session : Session) : Except EmissionFault Generated × List Event :=
  let outcome := session.run
  match Event.beforeNative? (writingBound - session.startId.toNat) outcome.2 with
  | some earlier => (.error (.number .tooManyDigits), earlier)
  | none => outcome

/-- Writing stops no session that stays below the bound of what can be written. -/
theorem runWritable_eq_run {session : Session}
    (room : session.run.2.countP Event.isNative ≤ writingBound - session.startId.toNat) :
    session.runWritable = session.run := by
  simp only [runWritable, Event.beforeNative?_eq_none_iff.2 room]

end Session

namespace Generated

/-- The proxies in the order of their class names. -/
def sortedProxies (generated : Generated) : List (String × TextBuffer) :=
  generated.proxies.mergeSort fun first second => decide (first.1 ≤ second.1)

/-- The files by name: the proxies in the order of their class names, and then the wrapper. -/
def files (generated : Generated) : List (String × String) :=
  generated.sortedProxies.map (fun (name, proxy) => (name ++ ".m", proxy.render)) ++
    [(generated.wrapperName ++ ".cpp", generated.wrapper.render)]

end Generated

end MexBridge
