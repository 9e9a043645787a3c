import MexBridge.Emission.Event
import MexBridge.FileSystem.Operations
import MexBridge.Session

/-!
# Publication

Files are published together.  Each is first written to a hidden temporary beside its place, and
when all texts are complete the temporaries are renamed to their names, one after the other in
order.  If anything fails before that, the temporaries are removed and the log says that the files
were given up.  A renaming that fails is reported as it is: what was renamed stays, and so do the
temporaries that were not reached.
-/

namespace MexBridge

set_option autoImplicit false

/-- What the holder of the open files does. -/
inductive WriterAction
  | write (name text : String)
  | fail (reason : String)
  deriving DecidableEq

/-- Why files are not published. -/
inductive PublicationFault
  | files (fault : FileFault)
  | unknownName (name : String)
  | failed (reason : String)
  deriving DecidableEq

/-- The complaint about a failed publication; most faults of files have no wording of their own. -/
def PublicationFault.message : PublicationFault → String
  | files fault => fault.message
  | unknownName name => Text.quoted name
  | failed reason => reason

/-- A file that is open for writing: where its temporary is, and what was written so far. -/
structure OpenFile where
  location : Location
  text : String := ""
  deriving DecidableEq

/-- The outcome of a publication: an answer, the files as they are left, and the log. -/
structure PublicationReport (α : Type) where
  answer : Except PublicationFault α
  files : FileSystem
  events : List Event

namespace Publication

/-- The name of the temporary of a file. -/
def temporaryName (name : String) : String :=
  "." ++ name ++ ".tmp"

/-- The path of the temporary of a file. -/
def temporary (directory : Path) (name : String) : Path :=
  directory.child (temporaryName name)

/-- Opens the temporaries of names in order.  What was opened before a fault is kept. -/
def openAll (directory : Path) (files : FileSystem) (opened : OrderedMap String OpenFile) :
    List String → Except FileFault Unit × OrderedMap String OpenFile × FileSystem
  | [] => (.ok (), opened, files)
  | name :: rest =>
    match files.openForWriting (temporary directory name) with
    | .error fault => (.error fault, opened, files)
    | .ok (location, extended) =>
      openAll directory extended (opened.insert name { location := location }) rest

/-- Lets the holder of the open files act, up to its first fault. -/
def act (opened : OrderedMap String OpenFile) :
    List WriterAction → Except PublicationFault Unit × OrderedMap String OpenFile
  | [] => (.ok (), opened)
  | .fail reason :: _ => (.error (.failed reason), opened)
  | .write name text :: rest =>
    match opened.get? name with
    | none => (.error (.unknownName name), opened)
    | some file => act (opened.insert name { file with text := file.text ++ text }) rest

/-- Closes the open files in order, which brings their texts to the temporaries. -/
def close (files : FileSystem) (opened : OrderedMap String OpenFile) : FileSystem :=
  opened.values.foldl (fun current file => current.writeAt file.location file.text) files

/-- Renames the temporaries of names in order, up to the first fault. -/
def renameAll (directory : Path) (files : FileSystem) :
    List String → Except FileFault Unit × FileSystem
  | [] => (.ok (), files)
  | name :: rest =>
    match files.renameFile (temporary directory name) (directory.child name) with
    | .error fault => (.error fault, files)
    | .ok renamed => renameAll directory renamed rest

/-- Removes the temporaries of names in order, up to the first fault; missing ones are fine. -/
def discardAll (directory : Path) (files : FileSystem) :
    List String → Except FileFault Unit × FileSystem
  | [] => (.ok (), files)
  | name :: rest =>
    match files.removeFileIfPresent (temporary directory name) with
    | .error fault => (.error fault, files)
    | .ok remaining => discardAll directory remaining rest

/-- Gives the files up for a reason; a fault on the way takes the place of the reason, and then
nothing is logged. -/
def giveUp {α : Type} (directory : Path) (files : FileSystem) (names : List String)
    (reason : PublicationFault) : PublicationReport α :=
  match discardAll directory files names with
  | (.error fault, remaining) => ⟨.error (.files fault), remaining, []⟩
  | (.ok (), remaining) => ⟨.error reason, remaining, [.discarded directory.render]⟩

/-- Publishes files of the given names in a directory, which is made if it is missing.  A name
given twice is one file.  The answer is the list of the names. -/
def publish (files : FileSystem) (directory : Path) (names : List String)
    (actions : List WriterAction) : PublicationReport (List String) :=
  match files.makeDirectories directory with
  | (.error fault, prepared) => ⟨.error (.files fault), prepared, []⟩
  | (.ok (), prepared) =>
    let distinct := names.eraseDups
    match openAll directory prepared .empty distinct with
    | (.error fault, opened, current) =>
      giveUp directory (close current opened) distinct (.files fault)
    | (.ok (), opened, current) =>
      match act opened actions with
      | (.error reason, written) => giveUp directory (close current written) distinct reason
      | (.ok (), written) =>
        match renameAll directory (close current written) distinct with
        | (.error fault, remaining) => ⟨.error (.files fault), remaining, []⟩
        | (.ok (), published) => ⟨.ok distinct, published, []⟩

/-- Writes in order, and a failure before the write at a position; a position beyond the writes
never comes. -/
def interrupted (writes : List (String × String)) (failure : Option (Int × String)) :
    List WriterAction :=
  let actions := writes.map fun (name, text) => WriterAction.write name text
  match failure with
  | none => actions
  | some (position, reason) =>
    if 0 ≤ position ∧ position ≤ writes.length then
      actions.take position.toNat ++ [.fail reason]
    else actions

end Publication

namespace Generated

/-- Publishes all files of a session; the answer is the list of their paths. -/
def publish (generated : Generated) (files : FileSystem) (directory : Path) :
    PublicationReport (List Path) :=
  let outputs := generated.files
  let report := Publication.publish files directory (outputs.map Prod.fst)
    (Publication.interrupted outputs none)
  { report with answer := report.answer.map fun names => names.map directory.child }

end Generated

/-- Why a session gives no files: its emission or its publication failed. -/
inductive GenerationFault
  | emission (fault : EmissionFault)
  | publication (fault : PublicationFault)
  deriving DecidableEq

/-- The outcome of a session together with its publication. -/
structure GenerationReport where
  answer : Except GenerationFault (Generated × List Path)
  files : FileSystem
  events : List Event

/-- Runs a session and publishes its files; if the session is stopped, no file is touched. -/
def Session.generate (session : Session) (files : FileSystem) (directory : Path) :
    GenerationReport :=
  match session.runWritable with
  | (.error fault, events) => ⟨.error (.emission fault), files, events⟩
  | (.ok generated, events) =>
    let report := generated.publish files directory
    let answer := match report.answer with
      | .ok paths => .ok (generated, paths)
      | .error fault => .error (.publication fault)
    ⟨answer, report.files, events ++ report.events⟩

end MexBridge
