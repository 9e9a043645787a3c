import MexBridge.FileSystem.Path
import MexBridge.OrderedMap

/-!
# Files and directories

A file system gives every location below the root at most one entry: a directory, or a file with
its text.  Paths lead to locations: each step but the last one has to be a directory, and an
upward step leads to the directory above.  `FileSystem.entryAt` is the view through which all
operations are described.
-/

namespace MexBridge

set_option autoImplicit false

/-- A place in the file system: the names on the way from the root. -/
abbrev Location := List String

/-- What can be at a location. -/
inductive Entry
  | directory
  | file (text : String)
  deriving DecidableEq

/-- The entries below the root, and the directory in which relative paths begin. -/
structure FileSystem where
  entries : OrderedMap Location Entry := .empty
  workingDirectory : Location := []

/-- Why an operation on files fails. -/
inductive FileFault
  | missing
  | alreadyExists
  | isDirectory
  | notDirectory
  | nameTooLong
  | notEmpty
  | busy
  | embeddedNull
  deriving DecidableEq

/-- The complaint about a failed operation; only a path with the null character is worded here,
every other fault is what the file system says. -/
def FileFault.message : FileFault → String
  | embeddedNull => "embedded null byte"
  | _ => ""

/-- The greatest length of a name, in bytes. -/
def nameLimit : Nat := 255

/-- The greatest length of a written path, in bytes. -/
def pathLimit : Nat := 4095

/-- Where the last step of a path leads from. -/
inductive Place
  /-- The path ends with a name in a directory. -/
  | named (parent : Location) (name : String)
  /-- The path ends with an upward step, or has no steps. -/
  | directory (location : Location)
  deriving DecidableEq

namespace FileSystem

/-- The entry at a location; the root is a directory. -/
def entryAt (files : FileSystem) (location : Location) : Option Entry :=
  if location = [] then some .directory else files.entries.get? location

/-- Whether there is a directory at a location. -/
def isDirectoryAt (files : FileSystem) (location : Location) : Bool :=
  files.entryAt location == some .directory

/-- The files with an entry put at a location. -/
def put (files : FileSystem) (location : Location) (entry : Entry) : FileSystem :=
  { files with entries := files.entries.insert location entry }

/-- The files without an entry at a location. -/
def remove (files : FileSystem) (location : Location) : FileSystem :=
  { files with entries := files.entries.erase location }

/-- Follows one step from a directory to a directory. -/
def follow (files : FileSystem) (directory : Location) (step : String) :
    Except FileFault Location :=
  if step = Path.upward then .ok directory.dropLast
  else if nameLimit < step.utf8ByteSize then .error .nameTooLong
  else match files.entryAt (directory ++ [step]) with
    | some .directory => .ok (directory ++ [step])
    | some (.file _) => .error .notDirectory
    | none => .error .missing

/-- The place to which steps lead from a directory; the last step is not followed. -/
def placeFrom (files : FileSystem) (directory : Location) : List String → Except FileFault Place
  | [] => .ok (.directory directory)
  | [step] =>
    .ok (if step = Path.upward then .directory directory.dropLast else .named directory step)
  | step :: rest => do
    let next ← files.follow directory step
    files.placeFrom next rest

/-- The directory in which a path begins. -/
def origin (files : FileSystem) (path : Path) : Location :=
  match path.anchor with
  | .here => files.workingDirectory
  | .root => []
  | .doubleRoot => []

/-- The place to which a path leads.  A path that holds the null character, or that is longer than
the limit, leads nowhere. -/
def placeOf (files : FileSystem) (path : Path) : Except FileFault Place :=
  if path.render.toList.contains '\x00' then .error .embeddedNull
  else if pathLimit < path.render.utf8ByteSize then .error .nameTooLong
  else files.placeFrom (files.origin path) path.steps

/-- The location of a name in a directory, if the name is not too long. -/
def locationIn (parent : Location) (name : String) : Except FileFault Location :=
  if nameLimit < name.utf8ByteSize then .error .nameTooLong else .ok (parent ++ [name])

theorem entryAt_put (files : FileSystem) {location : Location} (nonroot : location ≠ [])
    (other : Location) (entry : Entry) :
    (files.put location entry).entryAt other =
      if other = location then some entry else files.entryAt other := by
  unfold entryAt put
  by_cases atRoot : other = []
  · subst atRoot
    simp [nonroot.symm]
  · simp [atRoot, OrderedMap.get?_insert]

theorem entryAt_remove (files : FileSystem) {location : Location} (nonroot : location ≠ [])
    (other : Location) :
    (files.remove location).entryAt other =
      if other = location then none else files.entryAt other := by
  unfold entryAt remove
  by_cases atRoot : other = []
  · subst atRoot
    simp [nonroot.symm]
  · simp [atRoot, OrderedMap.get?_erase]

end FileSystem

end MexBridge
