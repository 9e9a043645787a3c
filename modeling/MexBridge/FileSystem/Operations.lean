import MexBridge.FileSystem.Basic

/-!
# Operations on files

The operations that publishing needs: making directories, opening a file for writing, writing,
removing and renaming.  Each fails as a file system of the POSIX kind does, with the same fault
where several apply.
-/

namespace MexBridge.FileSystem

set_option autoImplicit false

/-- Whether a path leads to a directory. -/
def leadsToDirectory (files : FileSystem) (path : Path) : Bool :=
  match files.placeOf path with
  | .ok (.named parent name) =>
    decide (name.utf8ByteSize ≤ nameLimit) && files.isDirectoryAt (parent ++ [name])
  | .ok (.directory location) => files.isDirectoryAt location
  | .error _ => false

/-! ## Directories -/

/-- Makes one directory, whose parent has to be there. -/
def makeDirectory (files : FileSystem) (path : Path) : Except FileFault FileSystem := do
  match ← files.placeOf path with
  | .directory _ => throw .alreadyExists
  | .named parent name =>
    let location ← locationIn parent name
    match files.entryAt location with
    | some _ => throw .alreadyExists
    | none => return files.put location .directory

/-- Makes one directory unless the path leads to one. -/
def makeDirectoryIfNeeded (files : FileSystem) (path : Path) : Except FileFault FileSystem :=
  match files.makeDirectory path with
  | .ok extended => .ok extended
  | .error fault => if files.leadsToDirectory path then .ok files else .error fault

/-- Makes the directory at the end of steps, given from the last one to the first, and the
directories on the way to it.  Directories that were made stay when a later one fails. -/
def makeDirectoriesTo (files : FileSystem) (anchor : Anchor) :
    List String → Except FileFault Unit × FileSystem
  | [] =>
    match files.makeDirectoryIfNeeded ⟨anchor, []⟩ with
    | .ok extended => (.ok (), extended)
    | .error fault => (.error fault, files)
  | last :: before =>
    let path : Path := ⟨anchor, (last :: before).reverse⟩
    match files.makeDirectoryIfNeeded path with
    | .ok extended => (.ok (), extended)
    | .error .missing =>
      match files.makeDirectoriesTo anchor before with
      | (.error fault, extended) => (.error fault, extended)
      | (.ok (), extended) =>
        match extended.makeDirectoryIfNeeded path with
        | .ok complete => (.ok (), complete)
        | .error fault => (.error fault, extended)
    | .error fault => (.error fault, files)

/-- Makes a directory and all missing directories above it; one that is there is fine. -/
def makeDirectories (files : FileSystem) (path : Path) : Except FileFault Unit × FileSystem :=
  files.makeDirectoriesTo path.anchor path.steps.reverse

/-! ## Files -/

/-- Opens a file for writing: it is emptied, or made if it was missing.  Gives its location. -/
def openForWriting (files : FileSystem) (path : Path) :
    Except FileFault (Location × FileSystem) := do
  match ← files.placeOf path with
  | .directory _ => throw .isDirectory
  | .named parent name =>
    let location ← locationIn parent name
    match files.entryAt location with
    | some .directory => throw .isDirectory
    | _ => return (location, files.put location (.file ""))

/-- The characters after the first `count` bytes; a character that is cut is left out. -/
def dropBytes : Nat → List Char → List Char
  | 0, characters => characters
  | _ + 1, [] => []
  | count + 1, character :: rest => dropBytes (count + 1 - character.utf8Size) rest

/-- The text of a file after writing over its beginning. -/
def overwritten (old new : String) : String :=
  new ++ String.ofList (dropBytes new.utf8ByteSize old.toList)

/-- Writes a text over the beginning of the file at a location. -/
def writeAt (files : FileSystem) (location : Location) (text : String) : FileSystem :=
  match files.entryAt location with
  | some (.file old) => files.put location (.file (overwritten old text))
  | _ => files

/-- Removes a file. -/
def removeFile (files : FileSystem) (path : Path) : Except FileFault FileSystem := do
  match ← files.placeOf path with
  | .directory _ => throw .isDirectory
  | .named parent name =>
    let location ← locationIn parent name
    match files.entryAt location with
    | none => throw .missing
    | some .directory => throw .isDirectory
    | some (.file _) => return files.remove location

/-- Removes a file unless it is missing. -/
def removeFileIfPresent (files : FileSystem) (path : Path) : Except FileFault FileSystem :=
  match files.removeFile path with
  | .error .missing => .ok files
  | answer => answer

/-- Moves a file that holds a text to another location, where it replaces a file.  It does not
replace a directory, and a directory above the file is not empty. -/
def moveFile (files : FileSystem) (source target : Location) (text : String) :
    Except FileFault FileSystem :=
  if target.isPrefixOf source.dropLast then .error .notEmpty
  else if source = target then .ok files
  else match files.entryAt target with
    | some .directory => .error .isDirectory
    | _ => .ok ((files.remove source).put target (.file text))

/-- Renames a file.  A path that does not end with a name is busy, and directories are not
renamed. -/
def renameFile (files : FileSystem) (source target : Path) : Except FileFault FileSystem := do
  let sourcePlace ← files.placeOf source
  let targetPlace ← files.placeOf target
  match sourcePlace, targetPlace with
  | .named sourceParent sourceName, .named targetParent targetName =>
    let sourceLocation ← locationIn sourceParent sourceName
    match files.entryAt sourceLocation with
    | none => throw .missing
    | some .directory => throw .isDirectory
    | some (.file text) =>
      let targetLocation ← locationIn targetParent targetName
      files.moveFile sourceLocation targetLocation text
  | _, _ => throw .busy

/-! ## Listings -/

/-- The entries inside a directory, at any depth: the names on the way from the directory joined
by slashes, and the text of a file.  They are in the order of these written paths. -/
def listing (files : FileSystem) (directory : Location) : List (String × Option String) :=
  let inside := files.entries.entries.filterMap fun (location, entry) =>
    if directory.isPrefixOf location && directory.length < location.length then
      let path := String.intercalate "/" (location.drop directory.length)
      match entry with
      | .directory => some (path, none)
      | .file text => some (path, some text)
    else none
  inside.mergeSort fun first second => decide (first.1 ≤ second.1)

/-- Puts an entry at the end of steps from a directory, and directories on the way to it. -/
def plant (files : FileSystem) (directory : Location) (entry : Entry) :
    List String → FileSystem
  | [] => files
  | [step] => files.put (directory ++ [step]) entry
  | step :: rest =>
    let inside := directory ++ [step]
    (files.put inside .directory).plant inside entry rest

/-- Files with the given entries inside the working directory, under paths from there. -/
def populated (workingDirectory : Location) (entries : List (String × Entry)) : FileSystem :=
  let bare : FileSystem := ({} : FileSystem).plant [] .directory workingDirectory
  entries.foldl
    (fun files (path, entry) => files.plant workingDirectory entry (Path.ofText path).steps)
    { bare with workingDirectory := workingDirectory }

end MexBridge.FileSystem
