import MexBridge.FileSystem.Basic
import MexBridge.Proofs.FileSystem.Walk

/-!
# Changes in a directory

`FileSystem.changeIn` changes entries of one directory, one after the other: to a name it gives an
entry, or takes away what is there.  If the names are distinct, each has at the end what it was
given, and nothing else has changed.  Changes that touch no directory keep all directories.
-/

set_option autoImplicit false

namespace MexBridge.FileSystem

/-- Gives a location an entry, or takes away what is there. -/
def changeAt (files : FileSystem) (location : Location) : Option Entry → FileSystem
  | some entry => files.put location entry
  | none => files.remove location

/-- Changes entries of a directory, from left to right. -/
def changeIn (files : FileSystem) (parent : Location)
    (changes : List (String × Option Entry)) : FileSystem :=
  changes.foldl (fun current change => current.changeAt (parent ++ [change.1]) change.2) files

variable {files : FileSystem} {parent location : Location} {name : String} {entry : Option Entry}
  {changes : List (String × Option Entry)}

theorem entryAt_changeAt (below : location ≠ []) (other : Location) (entry : Option Entry) :
    (files.changeAt location entry).entryAt other =
      if other = location then entry else files.entryAt other := by
  cases entry with
  | some entry => exact entryAt_put files below other entry
  | none => exact entryAt_remove files below other

theorem changeIn_cons (files : FileSystem) (parent : Location) (change : String × Option Entry)
    (rest : List (String × Option Entry)) :
    files.changeIn parent (change :: rest) =
      (files.changeAt (parent ++ [change.1]) change.2).changeIn parent rest := rfl

theorem changeIn_append (files : FileSystem) (parent : Location)
    (first second : List (String × Option Entry)) :
    files.changeIn parent (first ++ second) =
      (files.changeIn parent first).changeIn parent second :=
  List.foldl_append

theorem workingDirectory_changeIn (files : FileSystem) (parent : Location)
    (changes : List (String × Option Entry)) :
    (files.changeIn parent changes).workingDirectory = files.workingDirectory := by
  induction changes generalizing files with
  | nil => rfl
  | cons change rest ih =>
    rw [changeIn_cons, ih]
    cases change.2 <;> rfl

/-- Outside the changed names everything stays. -/
theorem entryAt_changeIn_of_ne (outside : ∀ change ∈ changes, location ≠ parent ++ [change.1]) :
    (files.changeIn parent changes).entryAt location = files.entryAt location := by
  induction changes generalizing files with
  | nil => rfl
  | cons change rest ih =>
    rw [changeIn_cons, ih fun later member => outside later (List.mem_cons_of_mem _ member),
      entryAt_changeAt (by simp), if_neg (outside change List.mem_cons_self)]

/-- Names of the directory that are not changed stay. -/
theorem entryAt_changeIn_of_not_mem (absent : name ∉ changes.map Prod.fst) :
    (files.changeIn parent changes).entryAt (parent ++ [name]) =
      files.entryAt (parent ++ [name]) := by
  refine entryAt_changeIn_of_ne fun change member same => absent ?_
  obtain rfl : name = change.1 := by simpa using same
  exact List.mem_map_of_mem member

/-- A changed name has what it was given. -/
theorem entryAt_changeIn_of_mem (distinct : (changes.map Prod.fst).Nodup)
    (member : (name, entry) ∈ changes) :
    (files.changeIn parent changes).entryAt (parent ++ [name]) = entry := by
  induction changes generalizing files with
  | nil => cases member
  | cons change rest ih =>
    rw [List.map_cons, List.nodup_cons] at distinct
    rw [changeIn_cons]
    rcases List.mem_cons.1 member with rfl | later
    · rw [entryAt_changeIn_of_not_mem distinct.1, entryAt_changeAt (by simp), if_pos rfl]
    · exact ih distinct.2 later

/-- Changes that touch no directory keep all directories. -/
theorem keepsDirectories_changeIn (parent : Location)
    (untouched : ∀ change ∈ changes, files.entryAt (parent ++ [change.1]) ≠ some .directory) :
    files.KeepsDirectories (files.changeIn parent changes) where
  workingDirectory := workingDirectory_changeIn files parent changes
  isDirectory location found := by
    rw [entryAt_changeIn_of_ne]
    · exact found
    · rintro change member rfl
      exact untouched change member found

end MexBridge.FileSystem
