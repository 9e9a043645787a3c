import MexBridge.Proofs.FileSystem.Changes
import MexBridge.Proofs.FileSystem.Directories

/-!
# Operations on the files of a directory

In a directory that a path reaches, a file name is admitted if the written path and the name are not
too long and no directory has the name.  Opening, removing and renaming admitted names are changes
in the directory; what is not admitted is refused, and never for its text.
-/

set_option autoImplicit false

namespace MexBridge.FileSystem

/-- The lengths of a name and of its written path in a directory are within the limits. -/
structure Fits (directory : Path) (name : String) : Prop where
  path : (directory.child name).render.utf8ByteSize ≤ pathLimit
  name : name.utf8ByteSize ≤ nameLimit

/-- A name can be a file of a directory, of which both the path and the location are given. -/
structure Admits (files : FileSystem) (directory : Path) (parent : Location) (name : String) :
    Prop where
  fits : Fits directory name
  free : files.entryAt (parent ++ [name]) ≠ some .directory

variable {files : FileSystem} {directory : Path} {parent : Location} {name source target : String}
  {text : String}

/-- A name that is not longer than one that fits, fits as well. -/
theorem Fits.of_le (fits : Fits directory source) (sourceName : Path.IsFileName source)
    (targetName : Path.IsFileName target) (shorter : target.utf8ByteSize ≤ source.utf8ByteSize) :
    Fits directory target := by
  obtain ⟨front, size⟩ := Path.exists_utf8ByteSize_render directory
  refine ⟨?_, Nat.le_trans shorter fits.name⟩
  have long := fits.path
  rw [Path.child_eq sourceName, size] at long
  rw [Path.child_eq targetName, size]
  omega

theorem readable_child (reached : files.Reaches directory parent) (isName : Path.IsFileName name) :
    '\x00' ∉ (directory.child name).render.toList := by
  rw [Path.child_eq isName]
  intro null
  obtain ⟨step, member, inside⟩ := Path.null_mem_render_iff.1 null
  rcases List.mem_append.1 member with above | last
  · exact reached.readable (Path.null_mem_render_iff.2 ⟨step, above, inside⟩)
  · rw [List.mem_singleton.1 last] at inside
    exact isName.nullFree inside

theorem placeOf_child (reached : files.Reaches directory parent) (isName : Path.IsFileName name)
    (short : (directory.child name).render.utf8ByteSize ≤ pathLimit) :
    files.placeOf (directory.child name) = .ok (.named parent name) := by
  refine placeOf_eq_ok_iff.2 ⟨readable_child reached isName, short, ?_⟩
  have walked : files.followAll (files.origin (directory.child name)) directory.steps =
      .ok parent := by
    rw [Path.child_eq isName]
    exact reached.walked
  have steps : (directory.child name).steps = directory.steps ++ [name] := by
    rw [Path.child_eq isName]
  rw [steps, placeFrom_append, walked, Except.map, lastPlace, if_neg isName.forward]

theorem placeOf_child_of_long (reached : files.Reaches directory parent)
    (isName : Path.IsFileName name)
    (long : pathLimit < (directory.child name).render.utf8ByteSize) :
    files.placeOf (directory.child name) = .error .nameTooLong := by
  have readable := readable_child reached isName
  rw [placeOf, if_neg (by simpa using readable), if_pos long]

theorem locationIn_of_fits (fits : Fits directory name) (parent : Location) :
    locationIn parent name = .ok (parent ++ [name]) :=
  if_neg (Nat.not_lt.2 fits.name)

/-! ## Admitted names -/

/-- Opening an admitted name empties its file. -/
theorem openForWriting_child (reached : files.Reaches directory parent)
    (isName : Path.IsFileName name) (admitted : files.Admits directory parent name) :
    files.openForWriting (directory.child name) =
      .ok (parent ++ [name], files.changeIn parent [(name, some (.file ""))]) := by
  rw [openForWriting, placeOf_child reached isName admitted.fits.path]
  simp only [Bind.bind, Except.bind, locationIn_of_fits admitted.fits]
  split
  · next found => exact absurd found admitted.free
  · rfl

/-- Removing a file takes its entry away. -/
theorem removeFileIfPresent_child (reached : files.Reaches directory parent)
    (isName : Path.IsFileName name) (fits : Fits directory name)
    (present : files.entryAt (parent ++ [name]) = some (.file text)) :
    files.removeFileIfPresent (directory.child name) =
      .ok (files.changeIn parent [(name, none)]) := by
  have removed : files.removeFile (directory.child name) =
      .ok (files.changeIn parent [(name, none)]) := by
    rw [removeFile, placeOf_child reached isName fits.path]
    simp only [Bind.bind, Except.bind, locationIn_of_fits fits, present]
    rfl
  rw [removeFileIfPresent, removed]

/-- Renaming a file within a directory is settled by what has the new name. -/
theorem renameFile_child (reached : files.Reaches directory parent)
    (sourceName : Path.IsFileName source) (targetName : Path.IsFileName target)
    (sourceFits : Fits directory source) (targetFits : Fits directory target)
    (different : source ≠ target)
    (present : files.entryAt (parent ++ [source]) = some (.file text)) :
    files.renameFile (directory.child source) (directory.child target) =
      if files.entryAt (parent ++ [target]) = some .directory then .error .isDirectory
      else .ok (files.changeIn parent [(source, none), (target, some (.file text))]) := by
  have apart : (parent ++ [target]).isPrefixOf (parent ++ [source]).dropLast = false := by
    rw [List.dropLast_concat, ← Bool.not_eq_true, List.isPrefixOf_iff_prefix]
    intro initial
    have longer := initial.length_le
    rw [List.length_append, List.length_singleton] at longer
    omega
  have moved : files.renameFile (directory.child source) (directory.child target) =
      files.moveFile (parent ++ [source]) (parent ++ [target]) text := by
    rw [renameFile, placeOf_child reached sourceName sourceFits.path,
      placeOf_child reached targetName targetFits.path]
    simp only [Bind.bind, Except.bind, locationIn_of_fits sourceFits,
      locationIn_of_fits targetFits, present]
  rw [moved, moveFile, apart, if_neg Bool.false_ne_true, if_neg (by simpa using different)]
  cases found : files.entryAt (parent ++ [target]) with
  | none => rfl
  | some entry =>
    cases entry with
    | directory => rw [if_pos rfl]
    | file old => rfl

/-! ## Names that are not admitted -/

/-- What stands in the way of a name that is not admitted. -/
theorem not_admits_cases (reached : files.Reaches directory parent)
    (isName : Path.IsFileName name) (refused : ¬ files.Admits directory parent name) :
    files.placeOf (directory.child name) = .error .nameTooLong ∨
      files.placeOf (directory.child name) = .ok (.named parent name) ∧
        (locationIn parent name = .error .nameTooLong ∨
          locationIn parent name = .ok (parent ++ [name]) ∧
            files.entryAt (parent ++ [name]) = some .directory) := by
  by_cases long : pathLimit < (directory.child name).render.utf8ByteSize
  · exact .inl (placeOf_child_of_long reached isName long)
  · refine .inr ⟨placeOf_child reached isName (Nat.not_lt.1 long), ?_⟩
    by_cases longName : nameLimit < name.utf8ByteSize
    · exact .inl (if_pos longName)
    · refine .inr ⟨if_neg longName, ?_⟩
      by_cases taken : files.entryAt (parent ++ [name]) = some .directory
      · exact taken
      · exact absurd ⟨⟨Nat.not_lt.1 long, Nat.not_lt.1 longName⟩, taken⟩ refused

theorem openForWriting_child_of_not_admits (reached : files.Reaches directory parent)
    (isName : Path.IsFileName name) (refused : ¬ files.Admits directory parent name) :
    ∃ fault, fault ≠ .embeddedNull ∧
      files.openForWriting (directory.child name) = .error fault := by
  rcases not_admits_cases reached isName refused with long | ⟨found, longName | ⟨short, taken⟩⟩
  · exact ⟨.nameTooLong, nofun, by rw [openForWriting, long]; rfl⟩
  · refine ⟨.nameTooLong, nofun, ?_⟩
    rw [openForWriting, found]
    simp only [Bind.bind, Except.bind, longName]
  · refine ⟨.isDirectory, nofun, ?_⟩
    rw [openForWriting, found]
    simp only [Bind.bind, Except.bind, short, taken]
    rfl

theorem removeFileIfPresent_child_of_not_admits (reached : files.Reaches directory parent)
    (isName : Path.IsFileName name) (refused : ¬ files.Admits directory parent name) :
    ∃ fault, fault ≠ .embeddedNull ∧
      files.removeFileIfPresent (directory.child name) = .error fault := by
  rcases not_admits_cases reached isName refused with long | ⟨found, longName | ⟨short, taken⟩⟩
  · exact ⟨.nameTooLong, nofun, by rw [removeFileIfPresent, removeFile, long]; rfl⟩
  · refine ⟨.nameTooLong, nofun, ?_⟩
    rw [removeFileIfPresent, removeFile, found]
    simp only [Bind.bind, Except.bind, longName]
  · refine ⟨.isDirectory, nofun, ?_⟩
    rw [removeFileIfPresent, removeFile, found]
    simp only [Bind.bind, Except.bind, short, taken]
    rfl

end MexBridge.FileSystem
