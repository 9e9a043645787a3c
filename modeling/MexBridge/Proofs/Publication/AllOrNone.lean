import MexBridge.Proofs.Publication.Course

/-!
# When publication is all or none

Publishing the files of a session is all or none (`Generated.AllOrNone`) if it succeeds with every
file in its place, or fails with a fault of the file system and leaves everything as it was, apart
from directories made on the way to the output directory.

This is not so for all files that may be there before.  A temporary that cannot be opened costs the
older files which had the names of earlier temporaries, and a place that is taken by a directory
leaves the files before it published and the temporaries of the others behind.
`Generated.Harmless` says that such an obstacle does no harm, because what is left or lost was there
or missing before, and `Generated.allOrNone_iff_harmless` that nothing else is needed.

`Generated.not_allOrNone_small` is a session with a directory in the place of its wrapper file.
-/

set_option autoImplicit false

namespace MexBridge

open FileSystem Publication

/-- The text of the file to which a path leads. -/
def FileSystem.textOf? (files : FileSystem) (path : Path) : Option String :=
  match files.placeOf path with
  | .ok (.named parent name) =>
    if nameLimit < name.utf8ByteSize then none
    else match files.entryAt (parent ++ [name]) with
      | some (.file text) => some text
      | _ => none
  | _ => none

/-- The first element of a list that fails a test, between those before it and those behind it. -/
structure FirstFailing {α : Type} (passes : α → Prop) (elements earlier : List α) (first : α)
    (later : List α) : Prop where
  parts : elements = earlier ++ first :: later
  passed : ∀ element ∈ earlier, passes element
  fails : ¬ passes first

theorem forall_or_firstFailing {α : Type} (passes : α → Prop) (elements : List α) :
    (∀ element ∈ elements, passes element) ∨
      ∃ (earlier : List α) (first : α) (later : List α),
        FirstFailing passes elements earlier first later := by
  induction elements with
  | nil => exact .inl nofun
  | cons element rest ih =>
    by_cases pass : passes element
    · rcases ih with all | ⟨earlier, first, later, parts, passed, fails⟩
      · exact .inl (List.forall_mem_cons.2 ⟨pass, all⟩)
      · exact .inr ⟨element :: earlier, first, later, by rw [parts, List.cons_append],
          List.forall_mem_cons.2 ⟨pass, passed⟩, fails⟩
    · exact .inr ⟨[], element, rest, rfl, nofun, pass⟩

namespace Generated

/-- No file name holds a slash or the null character. -/
def HasPlainNames (generated : Generated) : Prop :=
  ∀ output ∈ generated.files, '/' ∉ output.1.toList ∧ '\x00' ∉ output.1.toList

/-- Publishing succeeds, and every file has its text, or it fails with a fault of the file system,
and nothing has changed apart from directories made on the way. -/
def AllOrNone (generated : Generated) (files : FileSystem) (directory : Path) : Prop :=
  match generated.publish files directory with
  | ⟨.ok _, after, _⟩ =>
    ∀ output ∈ generated.files, after.textOf? (directory.child output.1) = some output.2
  | ⟨.error (.files fault), after, _⟩ =>
    fault ≠ .embeddedNull ∧ files.OnlyPrepares after directory
  | ⟨.error _, _, _⟩ => False

/-- The first temporary that cannot be opened comes behind temporaries whose names were free. -/
def OpeningHarmless (generated : Generated) (prepared : FileSystem) (directory : Path)
    (parent : Location) : Prop :=
  ∀ earlier output later,
    FirstFailing (fun other : String × String =>
        prepared.Admits directory parent (temporaryName other.1))
      generated.files earlier output later →
    ∀ other ∈ earlier, prepared.entryAt (parent ++ [temporaryName other.1]) = none

/-- The first place that is taken by a directory comes behind files that had their texts already,
with the names of their temporaries free; the temporaries from there on had their texts, too. -/
def RenamingHarmless (generated : Generated) (prepared : FileSystem) (parent : Location) : Prop :=
  ∀ earlier output later,
    FirstFailing (fun other : String × String =>
        prepared.entryAt (parent ++ [other.1]) ≠ some .directory)
      generated.files earlier output later →
    (∀ other ∈ earlier, prepared.entryAt (parent ++ [temporaryName other.1]) = none ∧
      prepared.entryAt (parent ++ [other.1]) = some (.file other.2)) ∧
    ∀ other ∈ output :: later,
      prepared.entryAt (parent ++ [temporaryName other.1]) = some (.file other.2)

/-- The files that are there before do no harm to publishing, with the output directory at hand. -/
structure Harmless (generated : Generated) (files : FileSystem) (directory : Path) : Prop where
  readable : '\x00' ∉ directory.render.toList
  opens : ∀ prepared, files.makeDirectories directory = (.ok (), prepared) →
    generated.OpeningHarmless prepared directory (files.destination directory)
  renames : ∀ prepared, files.makeDirectories directory = (.ok (), prepared) →
    (∀ output ∈ generated.files,
      prepared.Admits directory (files.destination directory) (temporaryName output.1)) →
    generated.RenamingHarmless prepared (files.destination directory)

end Generated

/-! ## What may change -/

variable {files prepared after : FileSystem} {directory : Path} {location parent : Location}

/-- Where nothing changed after the directories were made, nothing else changed at all. -/
theorem FileSystem.OnlyPrepares.congr (prepares : files.OnlyPrepares prepared directory)
    (sameDirectory : after.workingDirectory = prepared.workingDirectory)
    (same : ∀ location, after.entryAt location = prepared.entryAt location) :
    files.OnlyPrepares after directory where
  workingDirectory := sameDirectory.trans prepares.workingDirectory
  entry location := by
    rw [same]
    exact prepares.entry location

/-- What is no directory is as it was before the directories were made. -/
theorem FileSystem.OnlyPrepares.entryAt_eq (prepares : files.OnlyPrepares after directory)
    (noDirectory : after.entryAt location ≠ some .directory) :
    after.entryAt location = files.entryAt location := by
  rcases prepares.entry location with same | ⟨-, -, made⟩
  · exact same
  · exact absurd made noDirectory

theorem FileSystem.OnlyPrepares.entryAt_eq_prepared
    (whole : files.OnlyPrepares after directory)
    (prepares : files.OnlyPrepares prepared directory)
    (noDirectory : after.entryAt location ≠ some .directory)
    (preparedNoDirectory : prepared.entryAt location ≠ some .directory) :
    prepared.entryAt location = after.entryAt location :=
  (prepares.entryAt_eq preparedNoDirectory).trans (whole.entryAt_eq noDirectory).symm

theorem FileSystem.textOf?_child {name text : String} (reached : files.Reaches directory parent)
    (isName : Path.IsFileName name) (fits : Fits directory name)
    (present : files.entryAt (parent ++ [name]) = some (.file text)) :
    files.textOf? (directory.child name) = some text := by
  rw [textOf?, placeOf_child reached isName fits.path]
  simp only [present, if_neg (Nat.not_lt.2 fits.name)]

namespace Publication

/-- What is left is what was there if the published files and the pending temporaries were. -/
theorem Leaves.entryAt_eq {published pending : List (String × String)}
    (left : Leaves prepared after parent published pending)
    (had : ∀ output ∈ published,
      prepared.entryAt (parent ++ [temporaryName output.1]) = none ∧
        prepared.entryAt (parent ++ [output.1]) = some (.file output.2))
    (waited : ∀ output ∈ pending,
      prepared.entryAt (parent ++ [temporaryName output.1]) = some (.file output.2))
    (location : Location) : after.entryAt location = prepared.entryAt location := by
  by_cases temporary : ∃ output ∈ published ++ pending,
      location = parent ++ [temporaryName output.1]
  · obtain ⟨output, member, rfl⟩ := temporary
    rcases List.mem_append.1 member with isPublished | isPending
    · rw [left.gone output isPublished, (had output isPublished).1]
    · rw [left.waits output isPending, waited output isPending]
  · by_cases place : ∃ output ∈ published, location = parent ++ [output.1]
    · obtain ⟨output, member, rfl⟩ := place
      rw [left.holds output member, (had output member).2]
    · exact left.elsewhere location (fun output member same => temporary ⟨output, member, same⟩)
        fun output member same => place ⟨output, member, same⟩

/-- Withdrawing is as if nothing had been opened if the names of the temporaries were free. -/
theorem Withdraws.entryAt_eq {names : List String}
    (left : Withdraws prepared after parent names)
    (missing : ∀ name ∈ names, prepared.entryAt (parent ++ [temporaryName name]) = none)
    (location : Location) : after.entryAt location = prepared.entryAt location := by
  by_cases temporary : ∃ name ∈ names, location = parent ++ [temporaryName name]
  · obtain ⟨name, member, rfl⟩ := temporary
    rw [left.gone name member, missing name member]
  · exact left.elsewhere location fun name member same => temporary ⟨name, member, same⟩

end Publication

/-! ## The courses -/

namespace Generated

variable {generated : Generated} {events : List Event}

theorem allOrNone_of_ok {names : List String}
    (published : Publication.publish files directory (generated.files.map Prod.fst)
      (interrupted generated.files none) = ⟨.ok names, after, events⟩) :
    generated.AllOrNone files directory ↔
      ∀ output ∈ generated.files, after.textOf? (directory.child output.1) = some output.2 := by
  simp only [AllOrNone, publish, published, Except.map]

theorem allOrNone_of_error {fault : FileFault}
    (published : Publication.publish files directory (generated.files.map Prod.fst)
      (interrupted generated.files none) = ⟨.error (.files fault), after, events⟩) :
    generated.AllOrNone files directory ↔
      fault ≠ .embeddedNull ∧ files.OnlyPrepares after directory := by
  simp only [AllOrNone, publish, published, Except.map]

/-- Publishing that fails to make the directory is none, unless its path cannot be read. -/
theorem allOrNone_of_unprepared {fault : FileFault}
    (made : files.makeDirectories directory = (.error fault, prepared)) :
    generated.AllOrNone files directory ↔ '\x00' ∉ directory.render.toList := by
  have published : Publication.publish files directory (generated.files.map Prod.fst)
      (interrupted generated.files none) = ⟨.error (.files fault), prepared, []⟩ := by
    simp only [Publication.publish, made]
  rw [allOrNone_of_error published]
  constructor
  · rintro ⟨other, -⟩ null
    rw [makeDirectories_of_null null] at made
    cases made
    exact other rfl
  · intro readable
    have prepares := makeDirectories_onlyPrepares files directory
    have other := makeDirectories_ne_embeddedNull files readable
    rw [made] at prepares other
    exact ⟨fun same => other (by rw [same]), prepares⟩

section Prepared

variable (separate : Separate (generated.files.map Prod.fst))
  (made : files.makeDirectories directory = (.ok (), prepared))
  {earlier later : List (String × String)} {output : String × String}

include separate made

theorem allOrNone_of_refused
    (first : FirstFailing (fun other : String × String =>
      prepared.Admits directory (files.destination directory) (temporaryName other.1))
      generated.files earlier output later) :
    generated.AllOrNone files directory ↔ ∀ other ∈ earlier,
      prepared.entryAt (files.destination directory ++ [temporaryName other.1]) = none := by
  have prepares := makeDirectories_onlyPrepares files directory
  rw [made] at prepares
  have parts : generated.files.map Prod.fst =
      earlier.map Prod.fst ++ output.1 :: later.map Prod.fst := by
    rw [first.parts, List.map_append, List.map_cons]
  obtain ⟨fault, after, other, left, published⟩ :=
    publish_of_refused made (reaches_of_makeDirectories made) (parts ▸ separate.stageable)
      (List.forall_mem_map.2 first.passed) first.fails
  rw [← parts] at published
  rw [allOrNone_of_error (published _)]
  constructor
  · rintro ⟨-, whole⟩ other member
    have gone := left.gone other.1 (List.mem_map_of_mem member)
    rw [whole.entryAt_eq_prepared prepares (by rw [gone]; nofun)
      (first.passed other member).free, gone]
  · intro missing
    refine ⟨other, prepares.congr left.workingDirectory (left.entryAt_eq ?_)⟩
    exact List.forall_mem_map.2 missing

theorem allOrNone_of_blocked
    (admitted : ∀ output ∈ generated.files,
      prepared.Admits directory (files.destination directory) (temporaryName output.1))
    (first : FirstFailing (fun other : String × String =>
      prepared.entryAt (files.destination directory ++ [other.1]) ≠ some .directory)
      generated.files earlier output later) :
    generated.AllOrNone files directory ↔
      (∀ other ∈ earlier,
        prepared.entryAt (files.destination directory ++ [temporaryName other.1]) = none ∧
          prepared.entryAt (files.destination directory ++ [other.1]) = some (.file other.2)) ∧
      ∀ other ∈ output :: later,
        prepared.entryAt (files.destination directory ++ [temporaryName other.1]) =
          some (.file other.2) := by
  have prepares := makeDirectories_onlyPrepares files directory
  rw [made] at prepares
  have parts := first.parts
  rw [parts] at separate admitted
  obtain ⟨after, left, published⟩ := publish_of_blocked made (reaches_of_makeDirectories made)
    separate admitted first.passed (not_not.1 first.fails)
  rw [← parts] at published
  rw [allOrNone_of_error published]
  constructor
  · rintro ⟨-, whole⟩
    constructor
    · intro other member
      constructor
      · rw [whole.entryAt_eq_prepared prepares (by rw [left.gone other member]; nofun)
          (admitted other (List.mem_append_left _ member)).free, left.gone other member]
      · rw [whole.entryAt_eq_prepared prepares (by rw [left.holds other member]; nofun)
          (first.passed other member), left.holds other member]
    · intro other member
      rw [whole.entryAt_eq_prepared prepares (by rw [left.waits other member]; nofun)
        (admitted other (List.mem_append_right _ member)).free, left.waits other member]
  · rintro ⟨had, waited⟩
    exact ⟨nofun, prepares.congr left.workingDirectory (left.entryAt_eq had waited)⟩

theorem allOrNone_of_free
    (admitted : ∀ output ∈ generated.files,
      prepared.Admits directory (files.destination directory) (temporaryName output.1))
    (free : ∀ output ∈ generated.files,
      prepared.entryAt (files.destination directory ++ [output.1]) ≠ some .directory) :
    generated.AllOrNone files directory := by
  obtain ⟨after, reached, left, published⟩ :=
    publish_of_free made (reaches_of_makeDirectories made) separate admitted free
  apply (allOrNone_of_ok published).2
  intro output member
  have isName : Path.IsFileName output.1 :=
    separate.isFileName _ (List.mem_map_of_mem member)
  exact textOf?_child reached isName ((admitted output member).fits.of_le
    (isFileName_temporaryName isName) isName (utf8ByteSize_le_temporaryName output.1))
    (left.holds output member)

end Prepared

/-- **Publishing the files of a session is all or none exactly if what is there before does no
harm.**  This holds for all files that are there before and every output directory. -/
theorem allOrNone_iff_harmless {session : Session}
    (succeeded : session.runWritable.1 = .ok generated) (plain : generated.HasPlainNames)
    (files : FileSystem) (directory : Path) :
    generated.AllOrNone files directory ↔ generated.Harmless files directory := by
  have separate := Session.separate_files succeeded plain
  constructor
  · intro allOrNone
    refine ⟨?_, ?_, ?_⟩
    · intro null
      exact (allOrNone_of_unprepared (makeDirectories_of_null null)).1 allOrNone null
    · intro prepared made earlier output later first
      exact (allOrNone_of_refused separate made first).1 allOrNone
    · intro prepared made admitted earlier output later first
      exact (allOrNone_of_blocked separate made admitted first).1 allOrNone
  · intro harmless
    cases made : files.makeDirectories directory with
    | mk answer prepared =>
      cases answer with
      | error fault => exact (allOrNone_of_unprepared made).2 harmless.readable
      | ok _ =>
        rcases forall_or_firstFailing (fun other : String × String => prepared.Admits directory
          (files.destination directory) (temporaryName other.1)) generated.files with
          admitted | ⟨earlier, output, later, first⟩
        · rcases forall_or_firstFailing (fun other : String × String => prepared.entryAt
            (files.destination directory ++ [other.1]) ≠ some .directory) generated.files with
            free | ⟨earlier, output, later, first⟩
          · exact allOrNone_of_free separate made admitted free
          · exact (allOrNone_of_blocked separate made admitted first).2
              (harmless.renames prepared made admitted earlier output later first)
        · exact (allOrNone_of_refused separate made first).2
            (harmless.opens prepared made earlier output later first)

/-! ## A place that is taken -/

theorem files_small : ∃ proxy wrapper : String,
    (Session.small 0).assembled.files = [("Box.m", proxy), ("shop_wrapper.cpp", wrapper)] := by
  obtain ⟨proxy, listed⟩ : ∃ proxy, (Session.small 0).assembled.proxies = [("Box", proxy)] :=
    ⟨_, rfl⟩
  refine ⟨proxy.render, (Session.small 0).assembled.wrapper.render, ?_⟩
  rw [files, sortedProxies, listed, List.mergeSort_singleton]
  rfl

theorem hasPlainNames_small : (Session.small 0).assembled.HasPlainNames := by
  obtain ⟨proxy, wrapper, listed⟩ := files_small
  rw [HasPlainNames, listed]
  simp only [List.forall_mem_cons]
  exact ⟨by decide, by decide, nofun⟩

/-- An output directory with a directory in the place of a wrapper file. -/
def occupied : FileSystem where
  entries := .ofList [(["out"], .directory), (["out", "shop_wrapper.cpp"], .directory)]

theorem makeDirectories_occupied :
    occupied.makeDirectories ⟨.here, ["out"]⟩ = (.ok (), occupied) := by
  rfl

theorem allOrNone_small :
    (Session.small 0).runWritable.1 = .ok (Session.small 0).assembled ∧
      (Session.small 0).assembled.HasPlainNames ∧
        ((Session.small 0).assembled.AllOrNone occupied ⟨.here, ["out"]⟩ ↔
          (Session.small 0).assembled.Harmless occupied ⟨.here, ["out"]⟩) :=
  ⟨Session.runWritable_small, hasPlainNames_small,
    allOrNone_iff_harmless Session.runWritable_small hasPlainNames_small occupied
      ⟨.here, ["out"]⟩⟩

/-- **The proxy file of a session is published although its wrapper file cannot be**, when there is
a directory in the place of the wrapper file, and the temporary of the wrapper file is left. -/
theorem not_allOrNone_small :
    (Session.small 0).runWritable.1 = .ok (Session.small 0).assembled ∧
      (Session.small 0).assembled.HasPlainNames ∧
        ¬ (Session.small 0).assembled.AllOrNone occupied ⟨.here, ["out"]⟩ := by
  refine ⟨Session.runWritable_small, hasPlainNames_small, ?_⟩
  intro allOrNone
  obtain ⟨proxy, wrapper, listed⟩ := files_small
  have destination : occupied.destination ⟨.here, ["out"]⟩ = ["out"] := by decide
  have separate := Session.separate_files Session.runWritable_small hasPlainNames_small
  have admitted : ∀ output ∈ (Session.small 0).assembled.files,
      occupied.Admits ⟨.here, ["out"]⟩ (occupied.destination ⟨.here, ["out"]⟩)
        (temporaryName output.1) := by
    rw [listed, destination]
    simp only [List.forall_mem_cons]
    exact ⟨⟨⟨by decide, by decide⟩, by decide⟩, ⟨⟨by decide, by decide⟩, by decide⟩, nofun⟩
  have first : FirstFailing (fun other : String × String => occupied.entryAt
      (occupied.destination ⟨.here, ["out"]⟩ ++ [other.1]) ≠ some .directory)
      (Session.small 0).assembled.files [("Box.m", proxy)] ("shop_wrapper.cpp", wrapper) [] := by
    have taken : occupied.entryAt (["out"] ++ ["shop_wrapper.cpp"]) = some .directory := by
      decide
    rw [destination]
    refine ⟨listed, ?_, not_not.2 taken⟩
    simp only [List.forall_mem_cons]
    exact ⟨by decide, nofun⟩
  -- all or none would need a temporary with the text of the wrapper file to be there before
  have waited := ((allOrNone_of_blocked separate makeDirectories_occupied admitted first).1
    allOrNone).2 ("shop_wrapper.cpp", wrapper) List.mem_cons_self
  have absent : occupied.entryAt (["out"] ++ [temporaryName "shop_wrapper.cpp"]) = none := by
    decide
  rw [destination, absent] at waited
  cases waited

end Generated

end MexBridge
