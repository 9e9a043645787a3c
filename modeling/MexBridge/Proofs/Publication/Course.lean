import MexBridge.Proofs.Publication.Stages
import MexBridge.Proofs.Registry.Log

/-!
# The course of a publication

Once the directory is there, a publication takes one of three courses.

* If some temporary is not admitted, the publication gives up there, and what it opened before is
  removed (`publish_of_refused`).
* If all temporaries are admitted and no place is taken by a directory, every file is published
  (`publish_of_free`).
* Otherwise renaming stops at the first place that is taken by a directory.  The files before it are
  published, and the other temporaries remain (`publish_of_blocked`).

`Leaves` says what is left in the last two courses, and `Withdraws` what is left in the first one.
-/

set_option autoImplicit false

namespace MexBridge.Publication

open FileSystem

/-- What a publication leaves: published files have their texts and their temporaries are gone,
pending files still have their temporaries, and nothing else has changed. -/
structure Leaves (prepared after : FileSystem) (parent : Location)
    (published pending : List (String × String)) : Prop where
  workingDirectory : after.workingDirectory = prepared.workingDirectory
  gone : ∀ output ∈ published, after.entryAt (parent ++ [temporaryName output.1]) = none
  holds : ∀ output ∈ published, after.entryAt (parent ++ [output.1]) = some (.file output.2)
  waits : ∀ output ∈ pending,
    after.entryAt (parent ++ [temporaryName output.1]) = some (.file output.2)
  elsewhere : ∀ location,
    (∀ output ∈ published ++ pending, location ≠ parent ++ [temporaryName output.1]) →
      (∀ output ∈ published, location ≠ parent ++ [output.1]) →
        after.entryAt location = prepared.entryAt location

/-- What a publication leaves that gives up: the temporaries it opened are gone, and nothing else
has changed. -/
structure Withdraws (prepared after : FileSystem) (parent : Location) (names : List String) :
    Prop where
  workingDirectory : after.workingDirectory = prepared.workingDirectory
  gone : ∀ name ∈ names, after.entryAt (parent ++ [temporaryName name]) = none
  elsewhere : ∀ location, (∀ name ∈ names, location ≠ parent ++ [temporaryName name]) →
    after.entryAt location = prepared.entryAt location

variable {prepared current after : FileSystem} {directory : Path} {parent : Location}
  {outputs published pending earlier later : List (String × String)} {output : String × String}

theorem Leaves.other_name (left : Leaves prepared current parent [] outputs) {name : String}
    (notTemporary : ∀ output ∈ outputs, temporaryName output.1 ≠ name) :
    current.entryAt (parent ++ [name]) = prepared.entryAt (parent ++ [name]) := by
  apply left.elsewhere _ _ nofun
  intro output member same
  exact notTemporary output member (by simpa using same.symm)

/-- Closing what was opened empty and then written leaves the texts pending. -/
theorem leaves_close {written : OrderedMap String OpenFile}
    (entries : written.entries = openEntries parent outputs)
    (reached : prepared.Reaches directory parent)
    (stageable : Stageable (outputs.map Prod.fst))
    (admitted : ∀ name ∈ outputs.map Prod.fst,
      prepared.Admits directory parent (temporaryName name)) :
    (close (prepared.changeIn parent (filled (blank (outputs.map Prod.fst)))) written).Reaches
        directory parent ∧
      Leaves prepared
        (close (prepared.changeIn parent (filled (blank (outputs.map Prod.fst)))) written) parent []
        outputs := by
  let emptied := prepared.changeIn parent (filled (blank (outputs.map Prod.fst)))
  have empty : ∀ output ∈ outputs,
      emptied.entryAt (parent ++ [temporaryName output.1]) = some (.file "") :=
    fun output member => entryAt_blank prepared parent stageable (List.mem_map_of_mem member)
  have emptiedReached : emptied.Reaches directory parent :=
    reaches_blank reached fun name member => (admitted name member).free
  rw [close_filled entries stageable empty]
  constructor
  · apply reaches_filled emptiedReached
    intro output member
    rw [empty output member]
    nofun
  · refine ⟨?_, nofun, nofun, ?_, ?_⟩
    · rw [workingDirectory_changeIn, workingDirectory_changeIn]
    · intro output member
      exact entryAt_filled _ _ stageable member
    · intro location others _
      rw [List.nil_append] at others
      exact (entryAt_filled_of_ne others).trans
        (entryAt_blank_of_ne (List.forall_mem_map.2 others))

/-- Admitted temporaries are opened, written and closed. -/
theorem completes (reached : prepared.Reaches directory parent)
    (separate : Separate (outputs.map Prod.fst))
    (admitted : ∀ output ∈ outputs,
      prepared.Admits directory parent (temporaryName output.1)) :
    ∃ (opened written : OrderedMap String OpenFile) (emptied : FileSystem),
      openAll directory prepared .empty (outputs.map Prod.fst) = (.ok (), opened, emptied) ∧
        act opened (interrupted outputs none) = (.ok (), written) ∧
          (close emptied written).Reaches directory parent ∧
            Leaves prepared (close emptied written) parent [] outputs := by
  have admittedNames : ∀ name ∈ outputs.map Prod.fst,
      prepared.Admits directory parent (temporaryName name) :=
    List.forall_mem_map.2 admitted
  obtain ⟨opened, openShape, openedAll⟩ := openAll_append reached separate.stageable admittedNames
    .empty (fun _ _ => List.not_mem_nil) []
  rw [List.append_nil] at openedAll
  obtain ⟨written, writtenShape, acted⟩ := act_writes [] outputs separate.distinct opened openShape
  exact ⟨opened, written, _, openedAll, acted,
    leaves_close writtenShape reached separate.stageable admittedNames⟩

/-- When temporaries have taken their places, these files are published and the others pending. -/
theorem Leaves.places (completed : Leaves prepared current parent [] (published ++ pending))
    (separate : Separate ((published ++ pending).map Prod.fst)) :
    Leaves prepared (current.changeIn parent (placed published)) parent published pending where
  workingDirectory := by
    rw [workingDirectory_changeIn, completed.workingDirectory]
  gone output member :=
    entryAt_changeIn_of_mem (nodup_placed separate.left) (mem_placed member).1
  holds output member :=
    entryAt_changeIn_of_mem (nodup_placed separate.left) (mem_placed member).2
  waits output member := by
    have here : output ∈ published ++ pending := List.mem_append_right _ member
    rw [entryAt_placed_of_ne]
    · exact completed.waits output here
    · intro other otherMember same
      refine separate.ne_of_append otherMember member (temporaryName_inj ?_)
      simpa using same.symm
    · intro other otherMember same
      refine separate.apart _ (List.mem_map_of_mem here) _
        (List.mem_map_of_mem (List.mem_append_left _ otherMember)) ?_
      simpa using same
  elsewhere location notTemporary notPlace := by
    rw [entryAt_placed_of_ne
      (fun output member => notTemporary output (List.mem_append_left _ member)) notPlace]
    exact completed.elsewhere location notTemporary nofun

/-- Renaming publishes the files in front of the first place that is taken by a directory. -/
theorem renames (reached : current.Reaches directory parent)
    (separate : Separate ((published ++ pending).map Prod.fst))
    (fits : ∀ output ∈ published ++ pending, Fits directory (temporaryName output.1))
    (completed : Leaves prepared current parent [] (published ++ pending))
    (free : ∀ output ∈ published,
      prepared.entryAt (parent ++ [output.1]) ≠ some .directory) :
    ∃ after : FileSystem, after.Reaches directory parent ∧
      Leaves prepared after parent published pending ∧
        renameAll directory current ((published ++ pending).map Prod.fst) =
          renameAll directory after (pending.map Prod.fst) := by
  have isName : ∀ {output : String × String}, output ∈ published ++ pending →
      output.1 ∈ (published ++ pending).map Prod.fst := List.mem_map_of_mem
  have complete : ∀ output ∈ published,
      current.entryAt (parent ++ [temporaryName output.1]) = some (.file output.2) := by
    intro output member
    exact completed.waits output (List.mem_append_left _ member)
  have stillFree : ∀ output ∈ published,
      current.entryAt (parent ++ [output.1]) ≠ some .directory := by
    intro output member
    rw [completed.other_name fun other otherMember =>
      separate.apart _ (isName otherMember) _ (isName (List.mem_append_left _ member))]
    exact free output member
  refine ⟨current.changeIn parent (placed published), ?_, completed.places separate, ?_⟩
  · apply reaches_placed reached _ stillFree
    intro output member
    rw [complete output member]
    nofun
  · rw [List.map_append]
    exact renameAll_append reached separate.left
      (fun output member => fits output (List.mem_append_left _ member)) complete stillFree _

/-! ## Giving up -/

section GivingUp

variable {earlier later : List String} {name : String}

/-- The temporaries in front of a refused one are opened, and closed without a text. -/
theorem opens_until_refused (reached : prepared.Reaches directory parent)
    (stageable : Stageable (earlier ++ name :: later))
    (admitted : ∀ other ∈ earlier, prepared.Admits directory parent (temporaryName other))
    (refused : ¬ prepared.Admits directory parent (temporaryName name)) :
    ∃ (reason : FileFault) (opened : OrderedMap String OpenFile) (emptied : FileSystem),
      openAll directory prepared .empty (earlier ++ name :: later) =
          (.error reason, opened, emptied) ∧
        (close emptied opened).Reaches directory parent ∧
          Leaves prepared (close emptied opened) parent [] (blank earlier) := by
  have earlierStageable : Stageable earlier := stageable.of_sublist (List.sublist_append_left _ _)
  obtain ⟨opened, shape, openedEarlier⟩ := openAll_append reached earlierStageable admitted
    .empty (fun _ _ => List.not_mem_nil) (name :: later)
  have emptiedReached : (prepared.changeIn parent (filled (blank earlier))).Reaches directory
      parent := reaches_blank reached fun other member => (admitted other member).free
  have notFilled : temporaryName name ∉ (filled (blank earlier)).map Prod.fst := by
    rw [map_fst_filled, map_fst_blank]
    exact stageable.temporary_not_mem
  obtain ⟨reason, -, unopened⟩ := openForWriting_child_of_not_admits emptiedReached
    (stageable.isFileName name (List.mem_append_right _ List.mem_cons_self))
    (mt (admits_changeIn_iff notFilled).1 refused)
  have closed := leaves_close shape reached (by rwa [map_fst_blank]) (by rwa [map_fst_blank])
  rw [map_fst_blank] at closed
  refine ⟨reason, opened, _, ?_, closed⟩
  rw [openedEarlier, openAll_cons, unopened]

/-- Pending temporaries are removed, and removing goes on behind them. -/
theorem withdraws (reached : current.Reaches directory parent)
    (stageable : Stageable (outputs.map Prod.fst))
    (fits : ∀ name ∈ outputs.map Prod.fst, Fits directory (temporaryName name))
    (left : Leaves prepared current parent [] outputs) (later : List String) :
    ∃ remaining : FileSystem, remaining.Reaches directory parent ∧
      Withdraws prepared remaining parent (outputs.map Prod.fst) ∧
        discardAll directory current (outputs.map Prod.fst ++ later) =
          discardAll directory remaining later := by
  have present : ∀ name ∈ outputs.map Prod.fst, ∃ text,
      current.entryAt (parent ++ [temporaryName name]) = some (.file text) :=
    List.forall_mem_map.2 fun output member => ⟨output.2, left.waits output member⟩
  refine ⟨_, ?_, ⟨?_, ?_, ?_⟩, discardAll_append reached stageable fits present later⟩
  · refine reached.changeIn (List.forall_mem_map.2 fun name member => ?_)
    obtain ⟨text, found⟩ := present name member
    rw [found]
    nofun
  · rw [workingDirectory_changeIn, left.workingDirectory]
  · intro name member
    exact entryAt_changeIn_of_mem (nodup_withdrawn stageable) (List.mem_map_of_mem member)
  · intro location others
    rw [entryAt_withdrawn_of_ne others]
    exact left.elsewhere location
      (fun output member => others output.1 (List.mem_map_of_mem member)) nofun

/-- The temporaries that were opened are removed, up to the refused one, which is refused again. -/
theorem discards_until_refused (reached : current.Reaches directory parent)
    (stageable : Stageable (earlier ++ name :: later))
    (fits : ∀ other ∈ earlier, Fits directory (temporaryName other))
    (blanked : Leaves prepared current parent [] (blank earlier))
    (refused : ¬ prepared.Admits directory parent (temporaryName name)) :
    ∃ (fault : FileFault) (after : FileSystem), fault ≠ .embeddedNull ∧
      Withdraws prepared after parent earlier ∧
        discardAll directory current (earlier ++ name :: later) = (.error fault, after) := by
  have earlierStageable : Stageable earlier := stageable.of_sublist (List.sublist_append_left _ _)
  obtain ⟨after, stillReached, left, discarded⟩ := withdraws reached
    (by rwa [map_fst_blank]) (by rwa [map_fst_blank]) blanked (name :: later)
  rw [map_fst_blank] at left discarded
  have other : after.entryAt (parent ++ [temporaryName name]) =
      prepared.entryAt (parent ++ [temporaryName name]) := by
    refine left.elsewhere _ fun earlierName member same => stageable.temporary_not_mem ?_
    have hidden : temporaryName name = temporaryName earlierName := by simpa using same
    rw [hidden]
    exact List.mem_map_of_mem member
  obtain ⟨fault, readable, unremoved⟩ := removeFileIfPresent_child_of_not_admits stillReached
    (stageable.isFileName name (List.mem_append_right _ List.mem_cons_self))
    fun admits => refused ⟨admits.fits, other ▸ admits.free⟩
  refine ⟨fault, after, readable, left, ?_⟩
  rw [discarded, discardAll_cons, unremoved]

end GivingUp

/-! ## The three courses -/

section Courses

variable {files : FileSystem}

/-- **Where nothing is in the way every file is published.** -/
theorem publish_of_free (made : files.makeDirectories directory = (.ok (), prepared))
    (reached : prepared.Reaches directory parent) (separate : Separate (outputs.map Prod.fst))
    (admitted : ∀ output ∈ outputs,
      prepared.Admits directory parent (temporaryName output.1))
    (free : ∀ output ∈ outputs, prepared.entryAt (parent ++ [output.1]) ≠ some .directory) :
    ∃ after : FileSystem, after.Reaches directory parent ∧
      Leaves prepared after parent outputs [] ∧
        publish files directory (outputs.map Prod.fst) (interrupted outputs none) =
          ⟨.ok (outputs.map Prod.fst), after, []⟩ := by
  obtain ⟨opened, written, emptied, openedAll, acted, stillReached, completed⟩ :=
    completes reached separate admitted
  obtain ⟨after, afterReached, left, renamed⟩ := renames stillReached
    (by rwa [List.append_nil]) (by rw [List.append_nil]; exact fun output member =>
      (admitted output member).fits) (by rwa [List.append_nil]) free
  rw [List.append_nil] at renamed
  refine ⟨after, afterReached, left, ?_⟩
  simp only [publish, made, eraseDups_of_nodup separate.distinct, openedAll, acted, renamed]
  rfl

/-- **A place that is taken by a directory stops the renaming.**  The files before it are published,
and the other temporaries remain. -/
theorem publish_of_blocked
    (made : files.makeDirectories directory = (.ok (), prepared))
    (reached : prepared.Reaches directory parent)
    (separate : Separate ((earlier ++ output :: later).map Prod.fst))
    (admitted : ∀ other ∈ earlier ++ output :: later,
      prepared.Admits directory parent (temporaryName other.1))
    (free : ∀ other ∈ earlier, prepared.entryAt (parent ++ [other.1]) ≠ some .directory)
    (taken : prepared.entryAt (parent ++ [output.1]) = some .directory) :
    ∃ after : FileSystem, Leaves prepared after parent earlier (output :: later) ∧
      publish files directory ((earlier ++ output :: later).map Prod.fst)
          (interrupted (earlier ++ output :: later) none) =
        ⟨.error (.files .isDirectory), after, []⟩ := by
  obtain ⟨opened, written, emptied, openedAll, acted, stillReached, completed⟩ :=
    completes reached separate admitted
  obtain ⟨after, afterReached, left, renamed⟩ := renames stillReached separate
    (fun other member => (admitted other member).fits) completed free
  have isOutput : output ∈ earlier ++ output :: later :=
    List.mem_append_right _ List.mem_cons_self
  have isName : Path.IsFileName output.1 :=
    separate.isFileName _ (List.mem_map_of_mem isOutput)
  have fits : Fits directory (temporaryName output.1) := (admitted output isOutput).fits
  have kept : after.entryAt (parent ++ [output.1]) = some .directory := by
    rw [left.elsewhere]
    · exact taken
    · intro other member same
      refine separate.apart _ (List.mem_map_of_mem member) _ (List.mem_map_of_mem isOutput) ?_
      simpa using same.symm
    · intro other member same
      refine separate.ne_of_append member List.mem_cons_self ?_
      simpa using same.symm
  have stopped : renameAll directory after ((output :: later).map Prod.fst) =
      (.error .isDirectory, after) := by
    have refused := renameFile_child afterReached (isFileName_temporaryName isName) isName fits
      (fits.of_le (isFileName_temporaryName isName) isName
        (utf8ByteSize_le_temporaryName output.1))
      (separate.apart _ (List.mem_map_of_mem isOutput) _ (List.mem_map_of_mem isOutput))
      (left.waits output List.mem_cons_self)
    rw [if_pos kept] at refused
    rw [List.map_cons, renameAll_cons, refused]
  refine ⟨after, left, ?_⟩
  simp only [publish, made, eraseDups_of_nodup separate.distinct, openedAll, acted, renamed,
    stopped]

/-- **A temporary that is not admitted stops the opening.**  What was opened before is removed; the
fault is met again while doing so, and nothing behind it is touched.  The holder of the files never
comes to act. -/
theorem publish_of_refused {earlier later : List String} {name : String}
    (made : files.makeDirectories directory = (.ok (), prepared))
    (reached : prepared.Reaches directory parent)
    (stageable : Stageable (earlier ++ name :: later))
    (admitted : ∀ other ∈ earlier, prepared.Admits directory parent (temporaryName other))
    (refused : ¬ prepared.Admits directory parent (temporaryName name)) :
    ∃ (fault : FileFault) (after : FileSystem), fault ≠ .embeddedNull ∧
      Withdraws prepared after parent earlier ∧
        ∀ actions, publish files directory (earlier ++ name :: later) actions =
          ⟨.error (.files fault), after, []⟩ := by
  obtain ⟨reason, opened, emptied, openedAll, closedReached, blanked⟩ :=
    opens_until_refused reached stageable admitted refused
  obtain ⟨fault, after, readable, withdraws, discarded⟩ := discards_until_refused closedReached
    stageable (fun other member => (admitted other member).fits) blanked refused
  refine ⟨fault, after, readable, withdraws, fun actions => ?_⟩
  simp only [publish, made, eraseDups_of_nodup stageable.distinct, openedAll, giveUp, discarded]

end Courses

end MexBridge.Publication
