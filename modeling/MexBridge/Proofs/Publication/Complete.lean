import MexBridge.Proofs.Name.LeadingWord
import MexBridge.Proofs.Publication.AllOrNone

/-!
# Complete publications

If nothing is in the way, publishing the files of a session writes exactly these files.  A directory
can be in the way of a file or of its temporary, and a name or a written path can be too long
(`Generated.Unobstructed`).  What is left then is all files with their texts, no temporary, and
everything else as before (`Generated.Complete`).

A directory can get in the way while the output directory is made, because a path may lead through
a name and back.  So the files are looked at when the output directory is there.
`Session.publish_small_beyond` is a session whose output directory lies beyond a directory with the
name of its proxy file.
-/

set_option autoImplicit false

namespace MexBridge

open FileSystem Publication

namespace Generated

variable {generated : Generated} {files prepared after : FileSystem} {directory : Path}
  {parent : Location}

/-- The paths of the files in a directory, in the order of the files. -/
def paths (generated : Generated) (directory : Path) : List Path :=
  generated.files.map fun output => directory.child output.1

/-- All files fit into a directory, and no other directory is in the way of a file or of its
temporary. -/
structure Unobstructed (generated : Generated) (prepared : FileSystem) (directory : Path)
    (parent : Location) : Prop where
  temporaries : ∀ output ∈ generated.files,
    prepared.Admits directory parent (temporaryName output.1)
  places : ∀ output ∈ generated.files, prepared.entryAt (parent ++ [output.1]) ≠ some .directory

/-- What a complete publication leaves: the output directory with all files and no temporary, and
everything else as before, apart from directories made on the way. -/
structure Complete (generated : Generated) (files after : FileSystem) (directory : Path) :
    Prop where
  reached : after.Reaches directory (files.destination directory)
  holds : ∀ output ∈ generated.files,
    after.textOf? (directory.child output.1) = some output.2
  gone : ∀ output ∈ generated.files,
    after.entryAt (files.destination directory ++ [temporaryName output.1]) = none
  elsewhere : ∀ location,
    (∀ output ∈ generated.files,
      location ≠ files.destination directory ++ [output.1] ∧
        location ≠ files.destination directory ++ [temporaryName output.1]) →
    after.entryAt location = files.entryAt location ∨
      files.OnTheWay directory location ∧ files.entryAt location = none ∧
        after.entryAt location = some .directory

/-! ## Temporaries and files -/

/-- The path of no temporary is the path of a file, whatever the names are. -/
theorem temporary_ne_child {first second : String × String}
    (secondMember : second ∈ generated.files) (directory : Path) :
    temporary directory first.1 ≠ directory.child second.1 := by
  intro same
  have step := congrArg (fun path : Path => path.steps.getLast?) same
  obtain ⟨front, own⟩ := Path.exists_getLast?_steps_child directory
    (by decide : '/' ∉ ".tmp".toList) rfl (by decide) ("." ++ first.1)
  simp only [temporary, temporaryName, own] at step
  obtain ⟨stem, proxy | wrapper⟩ := exists_ending (List.mem_map_of_mem secondMember)
  · obtain ⟨other, last⟩ := Path.exists_getLast?_steps_child directory
      (by decide : '/' ∉ ".m".toList) rfl (by decide) stem
    rw [proxy, last] at step
    have lasts := congrArg (fun text : String => text.toList.getLast?) (Option.some.inj step)
    simp only [Text.getLast?_append (rfl : ".tmp".toList.getLast? = some 'p'),
      Text.getLast?_append (rfl : ".m".toList.getLast? = some 'm')] at lasts
    exact absurd lasts (by decide)
  · obtain ⟨other, last⟩ := Path.exists_getLast?_steps_child directory
      (by decide : '/' ∉ ".cpp".toList) rfl (by decide) stem
    rw [wrapper, last] at step
    exact absurd (Text.ending_eq (Option.some.inj step) rfl) (by decide)

/-- The paths of all files and all temporaries are distinct. -/
theorem nodup_paths (separate : Separate (generated.files.map Prod.fst)) (directory : Path) :
    (generated.paths directory ++
      generated.files.map fun output => temporary directory output.1).Nodup := by
  have names : generated.paths directory = (generated.files.map Prod.fst).map directory.child := by
    rw [paths, List.map_map]
    rfl
  have temporaries : (generated.files.map fun output => temporary directory output.1) =
      ((generated.files.map Prod.fst).map temporaryName).map directory.child := by
    rw [List.map_map, List.map_map]
    rfl
  rw [List.nodup_append]
  refine ⟨?_, ?_, ?_⟩
  · rw [names]
    refine separate.distinct.map_on fun first firstMember second secondMember same => ?_
    exact Path.child_inj (separate.isFileName first firstMember)
      (separate.isFileName second secondMember) same
  · rw [temporaries]
    refine separate.stageable.temporaries_distinct.map_on
      fun first firstMember second secondMember same => ?_
    obtain ⟨firstName, isFirst, rfl⟩ := List.mem_map.1 firstMember
    obtain ⟨secondName, isSecond, rfl⟩ := List.mem_map.1 secondMember
    exact Path.child_inj (separate.stageable.isFileName firstName isFirst)
      (separate.stageable.isFileName secondName isSecond) same
  · intro path isPath other isTemporary same
    obtain ⟨file, isFile, rfl⟩ := List.mem_map.1 isPath
    obtain ⟨output, isOutput, rfl⟩ := List.mem_map.1 isTemporary
    exact temporary_ne_child isFile directory same.symm

/-! ## What is left -/

/-- Where nothing is in the way, everything is published, and nothing else is changed. -/
theorem complete_of_unobstructed (separate : Separate (generated.files.map Prod.fst))
    (made : files.makeDirectories directory = (.ok (), prepared))
    (unobstructed : generated.Unobstructed prepared directory (files.destination directory)) :
    ∃ after, generated.publish files directory = ⟨.ok (generated.paths directory), after, []⟩ ∧
      generated.Complete files after directory := by
  obtain ⟨after, reached, left, published⟩ := publish_of_free made
    (reaches_of_makeDirectories made) separate unobstructed.temporaries unobstructed.places
  have prepares := makeDirectories_onlyPrepares files directory
  rw [made] at prepares
  refine ⟨after, ?_, reached, ?_, left.gone, ?_⟩
  · rw [publish, published, paths, Except.map, List.map_map]
    rfl
  · intro output member
    have isName : Path.IsFileName output.1 := separate.isFileName _ (List.mem_map_of_mem member)
    have fits := (unobstructed.temporaries output member).fits
    exact textOf?_child reached isName (fits.of_le (isFileName_temporaryName isName) isName
      (utf8ByteSize_le_temporaryName output.1)) (left.holds output member)
  · intro location others
    rw [left.elsewhere location]
    · exact prepares.entry location
    · intro output member
      rw [List.append_nil] at member
      exact (others output member).2
    · intro output member
      exact (others output member).1

end Generated

namespace Session

variable {session : Session} {settings : Settings} {generated : Generated}

/-- The files of a session have plain names if the MATLAB names of its classes are plain. -/
theorem hasPlainNames (accepted : settings.resolve = .ok session.config)
    (succeeded : session.runWritable.1 = .ok generated)
    (plain : ∀ naming ∈ session.snapshot.classes,
      '/' ∉ naming.matlabName.toList ∧ '\x00' ∉ naming.matlabName.toList) :
    generated.HasPlainNames := by
  obtain ⟨-, -, rfl⟩ := eq_assembled_of_run (run_of_runWritable succeeded)
  intro output member
  have named : output.1 ∈ session.assembled.files.map Prod.fst := List.mem_map_of_mem member
  rw [Generated.map_fst_files] at named
  rcases List.mem_append.1 named with proxy | wrapper
  · obtain ⟨name, isName, same⟩ := List.mem_map.1 proxy
    have listed : name ∈ session.assembled.proxies.map Prod.fst :=
      ((List.mergeSort_perm _ _).map Prod.fst).subset isName
    rw [map_fst_proxies] at listed
    obtain ⟨naming, isClass, rfl⟩ := List.mem_map.1 listed
    obtain ⟨slashFree, nullFree⟩ := plain naming isClass
    rw [← same, String.toList_append, List.mem_append, List.mem_append, not_or, not_or]
    exact ⟨⟨slashFree, by decide⟩, nullFree, by decide⟩
  · have absent : ∀ character, Name.isContinuing character = false → character ≠ '\n' →
        character ∉ session.config.wrapperName.toList := by
      intro character stops other member
      rcases Settings.isContinuing_or_lineEnd_wrapperName accepted member with continues | lineEnd
      · rw [stops] at continues
        cases continues
      · exact other lineEnd
    rw [List.mem_singleton.1 wrapper, String.toList_append, List.mem_append, List.mem_append,
      not_or, not_or]
    exact ⟨⟨absent '/' (by decide) (by decide), by decide⟩,
      absent '\x00' (by decide) (by decide), by decide⟩

/-- The names of the classes, in their order, give the names of the files. -/
theorem exists_sorted_names (succeeded : session.runWritable.1 = .ok generated) :
    ∃ names : List String,
      names.Perm (session.snapshot.classes.map ClassNaming.matlabName) ∧
        names.Pairwise (· ≤ ·) ∧
          generated.files.map Prod.fst =
            names.map (· ++ ".m") ++ [session.config.wrapperName ++ ".cpp"] := by
  obtain ⟨-, -, rfl⟩ := eq_assembled_of_run (run_of_runWritable succeeded)
  refine ⟨session.assembled.sortedProxies.map Prod.fst, ?_, ?_, Generated.map_fst_files _⟩
  · rw [← map_fst_proxies]
    exact (List.mergeSort_perm _ _).map Prod.fst
  · have sorted : session.assembled.sortedProxies.Pairwise
        fun first second => decide (first.1 ≤ second.1) = true := by
      refine List.pairwise_mergeSort ?_ ?_ _
      · intro first second third lower upper
        exact decide_eq_true (String.le_trans (of_decide_eq_true lower) (of_decide_eq_true upper))
      · intro first second
        rw [Bool.or_eq_true, decide_eq_true_eq, decide_eq_true_eq]
        exact String.le_total _ _
    rw [List.pairwise_map]
    exact sorted.imp of_decide_eq_true

/-- **Publishing a session writes exactly its files.**  No temporary ever has the path of a file, or
the name of another temporary.  If the MATLAB names of the classes are plain, the files are those of
the classes in the order of their names and then the wrapper, under distinct paths, and where
nothing is in the way each has its text afterwards, and nothing else has changed. -/
theorem publish_complete (generated : Generated) (directory : Path) :
    (∀ first ∈ generated.files, ∀ second ∈ generated.files,
      temporary directory first.1 ≠ directory.child second.1 ∧
        (temporaryName first.1 = temporaryName second.1 → first.1 = second.1)) ∧
    ∀ (session : Session) (settings : Settings), settings.resolve = .ok session.config →
      session.runWritable.1 = .ok generated →
      (∀ naming ∈ session.snapshot.classes,
        '/' ∉ naming.matlabName.toList ∧ '\x00' ∉ naming.matlabName.toList) →
      (∃ names : List String,
        names.Perm (session.snapshot.classes.map ClassNaming.matlabName) ∧
          names.Pairwise (· ≤ ·) ∧
          generated.paths directory =
            (names.map (· ++ ".m") ++ [session.config.wrapperName ++ ".cpp"]).map
              directory.child) ∧
      (generated.paths directory).length = session.snapshot.classes.length + 1 ∧
      (generated.paths directory ++
        generated.files.map fun output => temporary directory output.1).Nodup ∧
      ∀ files prepared : FileSystem, files.makeDirectories directory = (.ok (), prepared) →
        generated.Unobstructed prepared directory (files.destination directory) →
        ∃ after,
          generated.publish files directory = ⟨.ok (generated.paths directory), after, []⟩ ∧
            generated.Complete files after directory := by
  refine ⟨fun first _ second member =>
    ⟨Generated.temporary_ne_child member directory, temporaryName_inj⟩, ?_⟩
  intro session settings accepted succeeded plain
  have separate := separate_files succeeded (hasPlainNames accepted succeeded plain)
  obtain ⟨names, perm, sorted, listed⟩ := exists_sorted_names succeeded
  have listing : generated.paths directory =
      (names.map (· ++ ".m") ++ [session.config.wrapperName ++ ".cpp"]).map directory.child := by
    rw [← listed, Generated.paths, List.map_map]
    rfl
  refine ⟨⟨names, perm, sorted, listing⟩, ?_, Generated.nodup_paths separate directory, ?_⟩
  · rw [listing, List.length_map, List.length_append, List.length_map, perm.length_eq,
      List.length_map, List.length_singleton]
  · intro files prepared made unobstructed
    exact Generated.complete_of_unobstructed separate made unobstructed

/-! ## A small session -/

theorem unobstructed_small :
    (small 0).assembled.Unobstructed { entries := .ofList [(["out"], .directory)] }
      ⟨.here, ["out"]⟩ ["out"] := by
  obtain ⟨proxy, wrapper, listed⟩ := Generated.files_small
  refine ⟨?_, ?_⟩
  · rw [listed]
    simp only [List.forall_mem_cons]
    exact ⟨⟨⟨by decide, by decide⟩, by decide⟩, ⟨⟨by decide, by decide⟩, by decide⟩, nofun⟩
  · rw [listed]
    simp only [List.forall_mem_cons]
    exact ⟨by decide, by decide, nofun⟩

theorem plain_small : ∀ naming ∈ (small 0).snapshot.classes,
    '/' ∉ naming.matlabName.toList ∧ '\x00' ∉ naming.matlabName.toList := by
  decide

/-- The small session is published where there was nothing. -/
theorem publish_complete_small :
    ∃ after, (small 0).assembled.publish {} ⟨.here, ["out"]⟩ =
        ⟨.ok ((small 0).assembled.paths ⟨.here, ["out"]⟩), after, []⟩ ∧
      (small 0).assembled.Complete {} after ⟨.here, ["out"]⟩ :=
  ((publish_complete (small 0).assembled ⟨.here, ["out"]⟩).2 (small 0) { moduleName := "shop" }
    (resolve_small 0) runWritable_small plain_small).2.2.2 {} _ rfl unobstructed_small

/-- Where an output directory is made beyond the place of the proxy file. -/
def beyond : Path := ⟨.here, ["out", "Box.m", ".."]⟩

/-- **The small session is not published beyond the place of its proxy file**, although nothing is
there before, and nothing is too long. -/
theorem publish_small_beyond :
    Settings.resolve { moduleName := "shop" } = .ok (small 0).config ∧
      (small 0).runWritable.1 = .ok (small 0).assembled ∧
      (∀ naming ∈ (small 0).snapshot.classes,
        '/' ∉ naming.matlabName.toList ∧ '\x00' ∉ naming.matlabName.toList) ∧
      (∃ prepared, ({} : FileSystem).makeDirectories beyond = (.ok (), prepared)) ∧
      (small 0).assembled.Unobstructed {} beyond (({} : FileSystem).destination beyond) ∧
      ((small 0).assembled.publish {} beyond).answer = .error (.files .isDirectory) := by
  obtain ⟨proxy, wrapper, listed⟩ := Generated.files_small
  have destination : ({} : FileSystem).destination beyond = ["out"] := by decide
  have separate := separate_files runWritable_small Generated.hasPlainNames_small
  let prepared : FileSystem :=
    { entries := .ofList [(["out"], .directory), (["out", "Box.m"], .directory)] }
  have made : ({} : FileSystem).makeDirectories beyond = (.ok (), prepared) := by rfl
  have admitted : ∀ output ∈ [("Box.m", proxy), ("shop_wrapper.cpp", wrapper)],
      prepared.Admits beyond ["out"] (temporaryName output.1) := by
    simp only [List.forall_mem_cons]
    exact ⟨⟨⟨by decide, by decide⟩, by decide⟩, ⟨⟨by decide, by decide⟩, by decide⟩, nofun⟩
  have reached := reaches_of_makeDirectories made
  rw [listed] at separate
  rw [destination] at reached
  have taken : prepared.entryAt (["out"] ++ ["Box.m"]) = some .directory := by decide
  have free : ∀ other ∈ ([] : List (String × String)),
      prepared.entryAt (["out"] ++ [other.1]) ≠ some .directory := nofun
  obtain ⟨after, -, stopped⟩ := publish_of_blocked made reached separate admitted free taken
  refine ⟨resolve_small 0, runWritable_small, plain_small, ⟨_, made⟩, ⟨?_, ?_⟩, ?_⟩
  · rw [listed, destination]
    simp only [List.forall_mem_cons]
    exact ⟨⟨⟨by decide, by decide⟩, by decide⟩, ⟨⟨by decide, by decide⟩, by decide⟩, nofun⟩
  · rw [listed, destination]
    simp only [List.forall_mem_cons]
    exact ⟨by decide, by decide, nofun⟩
  · rw [Generated.publish, listed]
    simp only [List.nil_append] at stopped
    rw [stopped]
    rfl

end Session

end MexBridge
