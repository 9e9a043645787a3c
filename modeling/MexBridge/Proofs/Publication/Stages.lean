import MexBridge.Proofs.FileSystem.Children
import MexBridge.Proofs.Publication.Names

/-!
# The stages of a publication

Each stage goes through the names in order, and does to a stretch of names without obstacles what
its list of changes says: the temporaries are opened empty, closed with their texts, and then they
take the places of the files, or are withdrawn.  The stages are followed over a first part of the
names, with any names behind it, since they stop at the first obstacle.

The directory is reached at every stage, as no change of a stage touches a directory.
-/

set_option autoImplicit false

namespace MexBridge

open FileSystem

variable {files : FileSystem} {directory : Path} {parent : Location}

/-- What is not changed is admitted as before. -/
theorem FileSystem.admits_changeIn_iff {name : String} {changes : List (String × Option Entry)}
    (untouched : name ∉ changes.map Prod.fst) :
    (files.changeIn parent changes).Admits directory parent name ↔
      files.Admits directory parent name := by
  have same : (files.changeIn parent changes).entryAt (parent ++ [name]) =
      files.entryAt (parent ++ [name]) := entryAt_changeIn_of_not_mem untouched
  exact ⟨fun admitted => ⟨admitted.fits, same ▸ admitted.free⟩,
    fun admitted => ⟨admitted.fits, same.symm ▸ admitted.free⟩⟩

theorem FileSystem.Reaches.changeIn (reached : files.Reaches directory parent)
    {changes : List (String × Option Entry)}
    (untouched : ∀ change ∈ changes, files.entryAt (parent ++ [change.1]) ≠ some .directory) :
    (files.changeIn parent changes).Reaches directory parent :=
  reached.mono (keepsDirectories_changeIn parent untouched)

namespace Publication

/-- The temporaries hold texts. -/
def filled (outputs : List (String × String)) : List (String × Option Entry) :=
  outputs.map fun output => (temporaryName output.1, some (.file output.2))

/-- The temporaries have taken the places of the files. -/
def placed : List (String × String) → List (String × Option Entry)
  | [] => []
  | output :: rest =>
    (temporaryName output.1, none) :: (output.1, some (.file output.2)) :: placed rest

/-- The temporaries are gone. -/
def withdrawn (names : List String) : List (String × Option Entry) :=
  names.map fun name => (temporaryName name, none)

/-- The names with empty texts. -/
def blank (names : List String) : List (String × String) :=
  names.map fun name => (name, "")

/-- The entries of the map of open files. -/
def openEntries (parent : Location) (outputs : List (String × String)) :
    List (String × OpenFile) :=
  outputs.map fun output =>
    (output.1, { location := parent ++ [temporaryName output.1], text := output.2 })

variable {name : String} {names later : List String} {outputs : List (String × String)}

theorem map_fst_filled (outputs : List (String × String)) :
    (filled outputs).map Prod.fst = (outputs.map Prod.fst).map temporaryName := by
  rw [filled, List.map_map, List.map_map]
  rfl

theorem map_fst_withdrawn (names : List String) :
    (withdrawn names).map Prod.fst = names.map temporaryName := by
  rw [withdrawn, List.map_map]
  rfl

theorem map_fst_blank (names : List String) : (blank names).map Prod.fst = names := by
  rw [blank, List.map_map]
  exact List.map_id names

theorem map_fst_openEntries (parent : Location) (outputs : List (String × String)) :
    (openEntries parent outputs).map Prod.fst = outputs.map Prod.fst := by
  rw [openEntries, List.map_map]
  rfl

theorem mem_map_fst_placed :
    name ∈ (placed outputs).map Prod.fst ↔
      name ∈ (outputs.map Prod.fst).map temporaryName ∨ name ∈ outputs.map Prod.fst := by
  induction outputs with
  | nil => simp [placed]
  | cons output rest ih =>
    simp only [placed, List.map_cons, List.mem_cons, ih]
    tauto

theorem mem_filled {output : String × String} (member : output ∈ outputs) :
    (temporaryName output.1, some (.file output.2)) ∈ filled outputs :=
  List.mem_map_of_mem member

theorem mem_placed {output : String × String} (member : output ∈ outputs) :
    (temporaryName output.1, none) ∈ placed outputs ∧
      (output.1, some (.file output.2)) ∈ placed outputs := by
  induction outputs with
  | nil => cases member
  | cons first rest ih =>
    rcases List.mem_cons.1 member with rfl | later
    · simp [placed]
    · exact ⟨List.mem_cons_of_mem _ (List.mem_cons_of_mem _ (ih later).1),
        List.mem_cons_of_mem _ (List.mem_cons_of_mem _ (ih later).2)⟩

theorem nodup_filled (stageable : Stageable (outputs.map Prod.fst)) :
    ((filled outputs).map Prod.fst).Nodup := by
  rw [map_fst_filled]
  exact stageable.temporaries_distinct

theorem nodup_withdrawn (stageable : Stageable names) :
    ((withdrawn names).map Prod.fst).Nodup := by
  rw [map_fst_withdrawn]
  exact stageable.temporaries_distinct

theorem nodup_placed (separate : Separate (outputs.map Prod.fst)) :
    ((placed outputs).map Prod.fst).Nodup := by
  induction outputs with
  | nil => exact List.nodup_nil
  | cons output rest ih =>
    obtain ⟨notAgain, -⟩ := List.nodup_cons.1 separate.distinct
    have later := ih (separate.of_sublist (List.sublist_cons_self _ _))
    have own : output.1 ∈ (output :: rest).map Prod.fst := List.mem_cons_self
    have isLater : ∀ {name : String}, name ∈ rest.map Prod.fst →
        name ∈ (output :: rest).map Prod.fst := List.mem_cons_of_mem _
    rw [placed, List.map_cons, List.map_cons, List.nodup_cons, List.nodup_cons, List.mem_cons,
      not_or, mem_map_fst_placed, mem_map_fst_placed, not_or, not_or]
    refine ⟨⟨separate.apart _ own _ own, fun temporary => ?_, fun name => ?_⟩,
      ⟨fun temporary => ?_, notAgain⟩, later⟩
    · obtain ⟨other, member, same⟩ := List.mem_map.1 temporary
      exact notAgain (temporaryName_inj same ▸ member)
    · exact separate.apart _ own _ (isLater name) rfl
    · obtain ⟨other, member, same⟩ := List.mem_map.1 temporary
      exact separate.apart other (isLater member) _ own same

/-- A filled temporary has its text. -/
theorem entryAt_filled (files : FileSystem) (parent : Location)
    (stageable : Stageable (outputs.map Prod.fst)) {output : String × String}
    (member : output ∈ outputs) :
    (files.changeIn parent (filled outputs)).entryAt (parent ++ [temporaryName output.1]) =
      some (.file output.2) :=
  entryAt_changeIn_of_mem (nodup_filled stageable) (mem_filled member)

theorem reaches_filled (reached : files.Reaches directory parent)
    (free : ∀ output ∈ outputs,
      files.entryAt (parent ++ [temporaryName output.1]) ≠ some .directory) :
    (files.changeIn parent (filled outputs)).Reaches directory parent := by
  apply reached.changeIn
  intro change member
  obtain ⟨output, isOutput, rfl⟩ := List.mem_map.1 member
  exact free output isOutput

theorem entryAt_blank (files : FileSystem) (parent : Location) (stageable : Stageable names)
    (member : name ∈ names) :
    (files.changeIn parent (filled (blank names))).entryAt (parent ++ [temporaryName name]) =
      some (.file "") :=
  entryAt_filled files parent ((map_fst_blank names).symm ▸ stageable)
    (List.mem_map_of_mem member : (name, "") ∈ blank names)

theorem reaches_blank (reached : files.Reaches directory parent)
    (free : ∀ name ∈ names,
      files.entryAt (parent ++ [temporaryName name]) ≠ some .directory) :
    (files.changeIn parent (filled (blank names))).Reaches directory parent := by
  apply reaches_filled reached
  intro output member
  obtain ⟨name, isName, rfl⟩ := List.mem_map.1 member
  exact free name isName

/-- What is not the location of a temporary is not filled. -/
theorem entryAt_filled_of_ne {location : Location}
    (others : ∀ output ∈ outputs, location ≠ parent ++ [temporaryName output.1]) :
    (files.changeIn parent (filled outputs)).entryAt location = files.entryAt location := by
  apply entryAt_changeIn_of_ne
  intro change member
  obtain ⟨output, isOutput, rfl⟩ := List.mem_map.1 member
  exact others output isOutput

theorem entryAt_blank_of_ne {location : Location}
    (others : ∀ name ∈ names, location ≠ parent ++ [temporaryName name]) :
    (files.changeIn parent (filled (blank names))).entryAt location = files.entryAt location := by
  apply entryAt_filled_of_ne
  intro output member
  obtain ⟨name, isName, rfl⟩ := List.mem_map.1 member
  exact others name isName

theorem reaches_placed (reached : files.Reaches directory parent)
    (temporaries : ∀ output ∈ outputs,
      files.entryAt (parent ++ [temporaryName output.1]) ≠ some .directory)
    (places : ∀ output ∈ outputs, files.entryAt (parent ++ [output.1]) ≠ some .directory) :
    (files.changeIn parent (placed outputs)).Reaches directory parent := by
  apply reached.changeIn
  intro change member
  rcases mem_map_fst_placed.1 (List.mem_map_of_mem member) with temporary | name
  · obtain ⟨name, nameMember, same⟩ := List.mem_map.1 temporary
    obtain ⟨output, isOutput, rfl⟩ := List.mem_map.1 nameMember
    rw [← same]
    exact temporaries output isOutput
  · obtain ⟨output, isOutput, same⟩ := List.mem_map.1 name
    rw [← same]
    exact places output isOutput

/-- What is neither a temporary nor a place stays. -/
theorem entryAt_placed_of_ne {location : Location}
    (notTemporary : ∀ output ∈ outputs, location ≠ parent ++ [temporaryName output.1])
    (notPlace : ∀ output ∈ outputs, location ≠ parent ++ [output.1]) :
    (files.changeIn parent (placed outputs)).entryAt location = files.entryAt location := by
  apply entryAt_changeIn_of_ne
  intro change member
  rcases mem_map_fst_placed.1 (List.mem_map_of_mem member) with temporary | name
  · obtain ⟨name, nameMember, same⟩ := List.mem_map.1 temporary
    obtain ⟨output, isOutput, rfl⟩ := List.mem_map.1 nameMember
    rw [← same]
    exact notTemporary output isOutput
  · obtain ⟨output, isOutput, same⟩ := List.mem_map.1 name
    rw [← same]
    exact notPlace output isOutput

theorem entryAt_withdrawn_of_ne {location : Location}
    (others : ∀ name ∈ names, location ≠ parent ++ [temporaryName name]) :
    (files.changeIn parent (withdrawn names)).entryAt location = files.entryAt location := by
  apply entryAt_changeIn_of_ne
  intro change member
  obtain ⟨name, isName, rfl⟩ := List.mem_map.1 member
  exact others name isName

/-! ## One name

How a stage goes on behind its first name; these hold by computation. -/

theorem openAll_cons (directory : Path) (files : FileSystem)
    (opened : OrderedMap String OpenFile) (name : String) (later : List String) :
    openAll directory files opened (name :: later) =
      match files.openForWriting (directory.child (temporaryName name)) with
      | .error fault => (.error fault, opened, files)
      | .ok (location, extended) =>
        openAll directory extended (opened.insert name { location := location }) later := by
  rfl

theorem renameAll_cons (directory : Path) (files : FileSystem) (name : String)
    (later : List String) :
    renameAll directory files (name :: later) =
      match files.renameFile (directory.child (temporaryName name)) (directory.child name) with
      | .error fault => (.error fault, files)
      | .ok renamed => renameAll directory renamed later := by
  rfl

theorem discardAll_cons (directory : Path) (files : FileSystem) (name : String)
    (later : List String) :
    discardAll directory files (name :: later) =
      match files.removeFileIfPresent (directory.child (temporaryName name)) with
      | .error fault => (.error fault, files)
      | .ok remaining => discardAll directory remaining later := by
  rfl

/-! ## Opening -/

/-- Names that are admitted are opened, empty, and opening goes on behind them. -/
theorem openAll_append (reached : files.Reaches directory parent) (stageable : Stageable names)
    (admitted : ∀ name ∈ names, files.Admits directory parent (temporaryName name))
    (opened : OrderedMap String OpenFile) (fresh : ∀ name ∈ names, name ∉ opened.keys)
    (later : List String) :
    ∃ extended : OrderedMap String OpenFile,
      extended.entries = opened.entries ++ openEntries parent (blank names) ∧
        openAll directory files opened (names ++ later) =
          openAll directory (files.changeIn parent (filled (blank names))) extended later := by
  induction names generalizing files opened with
  | nil => exact ⟨opened, (List.append_nil _).symm, rfl⟩
  | cons name rest ih =>
    obtain ⟨notAgain, distinct⟩ := List.nodup_cons.1 stageable.distinct
    have here : files.Admits directory parent (temporaryName name) :=
      admitted name List.mem_cons_self
    let file : OpenFile := { location := parent ++ [temporaryName name] }
    let emptied := files.changeIn parent [(temporaryName name, some (.file ""))]
    have stillReached : emptied.Reaches directory parent :=
      reached.changeIn (by simpa using here.free)
    have stillAdmitted : ∀ other ∈ rest,
        emptied.Admits directory parent (temporaryName other) := by
      intro other member
      refine (admits_changeIn_iff fun same => ?_).2 (admitted other (List.mem_cons_of_mem _ member))
      rw [List.map_singleton, List.mem_singleton] at same
      exact notAgain (temporaryName_inj same ▸ member)
    have entries : (opened.insert name file).entries = opened.entries ++ [(name, file)] := by
      have appended := OrderedMap.insertEntry_append_of_not_mem
        (fresh name List.mem_cons_self) file []
      rwa [List.append_nil] at appended
    have stillFresh : ∀ other ∈ rest, other ∉ (opened.insert name file).keys := by
      intro other member
      rw [OrderedMap.keys, entries, List.map_append, List.mem_append, not_or]
      refine ⟨fresh other (List.mem_cons_of_mem _ member), fun isName => ?_⟩
      obtain rfl : other = name := by simpa using isName
      exact notAgain member
    obtain ⟨extended, shape, onward⟩ := ih stillReached
      (stageable.of_sublist (List.sublist_cons_self name rest)) stillAdmitted
      (opened.insert name file) stillFresh
    refine ⟨extended, ?_, ?_⟩
    · rw [shape, entries, List.append_assoc]
      rfl
    · rw [List.cons_append, openAll_cons, openForWriting_child reached
        (stageable.isFileName name List.mem_cons_self) here]
      exact onward

/-! ## Writing -/

/-- A write appends to the text of its name, and nothing else is written. -/
theorem act_write {before after : List (String × String)} {text : String}
    (absent : name ∉ before.map Prod.fst) {opened : OrderedMap String OpenFile}
    (entries : opened.entries = openEntries parent (before ++ (name, text) :: after))
    (more : String) (rest : List WriterAction) :
    ∃ written : OrderedMap String OpenFile,
      written.entries = openEntries parent (before ++ (name, text ++ more) :: after) ∧
        act opened (.write name more :: rest) = act written rest := by
  let file : OpenFile := { location := parent ++ [temporaryName name], text := text }
  let longer : OpenFile := { location := parent ++ [temporaryName name], text := text ++ more }
  have split : opened.entries =
      openEntries parent before ++ (name, file) :: openEntries parent after := by
    rw [entries, openEntries, List.map_append]
    rfl
  have notBefore : name ∉ (openEntries parent before).map Prod.fst := by
    rwa [map_fst_openEntries]
  have found : opened.get? name = some file := by
    have unread : (openEntries parent before).lookup name = none := by
      apply List.lookup_eq_none_iff.2
      intro entry member
      have other : name ≠ entry.1 := fun same =>
        notBefore (List.mem_map.2 ⟨entry, member, same.symm⟩)
      simpa using other
    rw [OrderedMap.get?, split, List.lookup_append, unread, Option.none_or,
      OrderedMap.lookup_cons_entry, if_pos rfl]
  refine ⟨opened.insert name longer, ?_, ?_⟩
  · have inserted := OrderedMap.insertEntry_append_of_not_mem notBefore longer
      ((name, file) :: openEntries parent after)
    rw [← split, OrderedMap.insertEntry, if_pos rfl] at inserted
    rw [openEntries, List.map_append]
    exact inserted
  · rw [act, found]

/-- Writing every text once completes the texts of the open files. -/
theorem act_writes (done todo : List (String × String))
    (distinct : ((done ++ todo).map Prod.fst).Nodup) (opened : OrderedMap String OpenFile)
    (entries : opened.entries = openEntries parent (done ++ blank (todo.map Prod.fst))) :
    ∃ written : OrderedMap String OpenFile,
      written.entries = openEntries parent (done ++ todo) ∧
        act opened (todo.map fun output => .write output.1 output.2) = (.ok (), written) := by
  induction todo generalizing done opened with
  | nil => exact ⟨opened, entries, rfl⟩
  | cons output rest ih =>
    obtain ⟨name, text⟩ := output
    have absent : name ∉ done.map Prod.fst := by
      rw [List.map_append, List.map_cons] at distinct
      exact fun member => (List.nodup_append.1 distinct).2.2 name member name
        List.mem_cons_self rfl
    have appended : done ++ [(name, text)] ++ rest = done ++ (name, text) :: rest := by
      rw [List.append_assoc, List.singleton_append]
    obtain ⟨further, shape, wrote⟩ := act_write absent entries text
      (rest.map fun output => .write output.1 output.2)
    rw [String.empty_append] at shape
    obtain ⟨written, complete, acted⟩ :=
      ih (done ++ [(name, text)]) (by rwa [appended]) further
        (by rw [shape, List.append_assoc]; rfl)
    exact ⟨written, by rw [complete, appended], wrote.trans acted⟩

/-! ## Closing -/

theorem overwritten_empty (text : String) : overwritten "" text = text := by
  have nothing : ∀ count, dropBytes count [] = [] := by
    intro count
    cases count <;> rfl
  rw [overwritten, String.toList_empty, nothing]
  exact String.append_empty

/-- Closing brings the texts to the temporaries. -/
theorem close_filled {opened : OrderedMap String OpenFile}
    (entries : opened.entries = openEntries parent outputs)
    (stageable : Stageable (outputs.map Prod.fst))
    (empty : ∀ output ∈ outputs,
      files.entryAt (parent ++ [temporaryName output.1]) = some (.file "")) :
    close files opened = files.changeIn parent (filled outputs) := by
  rw [close, OrderedMap.values, entries]
  clear entries
  induction outputs generalizing files with
  | nil => rfl
  | cons output rest ih =>
    obtain ⟨notAgain, -⟩ := List.nodup_cons.1 stageable.distinct
    have written : files.writeAt (parent ++ [temporaryName output.1]) output.2 =
        files.changeAt (parent ++ [temporaryName output.1]) (some (.file output.2)) := by
      rw [writeAt, empty output List.mem_cons_self]
      simp only [overwritten_empty]
      rfl
    rw [filled, List.map_cons, changeIn_cons, ← written]
    apply ih (stageable.of_sublist (List.sublist_cons_self _ _))
    intro other member
    have different : parent ++ [temporaryName other.1] ≠ parent ++ [temporaryName output.1] := by
      intro same
      refine notAgain (List.mem_map.2 ⟨other, member, temporaryName_inj ?_⟩)
      simpa using same
    show (files.writeAt (parent ++ [temporaryName output.1]) output.2).entryAt _ = _
    rw [written, entryAt_changeAt (by simp), if_neg different]
    exact empty other (List.mem_cons_of_mem _ member)

/-! ## Renaming -/

/-- Temporaries whose places are not taken by directories take these places, and renaming goes on
behind them. -/
theorem renameAll_append (reached : files.Reaches directory parent)
    (separate : Separate (outputs.map Prod.fst))
    (fits : ∀ output ∈ outputs, Fits directory (temporaryName output.1))
    (complete : ∀ output ∈ outputs,
      files.entryAt (parent ++ [temporaryName output.1]) = some (.file output.2))
    (free : ∀ output ∈ outputs, files.entryAt (parent ++ [output.1]) ≠ some .directory)
    (later : List String) :
    renameAll directory files (outputs.map Prod.fst ++ later) =
      renameAll directory (files.changeIn parent (placed outputs)) later := by
  induction outputs generalizing files with
  | nil => rfl
  | cons output rest ih =>
    obtain ⟨name, text⟩ := output
    obtain ⟨notAgain, -⟩ := List.nodup_cons.1 separate.distinct
    have isName : Path.IsFileName name := separate.isFileName name List.mem_cons_self
    have isTemporary := isFileName_temporaryName isName
    have fit : Fits directory (temporaryName name) := fits (name, text) List.mem_cons_self
    have present : files.entryAt (parent ++ [temporaryName name]) = some (.file text) :=
      complete (name, text) List.mem_cons_self
    have notDirectory : files.entryAt (parent ++ [name]) ≠ some .directory :=
      free (name, text) List.mem_cons_self
    have renamed := renameFile_child reached isTemporary isName fit
      (fit.of_le isTemporary isName (utf8ByteSize_le_temporaryName name))
      (separate.apart name List.mem_cons_self name List.mem_cons_self) present
    rw [if_neg notDirectory] at renamed
    have stillReached : (files.changeIn parent
        [(temporaryName name, none), (name, some (.file text))]).Reaches directory parent := by
      apply reached.changeIn
      intro change member
      rcases List.mem_cons.1 member with rfl | second
      · rw [present]
        nofun
      · rw [List.mem_singleton.1 second]
        exact notDirectory
    have untouched : ∀ {other : String}, other ≠ temporaryName name → other ≠ name →
        (files.changeIn parent [(temporaryName name, none), (name, some (.file text))]).entryAt
          (parent ++ [other]) = files.entryAt (parent ++ [other]) := by
      intro other notTemporary notName
      refine entryAt_changeIn_of_not_mem ?_
      simpa using ⟨notTemporary, notName⟩
    rw [List.map_cons, List.cons_append, renameAll_cons, renamed]
    refine ih stillReached (separate.of_sublist (List.sublist_cons_self _ _))
      (fun other member => fits other (List.mem_cons_of_mem _ member)) ?_ ?_
    · intro other member
      have isOther : other.1 ∈ rest.map Prod.fst := List.mem_map_of_mem member
      rw [untouched (fun same => notAgain (temporaryName_inj same ▸ isOther))
        (separate.apart other.1 (List.mem_cons_of_mem _ isOther) name List.mem_cons_self)]
      exact complete other (List.mem_cons_of_mem _ member)
    · intro other member
      have isOther : other.1 ∈ rest.map Prod.fst := List.mem_map_of_mem member
      rw [untouched (fun same => separate.apart name List.mem_cons_self other.1
        (List.mem_cons_of_mem _ isOther) same.symm) (fun same => notAgain (same ▸ isOther))]
      exact free other (List.mem_cons_of_mem _ member)

/-! ## Giving up -/

/-- Temporaries that are files are removed, and removing goes on behind them. -/
theorem discardAll_append (reached : files.Reaches directory parent) (stageable : Stageable names)
    (fits : ∀ name ∈ names, Fits directory (temporaryName name))
    (present : ∀ name ∈ names, ∃ text,
      files.entryAt (parent ++ [temporaryName name]) = some (.file text))
    (later : List String) :
    discardAll directory files (names ++ later) =
      discardAll directory (files.changeIn parent (withdrawn names)) later := by
  induction names generalizing files with
  | nil => rw [withdrawn, List.map_nil, changeIn, List.foldl_nil, List.nil_append]
  | cons name rest ih =>
    obtain ⟨notAgain, -⟩ := List.nodup_cons.1 stageable.distinct
    obtain ⟨text, here⟩ := present name List.mem_cons_self
    have removed := removeFileIfPresent_child reached
      (stageable.isFileName name List.mem_cons_self)
      (fits name List.mem_cons_self) here
    have stillReached : (files.changeIn parent [(temporaryName name, none)]).Reaches directory
        parent := by
      apply reached.changeIn
      intro change member
      rw [List.mem_singleton.1 member, here]
      nofun
    have split : files.changeIn parent (withdrawn (name :: rest)) =
        (files.changeIn parent [(temporaryName name, none)]).changeIn parent (withdrawn rest) :=
      changeIn_append files parent [(temporaryName name, none)] (withdrawn rest)
    have stillPresent : ∀ other ∈ rest, ∃ text,
        (files.changeIn parent [(temporaryName name, none)]).entryAt
          (parent ++ [temporaryName other]) = some (.file text) := by
      intro other member
      rw [entryAt_changeIn_of_not_mem]
      · exact present other (List.mem_cons_of_mem _ member)
      · rw [List.map_singleton, List.mem_singleton]
        exact fun same => notAgain (temporaryName_inj same ▸ member)
    rw [List.cons_append, discardAll_cons, removed, split]
    exact ih stillReached (stageable.of_sublist (List.sublist_cons_self name rest))
      (fun other member => fits other (List.mem_cons_of_mem _ member)) stillPresent

end Publication

end MexBridge
