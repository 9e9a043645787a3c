import MexBridge.Proofs.Publication.AllOrNone
import MexBridge.Proofs.Registry.Log

/-!
# Aborted publications

The holder of the open files may write anything to any of them before it fails, and it fails on its
own account or by writing to a name that was not opened (`WriterAction.fault?`).  Whatever it does,
the temporaries it leaves are files (`act_of_fault`), so they are removed, and the first fault is
the answer (`publish_of_fault`).  If the names of the temporaries were free, the files are left as
they were when the output directory had been made (`publish_abort`).

A temporary that cannot be opened is an abort, too, but one of which the holder of the files does
not hear, and the answer is then a fault of the file system: `publish_abort_long` publishes a name
that leaves no room for its temporary.
-/

set_option autoImplicit false

namespace MexBridge

open FileSystem Publication

/-- The fault with which an action ends the work on files of given names. -/
def WriterAction.fault? (names : List String) : WriterAction → Option PublicationFault
  | .write name _ => if name ∈ names then none else some (.unknownName name)
  | .fail reason => some (.failed reason)

theorem WriterAction.fault?_eraseDups (names : List String) :
    fault? names.eraseDups = fault? names := by
  funext action
  cases action with
  | write name text => simp only [fault?, List.mem_eraseDups]
  | fail reason => rfl

namespace Publication

variable {files prepared : FileSystem} {directory : Path} {parent : Location}
  {names : List String} {outputs : List (String × String)} {actions : List WriterAction}
  {reason : PublicationFault} {opened : OrderedMap String OpenFile}

/-! ## The work on the files -/

/-- A name that is open was opened once, behind other names. -/
theorem exists_parts_of_mem (entries : opened.entries = openEntries parent outputs) {name : String}
    (member : name ∈ outputs.map Prod.fst) :
    ∃ (before : List (String × String)) (text : String) (after : List (String × String)),
      outputs = before ++ (name, text) :: after ∧ name ∉ before.map Prod.fst := by
  have distinct : (outputs.map Prod.fst).Nodup := by
    rw [← map_fst_openEntries parent, ← entries]
    exact opened.keys_nodup
  obtain ⟨⟨name, text⟩, isOutput, rfl⟩ := List.mem_map.1 member
  obtain ⟨before, after, rfl⟩ := List.append_of_mem isOutput
  rw [List.map_append, List.map_cons] at distinct
  exact ⟨before, text, after, rfl, fun again =>
    (List.nodup_append.1 distinct).2.2 name again name List.mem_cons_self rfl⟩

/-- The first fault is the answer, and until then texts have been appended to the open files. -/
theorem act_of_fault (entries : opened.entries = openEntries parent outputs)
    (fails : actions.findSome? (WriterAction.fault? (outputs.map Prod.fst)) = some reason) :
    ∃ (written : OrderedMap String OpenFile) (unfinished : List (String × String)),
      unfinished.map Prod.fst = outputs.map Prod.fst ∧
        written.entries = openEntries parent unfinished ∧
          act opened actions = (.error reason, written) := by
  induction actions generalizing opened outputs with
  | nil => cases fails
  | cons action rest ih =>
    rw [List.findSome?_cons] at fails
    cases action with
    | fail own =>
      cases fails
      exact ⟨opened, outputs, rfl, entries, rfl⟩
    | write name more =>
      by_cases known : name ∈ outputs.map Prod.fst
      · obtain ⟨before, text, after, rfl, absent⟩ := exists_parts_of_mem entries known
        obtain ⟨further, shape, wrote⟩ := act_write absent entries more rest
        have names : (before ++ (name, text ++ more) :: after).map Prod.fst =
            (before ++ (name, text) :: after).map Prod.fst := by
          rw [List.map_append, List.map_append]
          rfl
        rw [WriterAction.fault?, if_pos known, ← names] at fails
        obtain ⟨written, unfinished, same, complete, acted⟩ := ih shape fails
        exact ⟨written, unfinished, same.trans names, complete, wrote.trans acted⟩
      · rw [WriterAction.fault?, if_neg known] at fails
        cases fails
        have unread : opened.get? name = none := by
          rw [OrderedMap.get?_eq_none_iff, OrderedMap.keys, entries, map_fst_openEntries]
          exact known
        exact ⟨opened, outputs, rfl, entries, by rw [act, unread]⟩

/-! ## What is left -/

/-- Giving up for a reason gives the reason, when the temporaries can be removed. -/
theorem giveUp_of_discarded {current after : FileSystem}
    (discarded : discardAll directory current names = (.ok (), after))
    (reason : PublicationFault) :
    (giveUp directory current names reason : PublicationReport (List String)) =
      ⟨.error reason, after, [.discarded directory.render]⟩ := by
  rw [giveUp, discarded]

/-- **A fault of the holder of the files withdraws all temporaries**, and is the answer. -/
theorem publish_of_fault (made : files.makeDirectories directory = (.ok (), prepared))
    (reached : prepared.Reaches directory parent) (stageable : Stageable names)
    (admitted : ∀ name ∈ names, prepared.Admits directory parent (temporaryName name))
    (fails : actions.findSome? (WriterAction.fault? names) = some reason) :
    ∃ after : FileSystem, Withdraws prepared after parent names ∧
      publish files directory names actions =
        ⟨.error reason, after, [.discarded directory.render]⟩ := by
  obtain ⟨opened, openShape, openedAll⟩ := openAll_append reached stageable admitted .empty
    (fun _ _ => List.not_mem_nil) []
  rw [List.append_nil] at openedAll
  have blankShape : opened.entries = openEntries parent (blank names) := openShape
  rw [← map_fst_blank names] at fails
  obtain ⟨written, unfinished, same, shape, acted⟩ := act_of_fault blankShape fails
  rw [map_fst_blank] at same
  subst same
  obtain ⟨closedReached, left⟩ := leaves_close shape reached stageable admitted
  obtain ⟨after, -, withdrawn, discarded⟩ := withdraws closedReached stageable
    (fun name member => (admitted name member).fits) left []
  rw [List.append_nil] at discarded
  have allOpened : openAll directory prepared .empty (unfinished.map Prod.fst) =
      (.ok (), opened,
        prepared.changeIn parent (filled (blank (unfinished.map Prod.fst)))) := openedAll
  refine ⟨after, withdrawn, ?_⟩
  simp only [publish, made, eraseDups_of_nodup stageable.distinct, allOpened, acted]
  exact giveUp_of_discarded discarded reason

/-- A name given twice is one file. -/
theorem publish_eraseDups (files : FileSystem) (directory : Path) (names : List String)
    (actions : List WriterAction) :
    publish files directory names.eraseDups actions = publish files directory names actions := by
  rw [publish, publish, eraseDups_of_nodup (nodup_eraseDups names)]

/-- Plain names can be staged once each. -/
theorem stageable_eraseDups (plain : ∀ name ∈ names, '/' ∉ name.toList ∧ '\x00' ∉ name.toList) :
    Stageable names.eraseDups where
  distinct := nodup_eraseDups names
  isFileName name member := by
    obtain ⟨slashFree, nullFree⟩ := plain name (List.mem_eraseDups.1 member)
    exact isFileName_temporaryName_of_plain slashFree nullFree

/-- **An aborted publication leaves the files alone.**  If the names of the temporaries were free,
the files are left as they were when the output directory had been made.  If the temporaries can be
opened, the answer is the fault of the holder, the files were given up, and no temporary is there;
else it is a fault of the file system. -/
theorem publish_abort (made : files.makeDirectories directory = (.ok (), prepared))
    (plain : ∀ name ∈ names, '/' ∉ name.toList ∧ '\x00' ∉ name.toList)
    (missing : ∀ name ∈ names,
      files.entryAt (files.destination directory ++ [temporaryName name]) = none)
    (fails : actions.findSome? (WriterAction.fault? names) = some reason) :
    ∃ after : FileSystem, files.OnlyPrepares after directory ∧
      (∀ location, after.entryAt location = prepared.entryAt location) ∧
      ((∀ name ∈ names,
          prepared.Admits directory (files.destination directory) (temporaryName name)) →
        (∀ name ∈ names,
          after.entryAt (files.destination directory ++ [temporaryName name]) = none) ∧
        publish files directory names actions =
          ⟨.error reason, after, [.discarded directory.render]⟩) ∧
      ((¬ ∀ name ∈ names,
          prepared.Admits directory (files.destination directory) (temporaryName name)) →
        ∃ fault, fault ≠ .embeddedNull ∧
          publish files directory names actions = ⟨.error (.files fault), after, []⟩) := by
  have reached := reaches_of_makeDirectories made
  have prepares := makeDirectories_onlyPrepares files directory
  rw [made] at prepares
  have stageable := stageable_eraseDups plain
  -- where a temporary is admitted no directory was made
  have free : ∀ name ∈ names,
      prepared.Admits directory (files.destination directory) (temporaryName name) →
        prepared.entryAt (files.destination directory ++ [temporaryName name]) = none := by
    intro name member admitted
    rw [prepares.entryAt_eq admitted.free, missing name member]
  have failsOnce : actions.findSome? (WriterAction.fault? names.eraseDups) = some reason := by
    rwa [WriterAction.fault?_eraseDups]
  rcases forall_or_firstFailing (fun name => prepared.Admits directory
      (files.destination directory) (temporaryName name)) names.eraseDups with
    admitted | ⟨earlier, name, later, parts, passed, refused⟩
  · obtain ⟨after, left, published⟩ := publish_of_fault made reached stageable admitted failsOnce
    rw [publish_eraseDups] at published
    have same := left.entryAt_eq fun name member =>
      free name (List.mem_eraseDups.1 member) (admitted name member)
    have all : ∀ name ∈ names,
        prepared.Admits directory (files.destination directory) (temporaryName name) :=
      fun name member => admitted name (List.mem_eraseDups.2 member)
    refine ⟨after, prepares.congr left.workingDirectory same, same, fun _ => ⟨?_, published⟩,
      fun refused => absurd all refused⟩
    exact fun name member => left.gone name (List.mem_eraseDups.2 member)
  · obtain ⟨fault, after, readable, left, published⟩ := publish_of_refused made reached
      (parts ▸ stageable) passed refused
    have isName : ∀ {other : String}, other ∈ earlier ++ name :: later → other ∈ names :=
      fun member => List.mem_eraseDups.1 (parts ▸ member)
    rw [← parts] at published
    have same := left.entryAt_eq fun other member =>
      free other (isName (List.mem_append_left _ member)) (passed other member)
    refine ⟨after, prepares.congr left.workingDirectory same, same, fun admitted => absurd
      (admitted name (isName (List.mem_append_right _ List.mem_cons_self))) refused,
      fun _ => ⟨fault, readable, ?_⟩⟩
    rw [← publish_eraseDups]
    exact published actions

/-- Two files are given up, one of them half-written, when a third one is written to. -/
theorem publish_abort_third :
    ∃ after : FileSystem, ({} : FileSystem).OnlyPrepares after ⟨.here, ["out"]⟩ ∧
      publish {} ⟨.here, ["out"]⟩ ["Box.m", "shop_wrapper.cpp"]
          [.write "Box.m" "classdef", .write "Cup.m" "classdef"] =
        ⟨.error (.unknownName "Cup.m"), after, [.discarded "out"]⟩ := by
  obtain ⟨after, prepares, -, aborts, -⟩ := publish_abort
    (rfl : ({} : FileSystem).makeDirectories ⟨.here, ["out"]⟩ =
      (.ok (), { entries := .ofList [(["out"], .directory)] }))
    (by decide : ∀ name ∈ ["Box.m", "shop_wrapper.cpp"], _) (by decide)
    (rfl : [.write "Box.m" "classdef", .write "Cup.m" "classdef"].findSome? _ =
      some (.unknownName "Cup.m"))
  refine ⟨after, prepares, (aborts ?_).2⟩
  simp only [List.forall_mem_cons]
  exact ⟨⟨⟨by decide, by decide⟩, by decide⟩, ⟨⟨by decide, by decide⟩, by decide⟩, nofun⟩

/-- A name as long as a name can be, but for three characters. -/
def longName : String :=
  String.ofList (List.replicate 252 'a')

theorem toList_longName : longName.toList = List.replicate 252 'a' :=
  String.toList_ofList

/-- **The failure of the holder of the files is not the answer** if a name is plain, and not too
long, but its temporary is. -/
theorem publish_abort_long :
    (∃ prepared, ({} : FileSystem).makeDirectories ⟨.here, ["out"]⟩ = (.ok (), prepared)) ∧
      longName.utf8ByteSize ≤ nameLimit ∧
      '/' ∉ longName.toList ∧ '\x00' ∉ longName.toList ∧
      ({} : FileSystem).entryAt (["out"] ++ [temporaryName longName]) = none ∧
      [WriterAction.fail "abort"].findSome? (WriterAction.fault? [longName]) =
        some (.failed "abort") ∧
      (publish {} ⟨.here, ["out"]⟩ [longName] [.fail "abort"]).answer ≠
        .error (.failed "abort") := by
  let prepared : FileSystem := { entries := .ofList [(["out"], .directory)] }
  have made : ({} : FileSystem).makeDirectories ⟨.here, ["out"]⟩ = (.ok (), prepared) := by rfl
  have letters : ∀ letter ∈ longName.toList, letter = 'a' := by
    intro letter member
    rw [toList_longName] at member
    exact List.eq_of_mem_replicate member
  have slashFree : '/' ∉ longName.toList := by
    intro member
    exact absurd (letters '/' member) (by decide)
  have nullFree : '\x00' ∉ longName.toList := by
    intro member
    exact absurd (letters '\x00' member) (by decide)
  have size : longName.utf8ByteSize = 252 := by
    decide +kernel
  have free : ({} : FileSystem).entryAt (["out"] ++ [temporaryName longName]) = none := by
    exact if_neg (List.cons_ne_nil _ _)
  refine ⟨⟨_, made⟩, by rw [size]; decide, slashFree, nullFree, free, rfl, ?_⟩
  have stageable : Stageable ([] ++ longName :: []) := by
    refine ⟨List.nodup_singleton _, List.forall_mem_singleton.2 ?_⟩
    exact isFileName_temporaryName_of_plain slashFree nullFree
  have refused : ¬ prepared.Admits ⟨.here, ["out"]⟩ ["out"] (temporaryName longName) := by
    intro admitted
    have short := admitted.fits.name
    rw [temporaryName, String.utf8ByteSize_append, String.utf8ByteSize_append, size] at short
    exact absurd short (by decide)
  obtain ⟨fault, after, -, -, published⟩ := publish_of_refused made
    (reaches_of_makeDirectories made) stageable (List.forall_mem_nil _) refused
  rw [List.nil_append] at published
  rw [published]
  intro same
  cases same

end Publication

end MexBridge
