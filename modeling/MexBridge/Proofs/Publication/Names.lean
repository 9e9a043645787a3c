import MexBridge.Proofs.FileSystem.FileName
import MexBridge.Proofs.Session.Run
import MexBridge.Publication
import Mathlib.Data.List.Nodup

/-!
# Names that are published together

Distinct names can be staged in temporaries as soon as these are named as files
(`Publication.Stageable`).  Temporaries and files do not get into each other's way if the names are
distinct file names and no temporary has one of the names (`Publication.Separate`).  The file names
of a session are separate as soon as they are plain, since its classes have distinct MATLAB names.
-/

set_option autoImplicit false

namespace MexBridge

namespace Publication

variable {name first second : String} {names : List String}

theorem temporaryName_inj (same : temporaryName first = temporaryName second) :
    first = second := by
  have inner := congrArg String.toList same
  simp only [temporaryName, String.toList_append] at inner
  exact String.toList_inj.1 (List.append_cancel_left (List.append_cancel_right inner))

theorem getLast?_temporaryName (name : String) :
    (temporaryName name).toList.getLast? = some 'p' :=
  Text.getLast?_append rfl ("." ++ name)

/-- The temporary of a plain text is a file name, whether the text is one or not. -/
theorem isFileName_temporaryName_of_plain (slashFree : '/' ∉ name.toList)
    (nullFree : '\x00' ∉ name.toList) : Path.IsFileName (temporaryName name) := by
  refine Path.IsFileName.append ?_ ?_ (by decide) (by decide) rfl (by decide)
  · rw [String.toList_append, List.mem_append, not_or]
    exact ⟨by decide, slashFree⟩
  · rw [String.toList_append, List.mem_append, not_or]
    exact ⟨by decide, nullFree⟩

theorem isFileName_temporaryName (isName : Path.IsFileName name) :
    Path.IsFileName (temporaryName name) :=
  isFileName_temporaryName_of_plain isName.slashFree isName.nullFree

theorem utf8ByteSize_le_temporaryName (name : String) :
    name.utf8ByteSize ≤ (temporaryName name).utf8ByteSize := by
  rw [temporaryName, String.utf8ByteSize_append, String.utf8ByteSize_append]
  omega

/-- Distinct names whose temporaries are named as files. -/
structure Stageable (names : List String) : Prop where
  distinct : names.Nodup
  isFileName : ∀ name ∈ names, Path.IsFileName (temporaryName name)

namespace Stageable

theorem of_sublist {part : List String} (stageable : Stageable names)
    (within : part.Sublist names) : Stageable part where
  distinct := stageable.distinct.sublist within
  isFileName name member := stageable.isFileName name (within.subset member)

theorem temporaries_distinct (stageable : Stageable names) : (names.map temporaryName).Nodup :=
  stageable.distinct.map fun _ _ => temporaryName_inj

/-- The temporary of a later name is none of the temporaries before it. -/
theorem temporary_not_mem {earlier later : List String}
    (stageable : Stageable (earlier ++ name :: later)) :
    temporaryName name ∉ earlier.map temporaryName := by
  intro member
  obtain ⟨other, otherMember, same⟩ := List.mem_map.1 member
  obtain rfl := temporaryName_inj same
  exact (List.nodup_append.1 stageable.distinct).2.2 other otherMember other List.mem_cons_self rfl

end Stageable

/-- Distinct file names, none of which is the name of a temporary. -/
structure Separate (names : List String) : Prop where
  distinct : names.Nodup
  isFileName : ∀ name ∈ names, Path.IsFileName name
  apart : ∀ first ∈ names, ∀ second ∈ names, temporaryName first ≠ second

namespace Separate

theorem of_sublist {part : List String} (separate : Separate names) (within : part.Sublist names) :
    Separate part where
  distinct := separate.distinct.sublist within
  isFileName name member := separate.isFileName name (within.subset member)
  apart first firstMember second secondMember :=
    separate.apart first (within.subset firstMember) second (within.subset secondMember)

theorem left {part rest : List (String × String)}
    (separate : Separate ((part ++ rest).map Prod.fst)) : Separate (part.map Prod.fst) := by
  refine separate.of_sublist ?_
  rw [List.map_append]
  exact List.sublist_append_left _ _

theorem ne_of_append {part rest : List (String × String)} {first second : String × String}
    (separate : Separate ((part ++ rest).map Prod.fst)) (inFirst : first ∈ part)
    (inSecond : second ∈ rest) : first.1 ≠ second.1 := by
  have distinct := separate.distinct
  rw [List.map_append] at distinct
  exact (List.nodup_append.1 distinct).2.2 _ (List.mem_map_of_mem inFirst) _
    (List.mem_map_of_mem inSecond)

theorem stageable (separate : Separate names) : Stageable names where
  distinct := separate.distinct
  isFileName name member := isFileName_temporaryName (separate.isFileName name member)

end Separate

end Publication

/-! ## The file names of a session -/

/-- Texts that end alike, in so many characters, end with the same text. -/
theorem Text.ending_eq {stem other ending last : String} (same : stem ++ ending = other ++ last)
    (size : ending.toList.length = last.toList.length) : ending = last := by
  have texts := congrArg String.toList same
  rw [String.toList_append, String.toList_append] at texts
  exact String.toList_injective (List.append_inj' texts size).2

namespace Generated

open Publication

variable {generated : Generated}

theorem map_fst_files (generated : Generated) : generated.files.map Prod.fst =
    (generated.sortedProxies.map Prod.fst).map (· ++ ".m") ++
      [generated.wrapperName ++ ".cpp"] := by
  rw [files, List.map_append, List.map_map, List.map_map]
  rfl

/-- Every file name has an ending, and what ends a temporary is not one of these. -/
theorem exists_ending {name : String} (member : name ∈ generated.files.map Prod.fst) :
    ∃ stem, name = stem ++ ".m" ∨ name = stem ++ ".cpp" := by
  rw [map_fst_files] at member
  rcases List.mem_append.1 member with proxy | wrapper
  · obtain ⟨stem, -, rfl⟩ := List.mem_map.1 proxy
    exact ⟨stem, .inl rfl⟩
  · exact ⟨generated.wrapperName, .inr (List.mem_singleton.1 wrapper)⟩

theorem nodup_files (names : (generated.proxies.map Prod.fst).Nodup) :
    (generated.files.map Prod.fst).Nodup := by
  have sorted : (generated.sortedProxies.map Prod.fst).Nodup :=
    (((List.mergeSort_perm generated.proxies _).map Prod.fst).nodup_iff).2 names
  rw [map_fst_files, List.nodup_append]
  refine ⟨sorted.map ?_, List.nodup_singleton _, ?_⟩
  · intro first second same
    have texts := congrArg String.toList same
    simp only [String.toList_append] at texts
    exact String.toList_injective (List.append_cancel_right texts)
  · intro proxy member wrapper isWrapper same
    obtain ⟨stem, -, rfl⟩ := List.mem_map.1 member
    rw [List.mem_singleton.1 isWrapper] at same
    have lasts : some 'm' = some 'p' := by
      refine (Text.getLast?_append rfl stem : (stem ++ ".m").toList.getLast? = _).symm.trans ?_
      rw [same]
      exact Text.getLast?_append rfl generated.wrapperName
    exact absurd lasts (by decide)

/-- Plain file names of distinct classes are separate. -/
theorem separate_files (names : (generated.proxies.map Prod.fst).Nodup)
    (plain : ∀ output ∈ generated.files, '/' ∉ output.1.toList ∧ '\x00' ∉ output.1.toList) :
    Separate (generated.files.map Prod.fst) where
  distinct := nodup_files names
  isFileName name member := by
    obtain ⟨output, isOutput, rfl⟩ := List.mem_map.1 member
    obtain ⟨slashFree, nullFree⟩ := plain output isOutput
    obtain ⟨stem, proxy | wrapper⟩ := exists_ending member
    · rw [proxy, String.toList_append, List.mem_append, not_or] at slashFree nullFree
      rw [proxy]
      exact .append slashFree.1 nullFree.1 slashFree.2 nullFree.2 rfl (by decide)
    · rw [wrapper, String.toList_append, List.mem_append, not_or] at slashFree nullFree
      rw [wrapper]
      exact .append slashFree.1 nullFree.1 slashFree.2 nullFree.2 rfl (by decide)
  apart first _ second member same := by
    obtain ⟨stem, proxy | wrapper⟩ := exists_ending member
    · have lasts : some 'm' = some 'p' := by
        rw [← getLast?_temporaryName first, same, proxy]
        exact (Text.getLast?_append rfl stem).symm
      exact absurd lasts (by decide)
    · rw [wrapper, temporaryName] at same
      exact absurd (Text.ending_eq same rfl) (by decide)

end Generated

/-- The file names of a session that ended well are separate if they are plain. -/
theorem Session.separate_files {session : Session} {generated : Generated}
    (succeeded : session.runWritable.1 = .ok generated)
    (plain : ∀ output ∈ generated.files, '/' ∉ output.1.toList ∧ '\x00' ∉ output.1.toList) :
    Publication.Separate (generated.files.map Prod.fst) := by
  obtain ⟨-, emittable, rfl⟩ := eq_assembled_of_run (run_of_runWritable succeeded)
  refine Generated.separate_files ?_ plain
  rw [map_fst_proxies]
  exact emittable.classNames

end MexBridge
