import MexBridge.FileSystem.Path
import MexBridge.Proofs.Text.Pieces

/-!
# File names

A file name is a single step: the path of a file name in a directory is the path of the directory
with the name as its last step (`Path.child_eq`).  How long the written path is depends on the name
by its length alone, and it holds the null character only where one of its steps does.
-/

set_option autoImplicit false

namespace MexBridge

theorem Text.getLast?_append {ending : String} {last : Char}
    (ends : ending.toList.getLast? = some last) (stem : String) :
    (stem ++ ending).toList.getLast? = some last := by
  rw [String.toList_append, List.getLast?_append, ends]
  rfl

namespace Path

/-- A name that is one step forward, without the null character. -/
structure IsFileName (name : String) : Prop where
  slashFree : '/' ∉ name.toList
  nullFree : '\x00' ∉ name.toList
  nonempty : name ≠ ""
  away : name ≠ "."
  forward : name ≠ upward

variable {directory path : Path} {name : String}

namespace IsFileName

theorem anchorOf (isName : IsFileName name) : Path.anchorOf name.toList = .here := by
  unfold Path.anchorOf
  split
  · next shape => exact absurd (by simp [shape]) isName.slashFree
  · next shape => exact absurd (by simp [shape]) isName.slashFree
  · next shape => exact absurd (by simp [shape]) isName.slashFree
  · rfl

theorem ofText (isName : IsFileName name) : Path.ofText name = ⟨.here, [name]⟩ := by
  have step : isStep name = true := by simp [isStep, isName.nonempty, isName.away]
  rw [Path.ofText, isName.anchorOf, Text.splitOnCharacter_of_not_mem isName.slashFree,
    List.map_singleton, String.ofList_toList, List.filter_cons_of_pos step, List.filter_nil]

/-- Text behind a plain text, which does not end with a point, makes a file name. -/
theorem append {stem ending : String} {last : Char} (stemSlashFree : '/' ∉ stem.toList)
    (stemNullFree : '\x00' ∉ stem.toList) (slashFree : '/' ∉ ending.toList)
    (nullFree : '\x00' ∉ ending.toList) (ends : ending.toList.getLast? = some last)
    (sharp : last ≠ '.') : IsFileName (stem ++ ending) := by
  have differs : ∀ name : String, name.toList.getLast? ≠ some last → stem ++ ending ≠ name := by
    rintro name different rfl
    exact different (Text.getLast?_append ends stem)
  have point : some '.' ≠ some last := fun same => sharp (Option.some.inj same).symm
  exact
    { slashFree := by simp [stemSlashFree, slashFree]
      nullFree := by simp [stemNullFree, nullFree]
      nonempty := differs "" nofun
      away := differs "." point
      forward := differs upward point }

end IsFileName

theorem child_eq (isName : IsFileName name) :
    directory.child name = ⟨directory.anchor, directory.steps ++ [name]⟩ := by
  rw [child, isName.ofText, join]

/-- Different file names have different paths. -/
theorem child_inj {other : String} (isName : IsFileName name) (isOther : IsFileName other)
    (same : directory.child name = directory.child other) : name = other := by
  rw [child_eq isName, child_eq isOther] at same
  simpa using congrArg Path.steps same

/-- The path of a text ends with the ending of the text, whatever slashes are in front of it. -/
theorem exists_getLast?_steps_child (directory : Path) {ending : String} {last : Char}
    (slashFree : '/' ∉ ending.toList) (ends : ending.toList.getLast? = some last)
    (sharp : last ≠ '.') (stem : String) :
    ∃ front, (directory.child (stem ++ ending)).steps.getLast? = some (front ++ ending) := by
  obtain ⟨front, piece⟩ := Text.getLast?_splitOnCharacter_append slashFree stem.toList
  have text : String.ofList (front ++ ending.toList) = String.ofList front ++ ending := by
    rw [String.ofList_append, String.ofList_toList]
  have step : isStep (String.ofList front ++ ending) = true := by
    have final := Text.getLast?_append ends (String.ofList front)
    rw [isStep, Bool.and_eq_true, decide_eq_true_eq, decide_eq_true_eq]
    constructor
    · intro empty
      rw [empty] at final
      cases final
    · intro point
      rw [point] at final
      exact sharp (Option.some.inj final).symm
  have own : (Path.ofText (stem ++ ending)).steps.getLast? =
      some (String.ofList front ++ ending) := by
    obtain ⟨before, parts⟩ := List.getLast?_eq_some_iff.1 piece
    rw [Path.ofText, String.toList_append, parts, List.map_append, List.filter_append,
      List.map_singleton, text, List.filter_cons_of_pos step, List.filter_nil, List.getLast?_concat]
  refine ⟨String.ofList front, ?_⟩
  rw [child, join]
  cases (Path.ofText (stem ++ ending)).anchor with
  | here => rw [List.getLast?_append, own]; rfl
  | root => exact own
  | doubleRoot => exact own

/-! ## Written paths -/

theorem null_mem_render_iff :
    '\x00' ∈ path.render.toList ↔ ∃ step ∈ path.steps, '\x00' ∈ step.toList := by
  have joined : '\x00' ∈ (String.intercalate "/" path.steps).toList ↔
      ∃ step ∈ path.steps, '\x00' ∈ step.toList := by
    rw [String.toList_intercalate]
    refine (Text.mem_intercalate_iff (by decide) (path.steps.map String.toList)).trans ?_
    constructor
    · rintro ⟨piece, member, null⟩
      obtain ⟨step, stepMember, rfl⟩ := List.mem_map.1 member
      exact ⟨step, stepMember, null⟩
    · rintro ⟨step, member, null⟩
      exact ⟨step.toList, List.mem_map_of_mem member, null⟩
  rw [← joined, render]
  cases path.anchor with
  | here =>
    by_cases none : path.steps = []
    · simp [none]
    · simp [none]
  | root => simp
  | doubleRoot => simp

/-- The written path of a last step is longer than the step by as much as is in front of it. -/
theorem exists_utf8ByteSize_render (directory : Path) :
    ∃ front, ∀ last : String,
      (⟨directory.anchor, directory.steps ++ [last]⟩ : Path).render.utf8ByteSize =
        front + last.utf8ByteSize := by
  obtain ⟨front, joined⟩ : ∃ front, ∀ last : String,
      (String.intercalate "/" (directory.steps ++ [last])).utf8ByteSize =
        front + last.utf8ByteSize := by
    by_cases none : directory.steps = []
    · exact ⟨0, fun last => by simp [none]⟩
    · refine ⟨(String.intercalate "/" directory.steps).utf8ByteSize + "/".utf8ByteSize,
        fun last => ?_⟩
      rw [String.intercalate_append_of_ne_nil none (List.cons_ne_nil last []),
        String.intercalate_singleton, String.utf8ByteSize_append, String.utf8ByteSize_append]
  cases anchored : directory.anchor with
  | here => exact ⟨front, fun last => by simp [render, joined]⟩
  | root =>
    exact ⟨"/".utf8ByteSize + front, fun last => by
      simp [render, String.utf8ByteSize_append, joined, Nat.add_assoc]⟩
  | doubleRoot =>
    exact ⟨"//".utf8ByteSize + front, fun last => by
      simp [render, String.utf8ByteSize_append, joined, Nat.add_assoc]⟩

end Path

end MexBridge
