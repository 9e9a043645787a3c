import MexBridge.FileSystem.Operations

/-!
# Where paths lead

`Location.walked` is where steps lead when every one of them can be taken; it does not look at the
files.  Files reach a location by a path if they let the path be walked there and there is a
directory at its end (`FileSystem.Reaches`).  This survives every change that keeps the directories
(`Reaches.mono`), and only such changes happen while files are published.
-/

set_option autoImplicit false

namespace MexBridge

/-- The location at the end of one step. -/
def Location.stepped (location : Location) (step : String) : Location :=
  if step = Path.upward then location.dropLast else location ++ [step]

/-- The location at the end of steps. -/
def Location.walked (location : Location) (steps : List String) : Location :=
  steps.foldl Location.stepped location

theorem Location.walked_append (location : Location) (steps : List String) (last : String) :
    Location.walked location (steps ++ [last]) = (Location.walked location steps).stepped last := by
  simp [Location.walked]

namespace FileSystem

/-- The location that a path names, whatever is on the way to it. -/
def destination (files : FileSystem) (path : Path) : Location :=
  Location.walked (files.origin path) path.steps

/-- Follows steps from a directory to a directory. -/
def followAll (files : FileSystem) (directory : Location) :
    List String → Except FileFault Location
  | [] => .ok directory
  | step :: rest => do
    let next ← files.follow directory step
    files.followAll next rest

variable {files before after : FileSystem} {path : Path}
  {location directory next : Location} {steps : List String} {step last : String}

/-! ## Steps -/

theorem follow_eq_ok (taken : files.follow directory step = .ok next) :
    next = directory.stepped step := by
  rw [follow] at taken
  rw [Location.stepped]
  split at taken
  · next back =>
    rw [if_pos back]
    exact (Except.ok.inj taken).symm
  · next forward =>
    rw [if_neg forward]
    split at taken
    · cases taken
    · split at taken
      · exact (Except.ok.inj taken).symm
      · cases taken
      · cases taken

theorem follow_upward : files.follow directory Path.upward = .ok directory.dropLast :=
  if_pos rfl

theorem follow_of_isDirectory (forward : last ≠ Path.upward)
    (short : last.utf8ByteSize ≤ nameLimit)
    (found : files.entryAt (directory ++ [last]) = some .directory) :
    files.follow directory last = .ok (directory ++ [last]) := by
  rw [follow, if_neg forward, if_neg (Nat.not_lt.2 short), found]

theorem followAll_eq_ok (taken : files.followAll directory steps = .ok location) :
    location = Location.walked directory steps := by
  induction steps generalizing directory with
  | nil => exact (Except.ok.inj taken).symm
  | cons step rest ih =>
    rw [followAll] at taken
    cases first : files.follow directory step with
    | error fault =>
      rw [first] at taken
      cases taken
    | ok next =>
      rw [first] at taken
      rw [ih taken, follow_eq_ok first]
      rfl

theorem followAll_append (files : FileSystem) (directory : Location) (steps : List String)
    (last : String) :
    files.followAll directory (steps ++ [last]) =
      (files.followAll directory steps).bind fun parent => files.follow parent last := by
  induction steps generalizing directory with
  | nil =>
    show (files.follow directory last).bind Except.ok = files.follow directory last
    cases files.follow directory last <;> rfl
  | cons step rest ih =>
    rw [List.cons_append, followAll, followAll]
    cases files.follow directory step with
    | error fault => rfl
    | ok next => exact ih next

/-- The place at the end of a last step from a directory. -/
def lastPlace (parent : Location) (last : String) : Place :=
  if last = Path.upward then .directory parent.dropLast else .named parent last

theorem placeFrom_append (files : FileSystem) (directory : Location) (steps : List String)
    (last : String) :
    files.placeFrom directory (steps ++ [last]) =
      (files.followAll directory steps).map fun parent => lastPlace parent last := by
  induction steps generalizing directory with
  | nil => rfl
  | cons step rest ih =>
    obtain ⟨second, others, shape⟩ : ∃ second others, rest ++ [last] = second :: others := by
      cases rest with
      | nil => exact ⟨last, [], rfl⟩
      | cons second others => exact ⟨second, others ++ [last], rfl⟩
    rw [List.cons_append, shape, placeFrom, followAll, ← shape]
    · cases files.follow directory step with
      | error fault => rfl
      | ok next => exact ih next
    · rintro ⟨⟩

/-! ## Keeping directories -/

/-- Every directory of the files before is a directory of the files after. -/
structure KeepsDirectories (before after : FileSystem) : Prop where
  workingDirectory : after.workingDirectory = before.workingDirectory
  isDirectory : ∀ location, before.entryAt location = some .directory →
    after.entryAt location = some .directory

namespace KeepsDirectories

theorem origin (kept : before.KeepsDirectories after) (path : Path) :
    after.origin path = before.origin path := by
  simp only [FileSystem.origin, kept.workingDirectory]

theorem destination (kept : before.KeepsDirectories after) (path : Path) :
    after.destination path = before.destination path := by
  simp only [FileSystem.destination, kept.origin]

theorem follow (kept : before.KeepsDirectories after)
    (taken : before.follow directory step = .ok next) :
    after.follow directory step = .ok next := by
  unfold FileSystem.follow at taken ⊢
  split at taken
  · next back =>
    rw [if_pos back]
    exact taken
  · next forward =>
    rw [if_neg forward]
    split at taken
    · cases taken
    · next short =>
      rw [if_neg short]
      split at taken
      · next found =>
        rw [kept.isDirectory _ found]
        exact taken
      · cases taken
      · cases taken

theorem followAll (kept : before.KeepsDirectories after)
    (taken : before.followAll directory steps = .ok location) :
    after.followAll directory steps = .ok location := by
  induction steps generalizing directory with
  | nil => exact taken
  | cons step rest ih =>
    rw [FileSystem.followAll] at taken ⊢
    cases first : before.follow directory step with
    | error fault =>
      rw [first] at taken
      cases taken
    | ok next =>
      rw [first] at taken
      rw [kept.follow first]
      exact ih taken

end KeepsDirectories

/-! ## Reaching a directory -/

/-- The path can be read, it can be walked to the location, and there is a directory. -/
structure Reaches (files : FileSystem) (path : Path) (location : Location) : Prop where
  readable : '\x00' ∉ path.render.toList
  walked : files.followAll (files.origin path) path.steps = .ok location
  isDirectory : files.entryAt location = some .directory

namespace Reaches

theorem mono (reached : before.Reaches path location) (kept : before.KeepsDirectories after) :
    after.Reaches path location where
  readable := reached.readable
  walked := by
    rw [kept.origin]
    exact kept.followAll reached.walked
  isDirectory := kept.isDirectory location reached.isDirectory

end Reaches

theorem isDirectoryAt_iff :
    files.isDirectoryAt location = true ↔ files.entryAt location = some .directory :=
  beq_iff_eq

theorem placeOf_eq_ok_iff {place : Place} :
    files.placeOf path = .ok place ↔
      '\x00' ∉ path.render.toList ∧ path.render.utf8ByteSize ≤ pathLimit ∧
        files.placeFrom (files.origin path) path.steps = .ok place := by
  rw [placeOf]
  by_cases null : '\x00' ∈ path.render.toList
  · simp [null]
  · by_cases long : pathLimit < path.render.utf8ByteSize
    · simp [null, long, Nat.not_le.2 long]
    · simp [null, long, Nat.not_lt.1 long]

theorem placeOf_of_null (null : '\x00' ∈ path.render.toList) :
    files.placeOf path = .error .embeddedNull := by
  rw [placeOf, if_pos (by simpa using null)]

theorem placeFrom_ne_embeddedNull (files : FileSystem) (directory : Location)
    (steps : List String) : files.placeFrom directory steps ≠ .error .embeddedNull := by
  have follow : ∀ location step, files.follow location step ≠ .error .embeddedNull := by
    intro location step
    rw [FileSystem.follow]
    split
    · nofun
    · split
      · nofun
      · split <;> nofun
  fun_induction placeFrom files directory steps with
  | case1 directory => nofun
  | case2 directory step => nofun
  | case3 directory step rest more ih =>
    cases taken : files.follow directory step with
    | error fault =>
      intro refused
      obtain rfl : fault = .embeddedNull := Except.error.inj refused
      exact follow directory step taken
    | ok next => exact ih next

theorem placeOf_ne_embeddedNull (readable : '\x00' ∉ path.render.toList) :
    files.placeOf path ≠ .error .embeddedNull := by
  rw [placeOf, if_neg (by simpa using readable)]
  split
  · nofun
  · exact placeFrom_ne_embeddedNull files _ _

/-- A path of one more step leads on from where the steps before it lead. -/
theorem placeFrom_append_eq_ok {place : Place}
    (found : files.placeFrom directory (steps ++ [last]) = .ok place) :
    ∃ parent, files.followAll directory steps = .ok parent ∧ place = lastPlace parent last := by
  rw [placeFrom_append] at found
  cases walked : files.followAll directory steps with
  | error fault =>
    rw [walked] at found
    cases found
  | ok parent =>
    rw [walked] at found
    exact ⟨parent, rfl, (Except.ok.inj found).symm⟩

theorem followAll_append_of_ok {parent : Location}
    (walked : files.followAll directory steps = .ok parent) :
    files.followAll directory (steps ++ [last]) = files.follow parent last := by
  rw [followAll_append, walked]
  rfl

/-- A path that leads to a directory reaches it. -/
theorem reaches_of_leadsToDirectory (leads : files.leadsToDirectory path = true) :
    files.Reaches path (files.destination path) := by
  rw [leadsToDirectory] at leads
  cases led : files.placeOf path with
  | error fault =>
    rw [led] at leads
    cases leads
  | ok place =>
    obtain ⟨readable, -, found⟩ := placeOf_eq_ok_iff.1 led
    rw [led] at leads
    have reachedAt : ∀ location, files.followAll (files.origin path) path.steps = .ok location →
        files.isDirectoryAt location = true → files.Reaches path (files.destination path) := by
      intro location walked present
      have same : location = files.destination path := followAll_eq_ok walked
      rw [← same]
      exact ⟨readable, walked, isDirectoryAt_iff.1 present⟩
    rcases List.eq_nil_or_concat path.steps with empty | ⟨earlier, last, shape⟩
    · rw [empty, placeFrom] at found
      cases found
      exact reachedAt _ (by rw [empty, followAll]) leads
    · rw [List.concat_eq_append] at shape
      rw [shape] at found
      obtain ⟨parent, walked, rfl⟩ := placeFrom_append_eq_ok found
      have whole : files.followAll (files.origin path) path.steps = files.follow parent last := by
        rw [shape, followAll_append_of_ok walked]
      by_cases back : last = Path.upward
      · rw [lastPlace, if_pos back] at leads
        exact reachedAt _ (by rw [whole, back, follow_upward]) leads
      · rw [lastPlace, if_neg back] at leads
        obtain ⟨short, present⟩ := Bool.and_eq_true_iff.1 leads
        exact reachedAt _ (by rw [whole, follow_of_isDirectory back (of_decide_eq_true short)
          (isDirectoryAt_iff.1 present)]) present

end FileSystem

end MexBridge
