import MexBridge.Proofs.FileSystem.FileName
import MexBridge.Proofs.FileSystem.Walk

/-!
# Making directories

Making the directory of a path adds directories on the way to it, where nothing was, and changes
nothing else, whether it succeeds or not (`makeDirectories_onlyPrepares`).  If it succeeds, the path
reaches the directory it names (`reaches_of_makeDirectories`).  A path
with the null character is refused at once, and no other path is refused for its text.
-/

set_option autoImplicit false

namespace MexBridge.FileSystem

/-- The location is where an initial part of a path leads. -/
def OnTheWay (files : FileSystem) (path : Path) (location : Location) : Prop :=
  ∃ steps, steps <+: path.steps ∧ location = Location.walked (files.origin path) steps

/-- The files have not changed, apart from directories on the way to a path, made where nothing
was. -/
structure OnlyPrepares (before after : FileSystem) (path : Path) : Prop where
  workingDirectory : after.workingDirectory = before.workingDirectory
  entry : ∀ location, after.entryAt location = before.entryAt location ∨
    (before.OnTheWay path location ∧ before.entryAt location = none ∧
      after.entryAt location = some .directory)

variable {files before between after extended : FileSystem} {path shorter : Path}
  {location : Location} {fault : FileFault}

theorem OnTheWay.extend (above : files.OnTheWay shorter location)
    (sameAnchor : shorter.anchor = path.anchor) (initial : shorter.steps <+: path.steps) :
    files.OnTheWay path location := by
  obtain ⟨steps, part, rfl⟩ := above
  refine ⟨steps, part.trans initial, ?_⟩
  rw [origin, origin, sameAnchor]

namespace OnlyPrepares

theorem refl (files : FileSystem) (path : Path) : files.OnlyPrepares files path :=
  ⟨rfl, fun _ => .inl rfl⟩

theorem keepsDirectories (prepared : before.OnlyPrepares after path) :
    before.KeepsDirectories after where
  workingDirectory := prepared.workingDirectory
  isDirectory location found := by
    rcases prepared.entry location with same | ⟨-, -, made⟩
    · exact same.trans found
    · exact made

theorem trans (first : before.OnlyPrepares between path)
    (second : between.OnlyPrepares after path) : before.OnlyPrepares after path where
  workingDirectory := second.workingDirectory.trans first.workingDirectory
  entry location := by
    rcases second.entry location with same | ⟨onTheWay, absent, made⟩
    · rw [same]
      exact first.entry location
    · rcases first.entry location with before | ⟨earlier, was, -⟩
      · obtain ⟨steps, initial, rfl⟩ := onTheWay
        rw [first.keepsDirectories.origin] at before absent made ⊢
        exact .inr ⟨⟨steps, initial, rfl⟩, before.symm.trans absent, made⟩
      · exact .inr ⟨earlier, was, made⟩

theorem extend (prepared : before.OnlyPrepares after shorter)
    (sameAnchor : shorter.anchor = path.anchor) (initial : shorter.steps <+: path.steps) :
    before.OnlyPrepares after path where
  workingDirectory := prepared.workingDirectory
  entry location := (prepared.entry location).imp_right fun ⟨onTheWay, made⟩ =>
    ⟨onTheWay.extend sameAnchor initial, made⟩

end OnlyPrepares

/-! ## One directory -/

/-- A path that ends with a name is made of the steps to its parent and the name. -/
theorem followAll_of_named {parent : Location} {name : String}
    (led : files.placeOf path = .ok (.named parent name)) :
    ∃ earlier, path.steps = earlier ++ [name] ∧ name ≠ Path.upward ∧
      files.followAll (files.origin path) earlier = .ok parent := by
  obtain ⟨-, -, found⟩ := placeOf_eq_ok_iff.1 led
  rcases List.eq_nil_or_concat path.steps with empty | ⟨earlier, last, shape⟩
  · rw [empty, placeFrom] at found
    cases found
  · rw [List.concat_eq_append] at shape
    rw [shape] at found
    obtain ⟨above, walked, place⟩ := placeFrom_append_eq_ok found
    by_cases back : last = Path.upward
    · rw [lastPlace, if_pos back] at place
      cases place
    · rw [lastPlace, if_neg back] at place
      cases place
      exact ⟨earlier, shape, back, walked⟩

theorem makeDirectory_of_named {parent : Location} {name : String}
    (led : files.placeOf path = .ok (.named parent name)) :
    files.makeDirectory path =
      if nameLimit < name.utf8ByteSize then .error .nameTooLong
      else match files.entryAt (parent ++ [name]) with
        | some _ => .error .alreadyExists
        | none => .ok (files.put (parent ++ [name]) .directory) := by
  rw [makeDirectory, led]
  show Except.bind (locationIn parent name) _ = _
  rw [locationIn]
  by_cases long : nameLimit < name.utf8ByteSize
  · rw [if_pos long, if_pos long]
    rfl
  · rw [if_neg long, if_neg long]
    cases found : files.entryAt (parent ++ [name]) <;> simp only [Except.bind, found] <;> rfl

/-- A directory that is made is at a location where nothing was, and the path reaches it. -/
theorem eq_put_of_makeDirectory (made : files.makeDirectory path = .ok extended) :
    files.entryAt (files.destination path) = none ∧ files.destination path ≠ [] ∧
      extended = files.put (files.destination path) .directory ∧
        extended.Reaches path (files.destination path) := by
  cases led : files.placeOf path with
  | error fault =>
    rw [makeDirectory, led] at made
    cases made
  | ok place =>
    obtain ⟨readable, -, -⟩ := placeOf_eq_ok_iff.1 led
    cases place with
    | directory location =>
      rw [makeDirectory, led] at made
      cases made
    | named parent name =>
      rw [makeDirectory_of_named led] at made
      obtain ⟨earlier, shape, forward, walked⟩ := followAll_of_named led
      have destination : files.destination path = parent ++ [name] := by
        rw [FileSystem.destination, shape, Location.walked_append, ← followAll_eq_ok walked,
          Location.stepped, if_neg forward]
      have below : parent ++ [name] ≠ [] := by simp
      by_cases long : nameLimit < name.utf8ByteSize
      · rw [if_pos long] at made
        cases made
      rw [if_neg long] at made
      cases found : files.entryAt (parent ++ [name]) with
      | some entry =>
        rw [found] at made
        cases made
      | none =>
        have put : files.put (parent ++ [name]) .directory = extended := by
          rw [found] at made
          exact Except.ok.inj made
        have kept : files.KeepsDirectories extended := by
          refine ⟨by rw [← put]; rfl, ?_⟩
          intro location isDirectory
          rw [← put, entryAt_put files below]
          split
          · rfl
          · exact isDirectory
        have present : extended.entryAt (parent ++ [name]) = some .directory := by
          rw [← put, entryAt_put files below, if_pos rfl]
        rw [destination]
        refine ⟨found, below, put.symm, readable, ?_, present⟩
        rw [kept.origin, shape, followAll_append_of_ok (kept.followAll walked),
          follow_of_isDirectory forward (Nat.not_lt.1 long) present]

theorem makeDirectoryIfNeeded_eq_ok (made : files.makeDirectoryIfNeeded path = .ok extended) :
    files.OnlyPrepares extended path ∧ extended.Reaches path (files.destination path) := by
  cases tried : files.makeDirectory path with
  | ok complete =>
    rw [makeDirectoryIfNeeded, tried] at made
    obtain ⟨absent, below, put, reached⟩ := eq_put_of_makeDirectory (tried.trans made)
    refine ⟨⟨by rw [put]; rfl, ?_⟩, reached⟩
    intro location
    rw [put, entryAt_put files below]
    by_cases here : location = files.destination path
    · rw [if_pos here, here]
      exact .inr ⟨⟨path.steps, List.prefix_refl _, rfl⟩, absent, rfl⟩
    · rw [if_neg here]
      exact .inl rfl
  | error fault =>
    simp only [makeDirectoryIfNeeded, tried] at made
    by_cases leads : files.leadsToDirectory path = true
    · rw [if_pos leads] at made
      cases made
      exact ⟨.refl files path, reaches_of_leadsToDirectory leads⟩
    · rw [if_neg leads] at made
      cases made

theorem makeDirectoryIfNeeded_of_null (null : '\x00' ∈ path.render.toList) :
    files.makeDirectoryIfNeeded path = .error .embeddedNull := by
  have led : files.placeOf path = .error .embeddedNull := placeOf_of_null null
  have tried : files.makeDirectory path = .error .embeddedNull := by
    rw [makeDirectory, led]
    rfl
  have leads : files.leadsToDirectory path = false := by rw [leadsToDirectory, led]
  simp only [makeDirectoryIfNeeded, tried, leads, Bool.false_eq_true, if_false]

theorem makeDirectoryIfNeeded_ne_embeddedNull (files : FileSystem)
    (readable : '\x00' ∉ path.render.toList) :
    files.makeDirectoryIfNeeded path ≠ .error .embeddedNull := by
  have tried : files.makeDirectory path ≠ .error .embeddedNull := by
    cases led : files.placeOf path with
    | error fault =>
      rw [makeDirectory, led]
      intro refused
      obtain rfl : fault = .embeddedNull := Except.error.inj refused
      exact placeOf_ne_embeddedNull readable led
    | ok place =>
      cases place with
      | directory location =>
        rw [makeDirectory, led]
        nofun
      | named parent name =>
        rw [makeDirectory_of_named led]
        split
        · nofun
        · split <;> nofun
  cases attempt : files.makeDirectory path with
  | ok complete => simp [makeDirectoryIfNeeded, attempt]
  | error fault =>
    simp only [makeDirectoryIfNeeded, attempt]
    split
    · nofun
    · rwa [attempt] at tried

/-! ## All directories on the way -/

theorem makeDirectoriesTo_of_fault {anchor : Anchor} {last : String} {above : List String}
    (made : files.makeDirectoryIfNeeded ⟨anchor, (last :: above).reverse⟩ = .error fault)
    (other : fault ≠ .missing) :
    files.makeDirectoriesTo anchor (last :: above) = (.error fault, files) := by
  rw [makeDirectoriesTo, made]
  cases fault with
  | missing => exact absurd rfl other
  | _ => rfl

/-- A missing parent is made first, with all above it, and then the directory is tried again. -/
theorem makeDirectoriesTo_of_missing {anchor : Anchor} {last : String} {above : List String}
    (made : files.makeDirectoryIfNeeded ⟨anchor, (last :: above).reverse⟩ = .error .missing) :
    ∃ extended : FileSystem,
      (∃ fault, files.makeDirectoriesTo anchor above = (.error fault, extended) ∧
        files.makeDirectoriesTo anchor (last :: above) = (.error fault, extended)) ∨
      files.makeDirectoriesTo anchor above = (.ok (), extended) ∧
        ((∃ complete,
          extended.makeDirectoryIfNeeded ⟨anchor, (last :: above).reverse⟩ = .ok complete ∧
            files.makeDirectoriesTo anchor (last :: above) = (.ok (), complete)) ∨
        ∃ fault,
          extended.makeDirectoryIfNeeded ⟨anchor, (last :: above).reverse⟩ = .error fault ∧
            files.makeDirectoriesTo anchor (last :: above) = (.error fault, extended)) := by
  cases aboveMade : files.makeDirectoriesTo anchor above with
  | mk answer extended =>
    refine ⟨extended, ?_⟩
    cases answer with
    | error fault =>
      refine .inl ⟨fault, rfl, ?_⟩
      simp only [makeDirectoriesTo, made, aboveMade]
    | ok _ =>
      refine .inr ⟨rfl, ?_⟩
      cases again : extended.makeDirectoryIfNeeded ⟨anchor, (last :: above).reverse⟩ with
      | ok complete =>
        refine .inl ⟨complete, rfl, ?_⟩
        simp only [makeDirectoriesTo, made, aboveMade, again]
      | error fault =>
        refine .inr ⟨fault, rfl, ?_⟩
        simp only [makeDirectoriesTo, made, aboveMade, again]

theorem makeDirectoriesTo_prepares (files : FileSystem) (anchor : Anchor)
    (reversed : List String) :
    files.OnlyPrepares (files.makeDirectoriesTo anchor reversed).2 ⟨anchor, reversed.reverse⟩ ∧
      ((files.makeDirectoriesTo anchor reversed).1 = .ok () →
        (files.makeDirectoriesTo anchor reversed).2.Reaches ⟨anchor, reversed.reverse⟩
          (files.destination ⟨anchor, reversed.reverse⟩)) := by
  induction reversed with
  | nil =>
    rw [makeDirectoriesTo]
    cases made : files.makeDirectoryIfNeeded ⟨anchor, []⟩ with
    | ok extended =>
      obtain ⟨prepared, reached⟩ := makeDirectoryIfNeeded_eq_ok made
      exact ⟨prepared, fun _ => reached⟩
    | error fault => exact ⟨.refl files _, nofun⟩
  | cons last above ih =>
    have initial : above.reverse <+: (last :: above).reverse := by simp
    cases made : files.makeDirectoryIfNeeded ⟨anchor, (last :: above).reverse⟩ with
    | ok extended =>
      obtain ⟨prepared, reached⟩ := makeDirectoryIfNeeded_eq_ok made
      rw [makeDirectoriesTo, made]
      exact ⟨prepared, fun _ => reached⟩
    | error fault =>
      by_cases missing : fault = .missing
      · subst missing
        obtain ⟨aboveOnly, -⟩ := ih
        obtain ⟨extended, ⟨fault, aboveMade, whole⟩ | ⟨aboveMade, again⟩⟩ :=
          makeDirectoriesTo_of_missing made
        · rw [aboveMade] at aboveOnly
          rw [whole]
          exact ⟨aboveOnly.extend rfl initial, nofun⟩
        · rw [aboveMade] at aboveOnly
          have only : files.OnlyPrepares extended ⟨anchor, (last :: above).reverse⟩ :=
            aboveOnly.extend rfl initial
          rcases again with ⟨complete, again, whole⟩ | ⟨fault, again, whole⟩
          · obtain ⟨prepared, reached⟩ := makeDirectoryIfNeeded_eq_ok again
            rw [only.keepsDirectories.destination] at reached
            rw [whole]
            exact ⟨only.trans prepared, fun _ => reached⟩
          · rw [whole]
            exact ⟨only, nofun⟩
      · rw [makeDirectoriesTo_of_fault made missing]
        exact ⟨.refl files _, nofun⟩

/-- **Making directories adds directories on the way and changes nothing else.** -/
theorem makeDirectories_onlyPrepares (files : FileSystem) (path : Path) :
    files.OnlyPrepares (files.makeDirectories path).2 path := by
  have prepares := (makeDirectoriesTo_prepares files path.anchor path.steps.reverse).1
  rwa [List.reverse_reverse] at prepares

/-- **Directories that could be made are there.** -/
theorem reaches_of_makeDirectories {prepared : FileSystem}
    (made : files.makeDirectories path = (.ok (), prepared)) :
    prepared.Reaches path (files.destination path) := by
  have reaches := (makeDirectoriesTo_prepares files path.anchor path.steps.reverse).2
  rw [List.reverse_reverse] at reaches
  rw [makeDirectories] at made
  rw [made] at reaches
  exact reaches rfl

/-! ## Paths with the null character -/

theorem makeDirectories_of_null (null : '\x00' ∈ path.render.toList) :
    files.makeDirectories path = (.error .embeddedNull, files) := by
  obtain ⟨step, member, -⟩ := Path.null_mem_render_iff.1 null
  obtain ⟨last, above, shape⟩ := List.exists_cons_of_ne_nil
    (mt List.reverse_eq_nil_iff.1 (List.ne_nil_of_mem member))
  have same : path = ⟨path.anchor, (last :: above).reverse⟩ := by
    rw [← shape, List.reverse_reverse]
  rw [makeDirectories, shape]
  rw [same] at null
  exact makeDirectoriesTo_of_fault (makeDirectoryIfNeeded_of_null null) nofun

theorem makeDirectoriesTo_ne_embeddedNull (files : FileSystem) (anchor : Anchor)
    (reversed : List String) (readable : ∀ step ∈ reversed, '\x00' ∉ step.toList) :
    (files.makeDirectoriesTo anchor reversed).1 ≠ .error .embeddedNull := by
  have whole : '\x00' ∉ (⟨anchor, reversed.reverse⟩ : Path).render.toList := by
    intro null
    obtain ⟨step, member, inside⟩ := Path.null_mem_render_iff.1 null
    exact readable step (List.mem_reverse.1 member) inside
  induction reversed with
  | nil =>
    have here := makeDirectoryIfNeeded_ne_embeddedNull files whole
    rw [makeDirectoriesTo]
    cases made : files.makeDirectoryIfNeeded ⟨anchor, []⟩ with
    | ok extended => nofun
    | error fault =>
      intro refused
      obtain rfl : fault = .embeddedNull := Except.error.inj refused
      exact here made
  | cons last above ih =>
    have shorter := ih (fun step member => readable step (List.mem_cons_of_mem last member))
      fun null => by
        obtain ⟨step, member, inside⟩ := Path.null_mem_render_iff.1 null
        exact readable step (List.mem_cons_of_mem last (List.mem_reverse.1 member)) inside
    cases made : files.makeDirectoryIfNeeded ⟨anchor, (last :: above).reverse⟩ with
    | ok extended =>
      rw [makeDirectoriesTo, made]
      nofun
    | error fault =>
      by_cases missing : fault = .missing
      · subst missing
        obtain ⟨extended, ⟨fault, aboveMade, result⟩ | ⟨aboveMade, again⟩⟩ :=
          makeDirectoriesTo_of_missing made
        · rw [aboveMade] at shorter
          rwa [result]
        · rcases again with ⟨complete, again, result⟩ | ⟨fault, again, result⟩
          · rw [result]
            nofun
          · have here := makeDirectoryIfNeeded_ne_embeddedNull extended whole
            rw [result]
            intro refused
            obtain rfl : fault = .embeddedNull := Except.error.inj refused
            exact here again
      · have here := makeDirectoryIfNeeded_ne_embeddedNull files whole
        rw [makeDirectoriesTo_of_fault made missing]
        intro refused
        obtain rfl : fault = .embeddedNull := Except.error.inj refused
        exact here made

/-- Only a path with the null character is refused for its text. -/
theorem makeDirectories_ne_embeddedNull (files : FileSystem)
    (readable : '\x00' ∉ path.render.toList) :
    (files.makeDirectories path).1 ≠ .error .embeddedNull := by
  refine makeDirectoriesTo_ne_embeddedNull files path.anchor path.steps.reverse ?_
  intro step member inside
  exact readable (Path.null_mem_render_iff.2 ⟨step, List.mem_reverse.1 member, inside⟩)

end MexBridge.FileSystem
