import MexBridge.Proxy.Function
import MexBridge.Proofs.Signature.Shadowing
import MexBridge.Proofs.Text.Between
import MexBridge.Proofs.Text.Pieces
import MexBridge.Text.Quoted

/-!
# Reading a branch condition

The condition of a branch names every tag between two apostrophes, and the text around the tags has
no apostrophes of its own.  If the tags have none either, then cutting the condition at the
apostrophes gives the tags at every second place, whatever else they hold (`conditionKey_eq`).  So
the condition and the dispatch key of such an overload determine each other, and the report of
shadowed overloads is the report of repeated conditions (`branchConditions_decode`).

Tags with apostrophes can end a test and begin the next one, so that two different lists of tags
may have one condition.
-/

set_option autoImplicit false

namespace MexBridge

/-! ## The characters of a condition -/

/-- The tags hold no apostrophes. -/
def Unquoted (tags : List String) : Prop :=
  ∀ tag ∈ tags, Text.apostrophe ∉ tag.toList

instance (tags : List String) : Decidable (Unquoted tags) :=
  inferInstanceAs (Decidable (∀ tag ∈ tags, Text.apostrophe ∉ tag.toList))

/-- The text that a class test has in front of its tag and the apostrophe there. -/
def classTestOpening (place : Nat) : String :=
  "isa(varargin\x7b" ++ toString place ++ "\x7d,"

/-- Tests for tags at their places, each behind the conjunction sign. -/
def furtherTests : List (String × Nat) → List Char
  | [] => []
  | (tag, place) :: rest =>
    (" && " ++ classTestOpening place).toList ++ Text.apostrophe ::
      (tag.toList ++ Text.apostrophe :: ')' :: furtherTests rest)

theorem toList_classTestOpening (place : Nat) :
    (classTestOpening place).toList =
      "isa(varargin\x7b".toList ++ (toString place).toList ++ "\x7d,".toList := by
  have written : classTestOpening place = "isa(varargin\x7b" ++ toString place ++ "\x7d," := rfl
  rw [written, String.toList_append, String.toList_append]

theorem toList_classTest (place : Nat) (tag : String) :
    (classTest place tag).toList = (classTestOpening place).toList ++ Text.apostrophe ::
      (tag.toList ++ [Text.apostrophe, ')']) := by
  have opened : "\x7d,'".toList = "\x7d,".toList ++ [Text.apostrophe] := by decide
  have closed : "')".toList = [Text.apostrophe, ')'] := by decide
  have written : classTest place tag =
      "isa(varargin\x7b" ++ toString place ++ "\x7d,'" ++ tag ++ "')" := rfl
  rw [written, toList_classTestOpening]
  simp only [String.toList_append, opened, closed, List.append_assoc, List.cons_append,
    List.nil_append]

/-- The class tests behind a first test. -/
theorem toList_intercalate_classTests (first : String) (tests : List (String × Nat)) :
    (String.intercalate " && "
        (first :: tests.map fun test => classTest test.2 test.1)).toList =
      first.toList ++ furtherTests tests := by
  induction tests generalizing first with
  | nil => simp [furtherTests]
  | cons test rest ih =>
    rw [List.map_cons, String.intercalate_cons_cons, String.toList_append, ih, toList_classTest,
      furtherTests]
    simp

theorem toList_branchCondition (tags : List String) :
    (branchCondition tags).toList =
      ("length(varargin) == " ++ toString tags.length).toList ++
        furtherTests (tags.zipIdx 1) := by
  rw [← toList_intercalate_classTests, List.zipIdx_succ, List.map_map, branchCondition,
    List.mapIdx_eq_zipIdx_map]
  rfl

theorem apostrophe_not_mem_toString (number : Nat) :
    Text.apostrophe ∉ (toString number).toList := by
  intro member
  exact absurd (Text.isDigit_of_mem_toString member) (by decide)

theorem apostrophe_not_mem_classTestOpening (place : Nat) :
    Text.apostrophe ∉ (classTestOpening place).toList := by
  have front : Text.apostrophe ∉ "isa(varargin\x7b".toList := by decide
  have back : Text.apostrophe ∉ "\x7d,".toList := by decide
  rw [toList_classTestOpening, List.mem_append, List.mem_append, not_or, not_or]
  exact ⟨⟨front, apostrophe_not_mem_toString place⟩, back⟩

/-- What stands in front of a tag holds no apostrophe if nothing in front of the test does. -/
theorem apostrophe_not_mem_opening {front : List Char} (plain : Text.apostrophe ∉ front)
    (place : Nat) :
    Text.apostrophe ∉ front ++ (" && " ++ classTestOpening place).toList := by
  have conjunction : Text.apostrophe ∉ " && ".toList := by decide
  rw [String.toList_append, List.mem_append, List.mem_append, not_or, not_or]
  exact ⟨plain, conjunction, apostrophe_not_mem_classTestOpening place⟩

/-! ## Reading the tags back -/

/-- The elements at the odd places of a list. -/
def everySecond {α : Type} : List α → List α
  | _ :: second :: rest => second :: everySecond rest
  | _ => []

/-- The texts that stand between apostrophes in a condition. -/
def conditionTags (condition : String) : List String :=
  (everySecond (Text.splitOnCharacter Text.apostrophe condition.toList)).map String.ofList

/-- The dispatch key that a condition tests for: how many tags it names, and which. -/
def conditionKey (condition : String) : Nat × List String :=
  ((conditionTags condition).length, conditionTags condition)

/-- Behind text without apostrophes, the tags are what stands between apostrophes. -/
theorem everySecond_furtherTests {front : List Char} (plain : Text.apostrophe ∉ front)
    {tests : List (String × Nat)} (unquoted : Unquoted (tests.map Prod.fst)) :
    everySecond (Text.splitOnCharacter Text.apostrophe (front ++ furtherTests tests)) =
      tests.map fun test => test.1.toList := by
  induction tests generalizing front with
  | nil =>
    rw [furtherTests, List.append_nil, Text.splitOnCharacter_of_not_mem plain]
    rfl
  | cons test rest ih =>
    obtain ⟨own, later⟩ := List.forall_mem_cons.1 unquoted
    have opening := apostrophe_not_mem_opening plain test.2
    -- the closing parenthesis of this test is the front of the tests behind it
    have behind : Text.apostrophe ∉ [')'] := by decide
    have tested := ih behind later
    rw [List.singleton_append] at tested
    rw [furtherTests, ← List.append_assoc, Text.splitOnCharacter_append_cons opening,
      Text.splitOnCharacter_append_cons own, everySecond, tested, List.map_cons]

/-- **A condition names its tags**: they can be read back, in order. -/
theorem conditionTags_branchCondition {tags : List String} (unquoted : Unquoted tags) :
    conditionTags (branchCondition tags) = tags := by
  have plain : Text.apostrophe ∉
      ("length(varargin) == " ++ toString tags.length).toList := by
    rw [String.toList_append, List.mem_append, not_or]
    exact ⟨by decide, apostrophe_not_mem_toString tags.length⟩
  have tested : (tags.zipIdx 1).map Prod.fst = tags := List.zipIdx_map_fst 1 tags
  rw [conditionTags, toList_branchCondition,
    everySecond_furtherTests plain (tested.symm ▸ unquoted), List.map_map]
  exact (List.map_congr_left fun _ _ => String.ofList_toList).trans tested

theorem conditionKey_eq {overload : Overload} (unquoted : Unquoted overload.tags) :
    conditionKey (branchCondition overload.tags) = overload.dispatchKey := by
  rw [conditionKey, conditionTags_branchCondition unquoted, overload.length_tags]
  rfl

theorem branchCondition_eq_iff {first second : Overload} (firstUnquoted : Unquoted first.tags)
    (secondUnquoted : Unquoted second.tags) :
    branchCondition first.tags = branchCondition second.tags ↔
      first.dispatchKey = second.dispatchKey := by
  constructor
  · intro same
    have keys := congrArg conditionKey same
    rwa [conditionKey_eq firstUnquoted, conditionKey_eq secondUnquoted] at keys
  · intro same
    rw [Overload.dispatchKey_eq_iff.1 same]

/-- The report of shadowed overloads is the report of repeated conditions. -/
theorem shadowings_eq_repeatedConditions {overloads : List Overload}
    (unquoted : ∀ overload ∈ overloads, Unquoted overload.tags) :
    shadowings overloads =
      repeatedKeys (overloads.map fun overload => branchCondition overload.tags) := by
  have renamed : (overloads.map fun overload => branchCondition overload.tags) =
      (overloads.map Overload.dispatchKey).map fun key => branchCondition key.2 := by
    rw [List.map_map]
    rfl
  rw [renamed, repeatedKeys_map]
  · rfl
  · intro key isKey other isOther same
    obtain ⟨overload, listed, rfl⟩ := List.mem_map.1 isKey
    obtain ⟨earlier, earlierListed, rfl⟩ := List.mem_map.1 isOther
    exact (branchCondition_eq_iff (unquoted earlier earlierListed) (unquoted overload listed)).1
      same

/-- **Branch conditions decode to dispatch keys.**  If their tags hold no apostrophes, the key of an
overload can be read back from the condition of its branch, and two overloads have one condition
exactly if they have one key.  Hence the report of shadowed overloads is what a report of repeated
conditions would be: it lists the positions whose condition stands at an earlier position, too. -/
theorem branchConditions_decode :
    (∀ first second : Overload, Unquoted first.tags → Unquoted second.tags →
      conditionKey (branchCondition first.tags) = first.dispatchKey ∧
      (branchCondition first.tags = branchCondition second.tags ↔
        first.dispatchKey = second.dispatchKey)) ∧
    ∀ overloads : List Overload, (∀ overload ∈ overloads, Unquoted overload.tags) →
      shadowings overloads =
        repeatedKeys (overloads.map fun overload => branchCondition overload.tags) ∧
      ∀ position : Nat, position ∈ shadowedPositions overloads ↔
        ∃ earlier < position, ∃ first second, overloads[earlier]? = some first ∧
          overloads[position]? = some second ∧
          branchCondition first.tags = branchCondition second.tags := by
  refine ⟨fun first second firstUnquoted secondUnquoted =>
    ⟨conditionKey_eq firstUnquoted, branchCondition_eq_iff firstUnquoted secondUnquoted⟩, ?_⟩
  intro overloads unquoted
  have report := shadowings_eq_repeatedConditions unquoted
  refine ⟨report, fun position => ?_⟩
  rw [shadowedPositions, report, shadowed_mem_repeatedKeys_iff]
  simp only [List.getElem?_map, Option.map_eq_some_iff]
  constructor
  · rintro ⟨earlier, before, _, ⟨second, isSecond, rfl⟩, first, isFirst, same⟩
    exact ⟨earlier, before, first, second, isFirst, isSecond, same⟩
  · rintro ⟨earlier, before, first, second, isFirst, isSecond, same⟩
    exact ⟨earlier, before, _, ⟨second, isSecond, rfl⟩, first, isFirst, same⟩

/-- An overload without results for arguments of some types. -/
def taking (types : List String) : Overload where
  arguments := types.map fun type => { type := { base := type }, name := "value" }
  result := .shape { kind := .nothing }

/-- Tags that look like tests themselves are read back, and so are tags at places of two digits. -/
theorem branchConditions_decode_nested :
    conditionKey (branchCondition (taking ["a) && isa(varargin\x7b2\x7d,b", "c"]).tags) =
      (2, ["a) && isa(varargin\x7b2\x7d,b", "c"]) ∧
    branchCondition (taking ["a) && isa(varargin\x7b2\x7d,b", "c"]).tags ≠
      branchCondition (taking ["a", "b) && isa(varargin\x7b2\x7d,c"]).tags ∧
    repeatedKeys ([taking ["a", "b && c"], taking (List.replicate 11 "Point"),
        taking ["a && b", "c"], taking (List.replicate 11 "Point"), taking ["a", "b && c"]].map
      fun overload => branchCondition overload.tags) = [⟨3, 1⟩, ⟨4, 0⟩] := by
  obtain ⟨read, same⟩ := branchConditions_decode.1
    (taking ["a) && isa(varargin\x7b2\x7d,b", "c"])
    (taking ["a", "b) && isa(varargin\x7b2\x7d,c"]) (by decide) (by decide)
  obtain ⟨report, _⟩ := branchConditions_decode.2 [taking ["a", "b && c"],
    taking (List.replicate 11 "Point"), taking ["a && b", "c"],
    taking (List.replicate 11 "Point"), taking ["a", "b && c"]] (by decide)
  refine ⟨read, fun equal => absurd (same.1 equal) (by decide), ?_⟩
  rw [← report]
  decide

/-- Tags with apostrophes can end one test and begin the next, and then the condition does not tell
where a tag ends. -/
example : branchCondition (taking ["a') && isa(varargin\x7b2\x7d,'b", "c"]).tags =
      branchCondition (taking ["a", "b') && isa(varargin\x7b2\x7d,'c"]).tags ∧
    (taking ["a') && isa(varargin\x7b2\x7d,'b", "c"]).dispatchKey ≠
      (taking ["a", "b') && isa(varargin\x7b2\x7d,'c"]).dispatchKey := by decide

end MexBridge
