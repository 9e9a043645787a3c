import MexBridge.Proofs.Proxy.BranchConditions
import MexBridge.Proofs.Proxy.Dispatch
import MexBridge.Proofs.Text.Between

/-!
# Reading a condition as its tests

The condition of a branch is a text, and MATLAB sees nothing else of the branch.
`Condition.tests?` reads it: the number that is counted, and then each class test, whose tag stands
between two apostrophes.  A literal ends at the next apostrophe, whatever the tag was that was
written there; a text that is no such conjunction is not read.

If no tag holds an apostrophe, a conjunction is read as its tests (`tests?_conjunction`), and the
condition of a branch holds for the values that its overload accepts
(`holds_branchCondition_iff`).  A tag with an apostrophe can be read as two tests, which is what
`tests?_quoted` shows.
-/

set_option autoImplicit false

namespace MexBridge

universe u

/-! ## Reading tests -/

namespace Condition

/-- The place that a class test names in front of its tag, behind the end of the test before. -/
def place? (closing : String) (code : List Char) : Option Nat := do
  let digits ← Text.between? (closing ++ " && isa(varargin\x7b") "\x7d," (String.ofList code)
  Text.numeral? digits.toList

/-- The class tests in a text that was cut at its apostrophes: every second piece is a tag, and the
pieces around it are the test. -/
def classTests? (closing : String) : List (List Char) → Option (List BranchTest)
  | [] => none
  | [ending] => if ending = closing.toList then some [] else none
  | code :: tag :: rest => do
    let place ← place? closing code
    let later ← classTests? ")" rest
    return .isClass place (String.ofList tag) :: later

/-- The tests of a condition: the number of values, and the class tests behind it. -/
def tests? (condition : String) : Option (List BranchTest) := do
  let counted ← Text.between? "length(varargin) == " "" condition
  let arity ← Text.numeral? (counted.toList.takeWhile Char.isDigit)
  let classes ← classTests? ""
    (Text.splitOnCharacter Text.apostrophe (counted.toList.dropWhile Char.isDigit))
  return .count arity :: classes

/-- A condition holds for values if it can be read, and all of its tests hold. -/
def Holds {Value : Type u} (isa : Value → String → Prop) (values : List Value)
    (condition : String) : Prop :=
  ∃ tests, tests? condition = some tests ∧ ∀ test ∈ tests, test.Holds isa values

/-! ## Conjunctions are read as their tests -/

theorem place?_opening (closing : String) (place : Nat) :
    place? closing (closing.toList ++ (" && " ++ classTestOpening place).toList) = some place := by
  have written : String.ofList (closing.toList ++ (" && " ++ classTestOpening place).toList) =
      closing ++ " && isa(varargin\x7b" ++ toString place ++ "\x7d," := by
    apply String.toList_inj.1
    rw [String.toList_ofList]
    simp [toList_classTestOpening]
  rw [place?, written, Text.between?_append]
  exact Text.numeral?_toString place

/-- Class tests are read as their tags at their places. -/
theorem classTests?_furtherTests {closing : String} (plain : Text.apostrophe ∉ closing.toList)
    {tests : List (String × Nat)} (unquoted : Unquoted (tests.map Prod.fst)) :
    classTests? closing
        (Text.splitOnCharacter Text.apostrophe (closing.toList ++ furtherTests tests)) =
      some (tests.map fun (tag, place) => .isClass place tag) := by
  induction tests generalizing closing with
  | nil =>
    rw [furtherTests, List.append_nil, Text.splitOnCharacter_of_not_mem plain, classTests?,
      if_pos rfl]
    rfl
  | cons test rest ih =>
    obtain ⟨own, later⟩ := List.forall_mem_cons.1 unquoted
    have opening := apostrophe_not_mem_opening plain test.2
    -- the closing parenthesis of this test belongs to the piece in front of the next tag
    have behind : Text.apostrophe ∉ ")".toList := by decide
    have parenthesis : ")".toList = [')'] := by decide
    have tested := ih behind later
    rw [parenthesis, List.singleton_append] at tested
    rw [furtherTests, ← List.append_assoc, Text.splitOnCharacter_append_cons opening,
      Text.splitOnCharacter_append_cons own, classTests?, place?_opening, tested]
    simp

/-- Digits are cut off from class tests, which begin with a blank. -/
theorem takeWhile_digits (number : Nat) (tests : List (String × Nat)) :
    ((toString number).toList ++ furtherTests tests).takeWhile Char.isDigit =
        (toString number).toList ∧
      ((toString number).toList ++ furtherTests tests).dropWhile Char.isDigit =
        furtherTests tests := by
  have digits : ∀ digit ∈ (toString number).toList, digit.isDigit = true :=
    fun _ => Text.isDigit_of_mem_toString
  rw [List.takeWhile_append_of_pos digits, List.dropWhile_append_of_pos digits]
  cases tests with
  | nil => simp [furtherTests]
  | cons test rest => simp [furtherTests, show ' '.isDigit = false by decide]

/-- **A conjunction is read as its tests** if no tag holds an apostrophe. -/
theorem tests?_conjunction (arity : Nat) {tests : List (String × Nat)}
    (unquoted : Unquoted (tests.map Prod.fst)) :
    tests? (String.intercalate " && " ((BranchTest.count arity ::
        tests.map fun (tag, place) => .isClass place tag).map BranchTest.text)) =
      some (.count arity :: tests.map fun (tag, place) => .isClass place tag) := by
  obtain ⟨front, back⟩ := takeWhile_digits arity tests
  have classes : (tests.map fun (tag, place) => BranchTest.isClass place tag).map BranchTest.text =
      tests.map fun test => classTest test.2 test.1 := by
    rw [List.map_map]
    rfl
  have whole : Text.between? "length(varargin) == " "" (String.intercalate " && "
      ((BranchTest.count arity :: tests.map fun (tag, place) => .isClass place tag).map
        BranchTest.text)) =
      some (String.ofList ((toString arity).toList ++ furtherTests tests)) := by
    have count : (BranchTest.count arity).text = "length(varargin) == " ++ toString arity := rfl
    rw [Text.between?_eq_some_iff, List.map_cons, classes, count, ← String.toList_inj,
      toList_intercalate_classTests]
    simp only [String.append_empty, String.toList_append, String.toList_ofList, List.append_assoc]
  have plain : Text.apostrophe ∉ "".toList := by decide
  have empty : "".toList = [] := by decide
  have read := classTests?_furtherTests plain unquoted
  rw [empty, List.nil_append] at read
  rw [tests?, whole]
  simp only [Option.bind_eq_bind, Option.bind_some, String.toList_ofList, front, back, read,
    Text.numeral?_toString, Option.pure_def]

/-- **The condition of a branch is read as the tests for its tags.** -/
theorem tests?_branchCondition {tags : List String} (unquoted : Unquoted tags) :
    tests? (branchCondition tags) = some (BranchTest.ofTags tags) := by
  have tested : (tags.zipIdx 1).map Prod.fst = tags := List.zipIdx_map_fst 1 tags
  rw [branchCondition_eq]
  exact tests?_conjunction tags.length (tested.symm ▸ unquoted)

/-- **The condition of a branch holds for the values that its overload accepts.** -/
theorem holds_branchCondition_iff {Value : Type u} {isa : Value → String → Prop}
    {values : List Value} {overload : Overload} (unquoted : Unquoted overload.tags) :
    Holds isa values (branchCondition overload.tags) ↔ overload.Accepts isa values := by
  rw [Holds, tests?_branchCondition unquoted, ← BranchTest.forall_holds_iff]
  simp

/-- A tag that closes the literal in which it is written is read as two tests. -/
theorem tests?_quoted :
    tests? (branchCondition ["a') && isa(varargin\x7b1\x7d,'b"]) =
      some [.count 1, .isClass 1 "a", .isClass 1 "b"] := by
  let tests : List (String × Nat) := [("a", 1), ("b", 1)]
  have printed : branchCondition ["a') && isa(varargin\x7b1\x7d,'b"] =
      String.intercalate " && " ((BranchTest.count 1 ::
        tests.map fun (tag, place) => .isClass place tag).map BranchTest.text) := by decide
  have unquoted : Unquoted (tests.map Prod.fst) := by decide
  rw [printed]
  exact tests?_conjunction 1 unquoted

end Condition

end MexBridge
