import MexBridge.Proxy.Function
import MexBridge.Registry.Declaration
import Mathlib.Data.List.Basic

/-!
# The tests of a branch

A branch tests the number of values and then the class of each.  `BranchTest.ofTags` lists these
tests, `branchCondition_eq` says that the printed condition is their conjunction, and
`BranchTest.Holds` says when one of them holds for given values; what it means that a value is of a
class is left to a relation.

An overload accepts values if they are as many as its arguments and each is of the class at its
place.  The tests for its tags hold exactly for the values that it accepts (`forall_holds_iff`).
-/

set_option autoImplicit false

namespace MexBridge

universe u

variable {Value : Type u} {isa : Value → String → Prop} {values : List Value}

/-- A test in the condition of a branch; places are counted from one. -/
inductive BranchTest
  | count (arity : Nat)
  | isClass (place : Nat) (tag : String)
  deriving DecidableEq

namespace BranchTest

/-- The test as a text. -/
def text : BranchTest → String
  | count arity => "length(varargin) == " ++ toString arity
  | isClass place tag => classTest place tag

/-- When a test holds for the values of a call. -/
def Holds (isa : Value → String → Prop) (values : List Value) : BranchTest → Prop
  | count arity => values.length = arity
  | isClass place tag => ∃ (index : Nat) (value : Value),
    place = index + 1 ∧ values[index]? = some value ∧ isa value tag

/-- The tests for some tags: their number, and then one after the other from the first place on. -/
def ofTags (tags : List String) : List BranchTest :=
  .count tags.length :: (tags.zipIdx 1).map fun (tag, place) => .isClass place tag

theorem isClass_mem_ofTags_iff {tags : List String} {place : Nat} {tag : String} :
    .isClass (place + 1) tag ∈ ofTags tags ↔ tags[place]? = some tag := by
  have numbered : (tag, place + 1) ∈ tags.zipIdx 1 ↔ tags[place]? = some tag := by
    rw [List.mk_mem_zipIdx_iff_le_and_getElem?_sub]
    simp
  rw [← numbered, ofTags, List.mem_cons, List.mem_map]
  constructor
  · rintro (impossible | ⟨⟨_, _⟩, listed, same⟩)
    · cases impossible
    · cases same
      exact listed
  · exact fun listed => .inr ⟨_, listed, rfl⟩

end BranchTest

/-- **The condition of a branch is the conjunction of its tests.** -/
theorem branchCondition_eq (tags : List String) :
    branchCondition tags =
      String.intercalate " && " ((BranchTest.ofTags tags).map BranchTest.text) := by
  have classes : (tags.mapIdx fun index tag => classTest (index + 1) tag) =
      ((tags.zipIdx 1).map fun (tag, place) => BranchTest.isClass place tag).map
        BranchTest.text := by
    rw [List.mapIdx_eq_zipIdx_map, List.zipIdx_succ, List.map_map, List.map_map]
    rfl
  unfold branchCondition
  rw [classes]
  rfl

/-- An overload accepts values of its arity, each of the class at its place. -/
def Overload.Accepts (isa : Value → String → Prop) (values : List Value) (overload : Overload) :
    Prop :=
  overload.arity = values.length ∧
    ∀ (index : Nat) (value : Value) (tag : String), values[index]? = some value →
      overload.tags[index]? = some tag → isa value tag

/-- The first overload that accepts values, and its index. -/
structure StaticMethod.Selects (declared : StaticMethod) (isa : Value → String → Prop)
    (values : List Value) (index : Nat) (overload : Overload) : Prop where
  listed : declared.overloads[index]? = some overload
  accepts : overload.Accepts isa values
  first : ∀ earlier < index, ∀ other, declared.overloads[earlier]? = some other →
    ¬ other.Accepts isa values

/-- **The tests for the tags of an overload hold exactly for the values that it accepts.** -/
theorem BranchTest.forall_holds_iff {overload : Overload} :
    (∀ test ∈ ofTags overload.tags, test.Holds isa values) ↔ overload.Accepts isa values := by
  constructor
  · intro holds
    have count : values.length = overload.tags.length := holds (.count _) List.mem_cons_self
    refine ⟨by rw [count, overload.length_tags], fun index value tag atValue atTag => ?_⟩
    obtain ⟨other, found, place, atOther, isTag⟩ := holds _ (isClass_mem_ofTags_iff.2 atTag)
    cases place
    rw [atValue] at atOther
    cases atOther
    exact isTag
  · rintro ⟨count, classes⟩ test member
    rw [← overload.length_tags] at count
    rcases List.mem_cons.1 member with rfl | listed
    · exact count.symm
    · obtain ⟨⟨tag, place⟩, numbered, rfl⟩ := List.mem_map.1 listed
      obtain ⟨first, found⟩ := List.mk_mem_zipIdx_iff_le_and_getElem?_sub.1 numbered
      obtain ⟨below, _⟩ := List.getElem?_eq_some_iff.1 found
      have inside : place - 1 < values.length := count ▸ below
      exact ⟨place - 1, values[place - 1], (Nat.sub_add_cancel first).symm,
        List.getElem?_eq_getElem inside,
        classes _ _ _ (List.getElem?_eq_getElem inside) found⟩

end MexBridge
