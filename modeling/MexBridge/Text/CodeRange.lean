/-!
# Sets of characters given by ranges of code points

A character class of the Unicode standard is written here as a list of closed ranges of code
points.  `CodeRange.inAny` decides membership, and `CodeRange.inAny_iff` says what it decides:
some range of the list holds the code point.
-/

namespace MexBridge

set_option autoImplicit false

/-- The code points from `first` to `last`, both included. -/
structure CodeRange where
  first : Nat
  last : Nat
  deriving DecidableEq

namespace CodeRange

/-- Whether a code point lies in the range. -/
def holds (range : CodeRange) (code : Nat) : Bool :=
  decide (range.first ≤ code) && decide (code ≤ range.last)

/-- Whether a code point lies in one of the ranges. -/
def inAny (ranges : List CodeRange) (code : Nat) : Bool :=
  ranges.any fun range => range.holds code

theorem holds_iff {range : CodeRange} {code : Nat} :
    range.holds code = true ↔ range.first ≤ code ∧ code ≤ range.last := by
  simp [holds]

theorem inAny_iff {ranges : List CodeRange} {code : Nat} :
    inAny ranges code = true ↔ ∃ range ∈ ranges, range.first ≤ code ∧ code ≤ range.last := by
  simp [inAny, holds_iff]

end CodeRange

end MexBridge
