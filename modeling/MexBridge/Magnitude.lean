/-!
# Magnitudes

Numbers are integers without bounds, and two uses of them have limits.  What selects or repeats has
to be a signed word of sixty-four bits, and what is written out has at most `digitLimit` decimal
digits.
-/

namespace MexBridge

set_option autoImplicit false

/-- The first number that is too great for a signed word of sixty-four bits. -/
def wordBound : Int := 0x8000000000000000

/-- Whether a number is a signed word of sixty-four bits. -/
def fitsWord (value : Int) : Bool :=
  decide (-wordBound ≤ value) && decide (value < wordBound)

/-- The most decimal digits that a written number may have, its sign not counted. -/
def digitLimit : Nat := 4300

/-- The first natural number that has too many digits to be written. -/
def writingBound : Nat := Nat.pow 10 digitLimit

/-- Whether a number can be written in decimal digits. -/
def isWritable (value : Int) : Bool :=
  decide (value.natAbs < writingBound)

theorem isWritable_iff {value : Int} : isWritable value = true ↔ value.natAbs < writingBound := by
  simp [isWritable]

/-- Why a number cannot be used. -/
inductive MagnitudeFault
  | notAWord
  | tooManyDigits
  deriving DecidableEq

/-- The complaint about a number. -/
def MagnitudeFault.message : MagnitudeFault → String
  | notAWord => "cannot fit 'int' into an index-sized integer"
  | tooManyDigits =>
    "Exceeds the limit (" ++ toString digitLimit ++ " digits) for integer string conversion; " ++
      "use sys.set_int_max_str_digits() to increase the limit"

end MexBridge
