/-
# Values

The values that are bound to the columns of a row. Floating-point numbers are kept as the bits of
their binary formats, and compared as numbers.
-/

import Rowsmith.Value.Instant

namespace Rowsmith

/-- Whether `bits` is no number, in a binary format with the given widths of exponent and
fraction. -/
def isNotANumber (exponentWidth fractionWidth bits : Nat) : Bool :=
  (bits >>> fractionWidth) % (1 <<< exponentWidth) == (1 <<< exponentWidth) - 1 &&
    bits % (1 <<< fractionWidth) != 0

/-- Whether two numbers in a binary format are equal. What is no number equals nothing, and the two
zeros are equal. -/
def sameNumber (exponentWidth fractionWidth a b : Nat) : Bool :=
  !isNotANumber exponentWidth fractionWidth a && !isNotANumber exponentWidth fractionWidth b &&
    (a == b || a % (1 <<< (exponentWidth + fractionWidth)) == 0 &&
      b % (1 <<< (exponentWidth + fractionWidth)) == 0)

/-- A value for a column. -/
inductive Value where
  | bool (b : Bool)
  | int32 (n : Int32)
  | int64 (n : Int64)
  | float32 (bits : UInt32)
  | float64 (bits : UInt64)
  | text (s : String)
  | bytes (bs : List UInt8)
  | timestamp (t : Instant)
  deriving DecidableEq

/-- Whether two values are equal, numbers as numbers. -/
def Value.same : Value → Value → Bool
  | float32 a, float32 b => sameNumber 8 23 a.toNat b.toNat
  | float64 a, float64 b => sameNumber 11 52 a.toNat b.toNat
  | a, b => a = b

end Rowsmith
