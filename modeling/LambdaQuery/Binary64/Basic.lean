/-!
# Binary floating-point numbers of 64 bits

A number is its word of 64 bits: a sign bit, an exponent field of 11 bits and a fraction of 52.
A field of zero marks a zero or subnormal number, a field of 2047 an infinity or a NaN.  Every
finite number is a whole multiple of `2 ^ -1074`, so its magnitude is a natural number in that
unit and all arithmetic on it is exact.

## Main definitions

* `LambdaQuery.Binary64` — a number as its bits.
* `LambdaQuery.Binary64.magnitude` — the distance of a finite number from zero, in units of
  `2 ^ -1074`.
* `LambdaQuery.Binary64.numericallyEqual` — equality of numbers: the two zeros are equal, and a
  NaN equals nothing.
-/

set_option autoImplicit false

namespace LambdaQuery

/-- A binary floating-point number of 64 bits. -/
structure Binary64 where
  /-- The word: sign, exponent field and fraction, the sign first. -/
  bits : UInt64
deriving DecidableEq

namespace Binary64

/-- The number of binary places that suffices to write every finite number exactly. -/
def binaryPlaces : Nat := 1074

/-- The word of the number, as a natural number below `2 ^ 64`. -/
def word (x : Binary64) : Nat := x.bits.toNat

/-- The sign bit is set. -/
def isNegative (x : Binary64) : Bool := Nat.pow 2 63 ≤ x.word

/-- The exponent field. -/
def field (x : Binary64) : Nat := x.word / Nat.pow 2 52 % Nat.pow 2 11

/-- The fraction. -/
def fraction (x : Binary64) : Nat := x.word % Nat.pow 2 52

/-- The number is not a number. -/
def isNaN (x : Binary64) : Bool := x.field == 2047 && x.fraction != 0

/-- The number is neither an infinity nor a NaN. -/
def isFinite (x : Binary64) : Bool := x.field != 2047

/-- The distance of a finite number from zero, in units of `2 ^ -1074`. -/
def magnitude (x : Binary64) : Nat :=
  if x.field = 0 then x.fraction else (Nat.pow 2 52 + x.fraction) * Nat.pow 2 (x.field - 1)

/-- The number is finite and has no fractional part. -/
def isIntegral (x : Binary64) : Bool := x.isFinite && x.magnitude % Nat.pow 2 binaryPlaces == 0

/-- The whole part of a finite number's distance from zero. -/
def wholePart (x : Binary64) : Nat := x.magnitude / Nat.pow 2 binaryPlaces

/-- The number with the opposite sign. -/
def neg (x : Binary64) : Binary64 := ⟨x.bits ^^^ 0x8000000000000000⟩

/-- The number without its sign. -/
def abs (x : Binary64) : Binary64 := if x.isNegative then x.neg else x

/-- Equality of numbers: the two zeros are equal, and a NaN equals nothing. -/
def numericallyEqual (x y : Binary64) : Bool :=
  !x.isNaN && !y.isNaN && (x == y || (x.magnitude == 0 && y.magnitude == 0))

end Binary64

end LambdaQuery
