import LambdaQuery.Binary64.Basic
import LambdaQuery.Text.Numeral

/-!
# Rounding to the nearest number

A ratio of natural numbers is rounded to the nearest floating-point number, and to the one with
the even word where two are equally near.  A ratio beyond the largest finite number becomes
infinity.  This is how a decimal literal gets its value.

## Main definitions

* `LambdaQuery.Binary64.ofRatio` — the number nearest to a ratio.
* `LambdaQuery.Binary64.ofDecimal` — the number nearest to a decimal literal.

## Design

Among the numbers of one binade the words count up with the magnitudes, and the word of the next
binade follows the last one of this binade.  So the word is `unit * 2 ^ 52` plus the number of
steps of size `2 ^ unit`, with no case for subnormal numbers and none for a carry into the
exponent.
-/

set_option autoImplicit false

namespace LambdaQuery.Binary64

/-- The whole number nearest to `n / d`; the even one where two are equally near. -/
def roundHalfEven (n d : Nat) : Nat :=
  let quotient := n / d
  let remainder := n % d
  if 2 * remainder < d then quotient
  else if d < 2 * remainder then quotient + 1
  else quotient + quotient % 2

/-- The number nearest to `n / d`. -/
def ofRatio (n d : Nat) : Binary64 :=
  let scaled := n * Nat.pow 2 binaryPlaces
  let unit := (scaled / d).log2 - 52
  let steps := roundHalfEven scaled (d * Nat.pow 2 unit)
  ⟨UInt64.ofNat (min (unit * Nat.pow 2 52 + steps) (2047 * Nat.pow 2 52))⟩

/-- The number nearest to the decimal with the digits `whole` before and `decimals` behind the
point. -/
def ofDecimal (whole decimals : List Char) : Binary64 :=
  ofRatio (Text.numberOfDigits (whole ++ decimals)) (Nat.pow 10 decimals.length)

end LambdaQuery.Binary64
