import LambdaQuery.Binary64.Rounding

/-!
# Decimal text of a number

A finite number is written with the fewest digits that read back as that number.  Where several
decimals of that length read back, the nearest is taken; of two equally near, the format decides.
The digits are laid out positionally: no exponent, zeros filled in, and no point behind a whole
number.

## Main definitions

* `LambdaQuery.Binary64.shortest` — the chosen decimal, in units of `10 ^ -1074`.
* `LambdaQuery.Binary64.plain` — the text of a finite number.
* `LambdaQuery.Binary64.text` — the text of any number, given the word for infinity.

## Design

A multiple of `2 ^ -1074` is a multiple of `10 ^ -1074`, so one unit serves for the exact value
and for every candidate.  Whether a candidate reads back is decided by reading it.
-/

set_option autoImplicit false

namespace LambdaQuery.Binary64

/-- The number of decimals that suffices to write every finite number exactly. -/
def places : Nat := binaryPlaces

/-- The exact distance of a finite number from zero, in units of `10 ^ -1074`. -/
def expansion (x : Binary64) : Nat := x.magnitude * Nat.pow 5 places

/-- The decimal of `v` units of `10 ^ -1074` reads as the distance of `x` from zero. -/
def readsBack (x : Binary64) (v : Nat) : Bool := ofRatio v (Nat.pow 10 places) == x.abs

/-- Which of two equally near decimals is taken. -/
inductive Tie where
  /-- The greater one. -/
  | upward
  /-- The one with the even last digit. -/
  | toEven
deriving DecidableEq

/-- Of `below` and `below + unit` the one nearer to `exact`. -/
def nearer (tie : Tie) (exact below unit : Nat) : Nat :=
  let above := below + unit
  if exact - below < above - exact then below
  else if above - exact < exact - below then above
  else match tie with
    | .upward => above
    | .toEven => if below / unit % 2 = 0 then below else above

/-- Of `below` and `below + unit` the one that reads back, where it is known of each whether it
does; of two, the one nearer to `exact`. -/
def between? (tie : Tie) (exact below unit : Nat) : Bool → Bool → Option Nat
  | true, true => some (nearer tie exact below unit)
  | true, false => some below
  | false, true => some (below + unit)
  | false, false => none

/-- Of the two multiples of `unit` around the number the one that reads back; of two, the nearer
one. -/
def candidate? (tie : Tie) (x : Binary64) (unit : Nat) : Option Nat :=
  let below := x.expansion / unit * unit
  between? tie x.expansion below unit (x.readsBack below) (x.readsBack (below + unit))

/-- The decimal with the fewest digits that reads back, in units of `10 ^ -1074`.  Seventeen
digits always suffice. -/
def shortest (tie : Tie) (x : Binary64) : Nat :=
  let size := (Text.natural x.expansion).length
  ((List.range' 1 17).findSome? fun digits => candidate? tie x (Nat.pow 10 (size - digits))).getD
    x.expansion

/-- The digits without the zeros at their end. -/
def dropTrailingZeros (digits : List Char) : List Char :=
  (digits.reverse.dropWhile (· == '0')).reverse

/-- The decimal of `v` units of `10 ^ -1074`, without needless zeros. -/
def positional (v : Nat) : List Char :=
  let whole := Text.natural (v / Nat.pow 10 places)
  match dropTrailingZeros (Text.padded places (v % Nat.pow 10 places)) with
  | [] => whole
  | decimals => whole ++ '.' :: decimals

/-- The minus sign of a negative number, the negative zero included. -/
def sign (x : Binary64) : List Char := if x.isNegative then ['-'] else []

/-- The text of a finite number; of two equally near decimals the greater is taken. -/
def plain (x : Binary64) : List Char := x.sign ++ positional (shortest .upward x)

/-- The text of a number where infinity is written as `infinity`. -/
def text (infinity : List Char) (x : Binary64) : List Char :=
  if x.isNaN then ['N', 'a', 'N'] else if x.isFinite then x.plain else x.sign ++ infinity

end LambdaQuery.Binary64
