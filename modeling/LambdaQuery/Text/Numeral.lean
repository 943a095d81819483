/-!
# Decimal numerals

Whole numbers are written with the digits `0` to `9`, without leading zeros, and with a minus
sign where they are negative.

## Main definitions

* `LambdaQuery.Text.natural`, `LambdaQuery.Text.integer` — the numeral of a number.
* `LambdaQuery.Text.padded` — a numeral filled up with zeros to a given width.
* `LambdaQuery.Text.numberOfDigits` — the number that a run of digits stands for.
-/

set_option autoImplicit false

namespace LambdaQuery.Text

/-- The numeral of a natural number. -/
def natural (n : Nat) : List Char := Nat.toDigits 10 n

/-- The numeral of an integer. -/
def integer : Int → List Char
  | .ofNat n => natural n
  | .negSucc n => '-' :: natural (n + 1)

/-- The numeral of `n` behind as many zeros as it takes to be `width` digits long. -/
def padded (width n : Nat) : List Char :=
  List.replicate (width - (natural n).length) '0' ++ natural n

/-- The number that a run of digits stands for. -/
def numberOfDigits (digits : List Char) : Nat := Nat.ofDigitChars 10 digits 0

/-- Reading a numeral gives back its number. -/
@[simp] theorem numberOfDigits_natural (n : Nat) : numberOfDigits (natural n) = n := by
  simp [numberOfDigits, natural]

/-- A numeral consists of digits. -/
theorem isDigit_of_mem_natural {n : Nat} {c : Char} (h : c ∈ natural n) : c.isDigit = true :=
  Nat.isDigit_of_mem_toDigits (b := 10) (by decide) (by decide) h

end LambdaQuery.Text
