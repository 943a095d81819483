import LambdaQuery.Text.Split

/-!
# Tables of characters

Properties and mappings of characters are written as texts of hexadecimal codes, because they have
hundreds of rows.  A row is a code or a range of codes, and behind a sign `>` the codes that it
stands for:

* `AD` is one character, and `FE00-FE0F` are sixteen;
* `41-5A>61` takes each of 26 characters to the one that lies `0x20` further on;
* `100-12E/2>101` does so for every second character of a range;
* `FB03>66+66+69` takes one character to three.

## Main definitions

* `LambdaQuery.Text.CodeRow`, `LambdaQuery.Text.CodeTable` — a row and a table.
* `LambdaQuery.Text.CodeTable.ofText` — the table that a text writes.
* `LambdaQuery.Text.CodeTable.contains` — whether a character has a row.
* `LambdaQuery.Text.CodeTable.image?` — the characters that a character stands for.
-/

set_option autoImplicit false

namespace LambdaQuery.Text

/-- The value of a hexadecimal digit in upper case. -/
def upperHexValue (c : Char) : Nat :=
  if c.isDigit then c.toNat - '0'.toNat else c.toNat - 'A'.toNat + 10

/-- The number of a run of hexadecimal digits in upper case. -/
def hexNumber (s : List Char) : Nat := s.foldl (fun n c => n * 16 + upperHexValue c) 0

/-- Characters from `first` to `last`, `step` apart, and the codes that the first one stands for;
the others stand for codes that lie as far behind these as they themselves behind the first. -/
structure CodeRow where
  /-- The first code of the row. -/
  first : Nat
  /-- The last code of the row. -/
  last : Nat
  /-- The distance between neighbours in the row. -/
  step : Nat
  /-- The codes that the first one stands for. -/
  target : List Nat
deriving DecidableEq

namespace CodeRow

/-- The code belongs to the row. -/
def contains (r : CodeRow) (c : Nat) : Bool :=
  r.first ≤ c && c ≤ r.last && (c - r.first) % r.step == 0

/-- The codes that a code of the row stands for. -/
def image (r : CodeRow) (c : Nat) : List Nat := r.target.map (· + (c - r.first))

/-- The row that a word writes. -/
def ofText (word : List Char) : CodeRow :=
  let (range, target) := cutAt '>' word
  let (first, behind) := cutAt '-' range
  let (last, step) := cutAt '/' behind
  { first := hexNumber first
    last := if last.isEmpty then hexNumber first else hexNumber last
    step := if step.isEmpty then 1 else hexNumber step
    target := if target.isEmpty then [] else (splitAt '+' target).map hexNumber }

end CodeRow

/-- A table of characters. -/
abbrev CodeTable := List CodeRow

namespace CodeTable

/-- The table that a text writes. -/
def ofText (text : String) : CodeTable := (words text.toList).map CodeRow.ofText

/-- The character has a row. -/
def contains (t : CodeTable) (c : Char) : Bool := t.any (CodeRow.contains · c.toNat)

/-- The characters that a character stands for; none if it has no row. -/
def image? (t : CodeTable) (c : Char) : Option (List Char) :=
  (t.find? (CodeRow.contains · c.toNat)).map fun r => (r.image c.toNat).map Char.ofNat

/-- The character that stands for the given ones; none if there is no such row. -/
def source? (t : CodeTable) (image : List Char) : Option Char :=
  (t.find? (·.target == image.map Char.toNat)).map fun r => Char.ofNat r.first

end CodeTable

end LambdaQuery.Text
