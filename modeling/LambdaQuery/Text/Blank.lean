/-!
# White space

White space around an expression, a command-line argument or the end of the input is judged by
the Unicode property `White_Space`.  The tokens of an expression are separated by a smaller set,
the four characters of `isGap`.

## Main definitions

* `LambdaQuery.Text.isBlank` — the property `White_Space`.
* `LambdaQuery.Text.trim` — a text without the white space at its ends.
* `LambdaQuery.Text.isGap` — the characters that may stand between tokens.
-/

set_option autoImplicit false

namespace LambdaQuery.Text

/-- The code points with the property `White_Space`, as closed ranges in ascending order. -/
def blankRanges : List (Nat × Nat) :=
  [(0x09, 0x0D), (0x20, 0x20), (0x85, 0x85), (0xA0, 0xA0), (0x1680, 0x1680), (0x2000, 0x200A),
   (0x2028, 0x2029), (0x202F, 0x202F), (0x205F, 0x205F), (0x3000, 0x3000)]

/-- The property `White_Space`. -/
def isBlank (c : Char) : Bool :=
  blankRanges.any fun r => r.1 ≤ c.toNat && c.toNat ≤ r.2

/-- The text without the white space at its start. -/
def trimStart (s : List Char) : List Char := s.dropWhile isBlank

/-- The text without the white space at its end. -/
def trimEnd (s : List Char) : List Char := (s.reverse.dropWhile isBlank).reverse

/-- The text without the white space at its two ends. -/
def trim (s : List Char) : List Char := trimEnd (trimStart s)

/-- The characters that may stand between two tokens: space, tab, carriage return, line feed. -/
def isGap (c : Char) : Bool := c == ' ' || c == '\t' || c == '\r' || c == '\n'

/-- A character that may stand between tokens is white space. -/
theorem isBlank_of_isGap {c : Char} (h : isGap c = true) : isBlank c = true := by
  simp only [isGap, Bool.or_eq_true, beq_iff_eq] at h
  rcases h with ((rfl | rfl) | rfl) | rfl <;> decide

end LambdaQuery.Text
