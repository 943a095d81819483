import LambdaQuery.Proofs.Binary64.Overflow
import LambdaQuery.Proofs.Expr.RoundTrip

/-!
# Decimal literals

A decimal literal may have any number of digits, before the point and behind it.  It is always read
as a floating-point number, and what is written for this number is read as the same number as long
as the number is finite.  A literal that is too large is read as infinity, which is written as a
word that the language reads as the name of a variable.

## Main results

* `LambdaQuery.Expr.parse_print_float` — what is read for a finite number that was written.
* `LambdaQuery.Expr.parse_print_infinity` — what is read for infinity.
* `LambdaQuery.Expr.parse_decimal` — decimal literals, read, written and read again.
-/

set_option autoImplicit false

namespace LambdaQuery.Expr

open Grammar Binary64

/-- A finite number without sign is read back. -/
lemma parse_print_float {x : Binary64} (hfinite : x.isFinite = true)
    (hsign : x.isNegative = false) :
    parse (print (.literal (.float x))) = .ok (.literal (.float x)) := by
  refine parse_ofList_of_atom (Value.atom_source (by simp [Value.isUnsigned, hsign]) ?_)
  rintro y ⟨⟩
  exact hfinite

/-- Infinity is written as the name of a variable. -/
lemma parse_print_infinity :
    print (.literal (.float infinity)) = "inf" ∧ parse "inf" = .ok (.variable "inf") :=
  ⟨by decide +kernel,
    parse_of_print_eq (e := .variable "inf") ⟨by decide, by simp [Expr.literals]⟩ rfl rfl⟩

/-- **Decimal literals, read, written and read again**: every decimal literal is read as the number
nearest to it.  The text that is written for this number is read as the same number exactly if the
literal is less than the least number that is rounded to infinity.  Otherwise the number is infinity
and its text is read as a variable. -/
theorem parse_decimal (whole decimals : List Char) (hwhole : IsNumeral whole)
    (hdecimals : IsNumeral decimals) :
    parse (String.ofList (whole ++ '.' :: decimals)) =
      .ok (.literal (.float (ofDecimal whole decimals))) ∧
    parse (print (.literal (.float (ofDecimal whole decimals)))) =
      .ok (if Text.numberOfDigits (whole ++ decimals) < overflowBound * 10 ^ decimals.length then
        .literal (.float (ofDecimal whole decimals)) else .variable "inf") := by
  refine ⟨parse_ofList_of_atom (.decimal hwhole hdecimals), ?_⟩
  split
  · next hlt =>
    have hfinite := (isFinite_ofDecimal_iff whole decimals).2 hlt
    exact parse_print_float hfinite (isNegative_ofDecimal whole decimals)
  · next hle =>
    rw [ofDecimal_eq_infinity (Nat.not_lt.1 hle), parse_print_infinity.1, parse_print_infinity.2]

/-- A decimal with a digit that means nothing. -/
theorem parse_decimal_trailing_zero :
    parse "17.250" = .ok (.literal (.float (ofDecimal ['1', '7'] ['2', '5', '0']))) ∧
    parse (print (.literal (.float (ofDecimal ['1', '7'] ['2', '5', '0'])))) =
      .ok (.literal (.float (ofDecimal ['1', '7'] ['2', '5', '0']))) := by
  have h := parse_decimal ['1', '7'] ['2', '5', '0'] ⟨by simp, by simp⟩ ⟨by simp, by simp⟩
  rwa [if_pos (by decide +kernel)] at h

/-- **Not every decimal literal is read back**: a one with `309` zeros is read as infinity, and what
is written for it is read as a variable. -/
theorem parse_print_large_decimal :
    parse (String.ofList ('1' :: List.replicate 309 '0' ++ ['.', '0'])) =
      .ok (.literal (.float infinity)) ∧
    parse (print (.literal (.float infinity))) = .ok (.variable "inf") ∧
    (Expr.variable "inf") ≠ .literal (.float infinity) := by
  have hnumeral : IsNumeral ('1' :: List.replicate 309 '0') :=
    ⟨List.cons_ne_nil _ _, List.forall_mem_cons.2
      ⟨by decide, fun c hc => List.eq_of_mem_replicate hc ▸ by decide⟩⟩
  have hread := parse_ofList_of_atom (@Atom.decimal _ ['0'] hnumeral ⟨by simp, by simp⟩)
  rw [ofDecimal_eq_infinity (by decide +kernel)] at hread
  exact ⟨hread, by rw [parse_print_infinity.1, parse_print_infinity.2], by simp⟩

end LambdaQuery.Expr
