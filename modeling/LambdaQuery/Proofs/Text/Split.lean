import Mathlib
import LambdaQuery.Text.Split

/-!
# Theory of splitting

A text in which a character does not occur is not split at it, and ends where the character follows
it.  So parts that are joined by a character are found again, and a text is cut in two at the first
occurrence of one.

## Main results

* `LambdaQuery.Text.splitAt_intercalate` — parts that are joined are split again.
* `LambdaQuery.Text.cutAt_append_cons` — a text is cut where a character occurs first.
-/

set_option autoImplicit false

namespace LambdaQuery.Text

variable {c : Char} {s : List Char}

/-! ## Splitting -/

/-- A text in which the character does not occur is one part. -/
lemma splitAt_of_notMem (h : c ∉ s) : splitAt c s = [s] := by
  induction s with
  | nil => rfl
  | cons d s ih =>
    rw [List.mem_cons, not_or] at h
    have hsplit := ih h.2
    rw [splitAt] at hsplit ⊢
    rw [List.foldr_cons, hsplit, if_neg (Ne.symm h.1)]

/-- The first part ends where the character occurs first. -/
lemma splitAt_append_cons (h : c ∉ s) (rest : List Char) :
    splitAt c (s ++ c :: rest) = s :: splitAt c rest := by
  induction s with
  | nil => simp [splitAt]
  | cons d s ih =>
    rw [List.mem_cons, not_or] at h
    have hsplit := ih h.2
    rw [splitAt] at hsplit ⊢
    rw [List.cons_append, List.foldr_cons, hsplit, if_neg (Ne.symm h.1)]

/-- **Parts that are joined are split again** if the character occurs in none of them. -/
lemma splitAt_intercalate {parts : List (List Char)} (hne : parts ≠ []) (h : ∀ p ∈ parts, c ∉ p) :
    splitAt c (List.intercalate [c] parts) = parts := by
  induction parts with
  | nil => contradiction
  | cons p parts ih =>
    rw [List.forall_mem_cons] at h
    cases parts with
    | nil => rw [List.intercalate_singleton, splitAt_of_notMem h.1]
    | cons q parts =>
      rw [List.intercalate_cons_cons, List.append_assoc, List.singleton_append,
        splitAt_append_cons h.1, ih (List.cons_ne_nil _ _) h.2]

/-! ## Cutting -/

/-- No character of a text is one that does not occur in it. -/
lemma forall_bne_of_notMem (h : c ∉ s) : ∀ d ∈ s, (d != c) = true := by
  intro d hd
  rw [bne_iff_ne]
  rintro rfl
  exact h hd

/-- A text is cut where the character occurs first. -/
lemma cutAt_append_cons (h : c ∉ s) (rest : List Char) : cutAt c (s ++ c :: rest) = (s, rest) := by
  have hs := forall_bne_of_notMem h
  simp [cutAt, List.takeWhile_append_of_pos hs, List.dropWhile_append_of_pos hs]

/-- All of a text stands before a character that does not occur in it. -/
lemma cutAt_of_notMem (h : c ∉ s) : cutAt c s = (s, []) := by
  have hs := forall_bne_of_notMem h
  rw [cutAt, List.takeWhile_eq_self_iff.2 hs, List.dropWhile_eq_nil_iff.2 hs]
  rfl

end LambdaQuery.Text
