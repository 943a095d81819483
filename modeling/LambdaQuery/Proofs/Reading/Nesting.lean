import LambdaQuery.Proofs.Grammar.Chains

/-!
# Nested expressions

An expression inside another one is read from a shorter text.  So what a production reads from a
text depends only on how expressions are read from shorter texts, and the budget of the recursion is
never what ends it: a budget as long as the text is as good as any longer one.

## Main definitions

* `LambdaQuery.Scan.AgreeUpTo` — two scans read the same from every text up to a length.

## Main results

* `LambdaQuery.Expr.agreeUpTo_nested` — one round of the recursion.
* `LambdaQuery.Expr.scanWithin_eq_scan` — the budget of the recursion does not matter.
* `LambdaQuery.Expr.scan_eq_nested` — the recursion without a budget.
-/

set_option autoImplicit false

namespace LambdaQuery

namespace Scan

variable {α : Type}

/-! ## Scans that read the same from short texts -/

/-- The two scans read the same from every text of at most `n` characters. -/
def AgreeUpTo (n : Nat) (scan scan' : Scan α) : Prop :=
  ∀ s : List Char, s.length ≤ n → scan s = scan' s

section AgreeUpTo

variable {n : Nat} {scan scan' : Scan α}

/-- Repetitions of pieces that read the same. -/
lemma AgreeUpTo.many_eq (h : AgreeUpTo n scan scan') (hscan : Shortens scan) {s : List Char}
    (hs : s.length ≤ n) : many scan s = many scan' s := by
  have hwithin : ∀ budget s, s.length ≤ n →
      manyWithin scan budget s = manyWithin scan' budget s := by
    intro budget
    induction budget with
    | nil => exact fun s _ => rfl
    | cons c budget ih =>
      intro s hs
      rw [manyWithin, manyWithin, ← h s hs]
      cases hread : scan s with
      | none => rfl
      | some ar =>
        have := hscan hread
        simp only [ih ar.2 (by omega)]
  exact hwithin s s hs

/-- Items behind a comma. -/
lemma AgreeUpTo.afterComma (h : AgreeUpTo n scan scan') :
    AgreeUpTo (n + 1) (afterComma scan) (afterComma scan') := by
  intro s hs
  refine Option.bind_congr fun r hr => h r ?_
  have := length_lt_of_token hr
  omega

/-- Lists in brackets, whose items are read from shorter texts. -/
lemma AgreeUpTo.bracketed (h : AgreeUpTo n scan scan') (hscan : Shortens scan)
    (opening closing : Char) :
    AgreeUpTo (n + 1) (bracketed opening closing scan) (bracketed opening closing scan') := by
  intro s hs
  refine Option.bind_congr fun r hr => ?_
  have hr : r.length ≤ n := by
    have := length_lt_of_after? hr
    omega
  have hitems : commaSeparated scan r = commaSeparated scan' r := by
    rw [commaSeparated, commaSeparated, ← h r hr]
    cases hfirst : scan r with
    | none => rfl
    | some ar =>
      have := hscan hfirst
      simp only [h.afterComma.many_eq (shortens_afterComma hscan) (s := ar.2) (by omega)]
  rw [hitems]

end AgreeUpTo

end Scan

namespace Expr

open Scan Grammar

/-! ## Productions -/

/-- A chain of operands shortens the text if the operand does. -/
lemma shortens_chain {ops : List String} {operand : Scan Expr} (h : Shortens operand) :
    Shortens (chain ops operand) := by
  intro s e r he
  simp only [chain, bind, Option.bind_eq_some_iff] at he
  obtain ⟨⟨first, s₁⟩, hfirst, he⟩ := he
  simp only [pure, Option.some.injEq, Prod.mk.injEq] at he
  obtain ⟨-, rfl⟩ := he
  have hlt : s₁.length < s.length := h hfirst
  exact (length_many_le (shortens_operation h) s₁).trans_lt hlt

section Productions

variable {sub sub' : Scan Expr} {n : Nat} (hsub : Finds sub fun e t => Derives (.expr e) t)
  (h : AgreeUpTo n sub sub')

include hsub h

omit hsub in
/-- Members of objects. -/
lemma agreeUpTo_namedMember : AgreeUpTo (n + 1) (namedMember sub) (namedMember sub') := by
  have hname : Finds (fun s => identifier s <|> stringLiteral s) fun _ _ => True :=
    Finds.orElse (fun s a r hs => (finds_identifier hs).imp fun _ ht => ⟨ht.1, trivial⟩)
      fun s a r hs => (finds_stringLiteral hs).imp fun _ ht => ⟨ht.1, trivial⟩
  intro s hs
  refine Option.bind_congr fun nr hnr => Option.bind_congr fun r hr => ?_
  have hgap := length_skipGap_le s
  have hle := hname.length_le hnr
  have hlt := length_lt_of_token hr
  rw [h r (by omega)]

/-- Primary expressions. -/
lemma agreeUpTo_primary : AgreeUpTo (n + 1) (primary sub) (primary sub') := by
  have hsubShort := shortens_expr hsub
  have hmember : AgreeUpTo n (namedMember sub) (namedMember sub') := fun s hs =>
    agreeUpTo_namedMember h s (by omega)
  have hmemberShort : Shortens (namedMember sub) :=
    (finds_namedMember hsub).shortens fun _ _ h => h.ne_nil
  intro s hs
  have hs := (length_skipGap_le s).trans hs
  simp only [primary, h.bracketed hsubShort _ _ _ hs, hmember.bracketed hmemberShort _ _ _ hs]

/-- Suffixes. -/
lemma agreeUpTo_suffix : AgreeUpTo (n + 1) (suffix sub) (suffix sub') := by
  intro s hs
  have hs := (length_skipGap_le s).trans hs
  have hindex : indexSuffix sub (skipGap s) = indexSuffix sub' (skipGap s) := by
    refine Option.bind_congr fun r hr => ?_
    have := length_lt_of_after? hr
    rw [h r (by omega)]
  simp only [suffix, h.bracketed (shortens_expr hsub) _ _ _ hs, hindex]

/-- Primary expressions and what applies to them. -/
lemma agreeUpTo_applied : AgreeUpTo (n + 1) (applied sub) (applied sub') := by
  intro s hs
  rw [applied, applied, ← agreeUpTo_primary hsub h s hs]
  refine Option.bind_congr ?_
  rintro ⟨e, r⟩ her
  have hle := (finds_primary hsub).length_le her
  simp only [(agreeUpTo_suffix hsub h).many_eq (shortens_suffix hsub) (hle.trans hs)]

/-- Operands behind signs. -/
lemma agreeUpTo_signed : AgreeUpTo (n + 1) (signed sub) (signed sub') := by
  intro s hs
  have hle := length_many_le shortens_sign s
  simp only [signed]
  rw [agreeUpTo_applied hsub h _ (by omega)]

/-- Chains of operands.

**Proof sketch.** Induction on the levels, from the tightest one on. -/
lemma agreeUpTo_chains : AgreeUpTo (n + 1) (chains sub) (chains sub') := by
  have hsigned : Shortens (signed sub) := (finds_signed hsub).shortens fun _ _ h => h.ne_nil
  have hlevels : ∀ levels : List (List String),
      Shortens (levels.foldr chain (signed sub)) ∧
        AgreeUpTo (n + 1) (levels.foldr chain (signed sub))
          (levels.foldr chain (signed sub')) := by
    intro levels
    induction levels with
    | nil => exact ⟨hsigned, agreeUpTo_signed hsub h⟩
    | cons ops levels ih =>
      obtain ⟨hshort, hagree⟩ := ih
      have hoperation : AgreeUpTo (n + 1) (operation ops (levels.foldr chain (signed sub)))
          (operation ops (levels.foldr chain (signed sub'))) := by
        intro s hs
        refine Option.bind_congr ?_
        rintro ⟨op, r⟩ hop
        have hgap := length_skipGap_le s
        obtain ⟨-, hr⟩ := exists_of_oneOf hop
        rw [hr, List.length_append] at hgap
        simp only [hagree r (by omega)]
      refine ⟨shortens_chain hshort, fun s hs => ?_⟩
      rw [List.foldr_cons, List.foldr_cons, chain, chain, ← hagree s hs]
      refine Option.bind_congr ?_
      rintro ⟨first, r⟩ hfirst
      simp only [hoperation.many_eq (shortens_operation hshort) ((hshort hfirst).le.trans hs)]
  exact (hlevels Operator.levels).2

/-- Chains and choices. -/
lemma agreeUpTo_choice : AgreeUpTo (n + 1) (choice sub) (choice sub') := by
  intro s hs
  rw [choice, choice, ← agreeUpTo_chains hsub h s hs]
  refine Option.bind_congr ?_
  rintro ⟨test, r⟩ htest
  have hle := (finds_operands hsub (Nat.zero_le 6)).length_le htest
  have hbranches : branches sub r = branches sub' r := by
    refine Option.bind_congr fun r₁ hr₁ => ?_
    have hlt₁ := length_lt_of_token hr₁
    rw [h r₁ (by omega)]
    refine Option.bind_congr fun yr hyr => Option.bind_congr fun r₂ hr₂ => ?_
    rw [← h r₁ (by omega)] at hyr
    have hle₂ := hsub.length_le hyr
    have hlt₂ := length_lt_of_token hr₂
    rw [h r₂ (by omega)]
  simp only [hbranches]

omit hsub in
/-- Functions. -/
lemma agreeUpTo_function : AgreeUpTo (n + 1) (function sub) (function sub') := by
  intro s hs
  refine Option.bind_congr fun pr hpr => Option.bind_congr fun r hr => ?_
  have hle := finds_parameters.length_le hpr
  have hlt := length_lt_of_token hr
  rw [h r (by omega)]

/-- **One round of the recursion**: expressions are read alike if those inside them, which are read
from shorter texts, are. -/
lemma agreeUpTo_nested : AgreeUpTo (n + 1) (nested sub) (nested sub') := by
  intro s hs
  have hs := (length_skipGap_le s).trans hs
  simp only [nested, agreeUpTo_function h _ hs, agreeUpTo_choice hsub h _ hs]

end Productions

/-! ## The recursion -/

/-- Two budgets read alike from texts that are not longer than either. -/
lemma agreeUpTo_scanWithin (b b' : List Char) :
    AgreeUpTo (min b.length b'.length) (scanWithin b) (scanWithin b') := by
  have hnil : ∀ b, scanWithin b [] = none := by
    intro b
    cases h : scanWithin b [] with
    | none => rfl
    | some er =>
      have := shortens_expr (finds_scanWithin b) h
      simp at this
  induction b generalizing b' with
  | nil =>
    intro s hs
    obtain rfl : s = [] := List.length_eq_zero_iff.1 (by simpa using hs)
    rw [hnil, hnil]
  | cons c b ih =>
    cases b' with
    | nil =>
      intro s hs
      obtain rfl : s = [] := List.length_eq_zero_iff.1 (by simpa using hs)
      rw [hnil, hnil]
    | cons c' b' =>
      have := agreeUpTo_nested (finds_scanWithin b) (ih b')
      rwa [← Nat.add_min_add_right] at this

/-- **The budget of the recursion does not matter** once it is as long as the text. -/
lemma scanWithin_eq_scan {budget s : List Char} (h : s.length ≤ budget.length) :
    scanWithin budget s = scan s :=
  agreeUpTo_scanWithin budget s s (le_min h le_rfl)

/-- **The recursion without a budget**: an expression is read by one round over the scan of
expressions itself. -/
lemma scan_eq_nested (s : List Char) : scan s = nested scan s := by
  have hlonger : scan s = scanWithin (' ' :: s) s := (scanWithin_eq_scan (by simp)).symm
  have hagree : AgreeUpTo s.length (scanWithin s) scan := fun t ht => scanWithin_eq_scan ht
  rw [hlonger]
  exact agreeUpTo_nested (finds_scanWithin s) hagree s (by omega)

end Expr

end LambdaQuery
