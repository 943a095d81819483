import LambdaQuery.Proofs.Expr.Parentheses

/-!
# Parts of an expression

An expression has parts, which have parts in their turn.  Where a part stands is told by an address,
and a property of all parts is shown from the whole to its parts, or from the parts to the whole.

## Main definitions

* `LambdaQuery.Expr.parts` — the parts of an expression.
* `LambdaQuery.Expr.Address` — where a part stands in an expression.
* `LambdaQuery.Expr.part?` — the part at an address.

## Main results

* `LambdaQuery.Expr.partInduction` — induction over the parts of an expression.
* `LambdaQuery.Expr.forall_part?_iff` — what holds of all parts, in one step.
-/

set_option autoImplicit false

namespace LambdaQuery.Expr

/-- Where a part stands in an expression: the number of the part that it stands in, then the number
inside that part, and so on. -/
abbrev Address := List Nat

/-- The parts of an expression, in the order in which they are written. -/
def parts : Expr → List Expr
  | .literal _ => []
  | .variable _ => []
  | .unary _ e => [e]
  | .binary _ a b => [a, b]
  | .group es => es
  | .assign _ e => [e]
  | .object ms => ms.map Prod.snd
  | .array es => es
  | .member e _ => [e]
  | .index e k => [e, k]
  | .lambda _ e => [e]
  | .call e es => e :: es
  | .conditional a b c => [a, b, c]

/-- The part at an address. -/
def part? (e : Expr) : Address → Option Expr
  | [] => some e
  | i :: p => e.parts[i]?.bind (·.part? p)

/-- **Induction over parts**: a property holds of every expression if it passes from the parts of an
expression to the expression. -/
theorem partInduction {P : Expr → Prop} (e : Expr) (h : ∀ e, (∀ a ∈ e.parts, P a) → P e) : P e := by
  induction e using inductionOn with
  | literal | «variable» => exact h _ (List.forall_mem_nil _)
  | unary op e ih | assign op e ih | member e op ih | lambda op e ih =>
    exact h _ (List.forall_mem_singleton.2 ih)
  | binary op a b iha ihb | index a b iha ihb => exact h _ (by simp [parts, iha, ihb])
  | group es ih | array es ih => exact h _ ih
  | object ms ih => exact h _ (List.forall_mem_map.2 ih)
  | call e es ihe ihes => exact h _ (List.forall_mem_cons.2 ⟨ihe, ihes⟩)
  | conditional a b c iha ihb ihc => exact h _ (by simp [parts, iha, ihb, ihc])

/-- What holds of an expression and of all parts in it holds of the expression and, for each of its
own parts, of that part and of all parts in it. -/
lemma forall_part?_iff {P : Expr → Prop} {e : Expr} :
    (∀ p a, e.part? p = some a → P a) ↔
      P e ∧ ∀ a ∈ e.parts, ∀ p b, a.part? p = some b → P b := by
  constructor
  · intro h
    refine ⟨h [] e rfl, fun a ha p b hb => ?_⟩
    obtain ⟨i, hi⟩ := List.mem_iff_getElem?.1 ha
    exact h (i :: p) b (by rw [part?, hi, Option.bind_some, hb])
  · rintro ⟨he, hparts⟩ p a hp
    cases p with
    | nil => exact Option.some.inj hp ▸ he
    | cons i p =>
      obtain ⟨b, hb, hp⟩ := Option.bind_eq_some_iff.1 hp
      exact hparts b (List.mem_of_getElem? hb) p a hp

end LambdaQuery.Expr
