import LambdaQuery.Clause
import LambdaQuery.Proofs.Expr.Parentheses

/-!
# The outermost function of a clause

Rendering carries along whether the outermost function of the clause is still to come.  What it
carries can be told from the expression: the outermost function is still to come as long as no part
that was rendered before has a function in it.  So the text of an expression can be given without a
state, from the expression and from whether its first function is the outermost one.

## Main definitions

* `LambdaQuery.Expr.hasFunction` — there is a function in the expression.
* `LambdaQuery.Expr.text` — the text of an expression, without a state.

## Main results

* `LambdaQuery.Expr.renderInduction` — induction over the parts of an expression that are rendered.
* `LambdaQuery.Expr.render_run` — what rendering returns, and the state it leaves.
* `LambdaQuery.Expr.clause_eq` — the clause of an expression is its text.
-/

set_option autoImplicit false

namespace LambdaQuery.Expr

open Clause

/-! ## Induction -/

/-- **Induction over the parts that are rendered**: of the callee of a call only the owner of a
method is rendered, and a callee that is neither a method nor a name has no rendering. -/
@[elab_as_elim]
theorem renderInduction {P : Expr → Prop} (e : Expr)
    (literal : ∀ v, P (.literal v)) («variable» : ∀ x, P (.variable x))
    (unary : ∀ op e, P e → P (.unary op e))
    (binary : ∀ op a b, P a → P b → P (.binary op a b))
    (group : ∀ es, (∀ e ∈ es, P e) → P (.group es))
    (assign : ∀ x e, P e → P (.assign x e))
    (object : ∀ ms : List (String × Expr), (∀ m ∈ ms, P m.2) → P (.object ms))
    (array : ∀ es, (∀ e ∈ es, P e) → P (.array es))
    (member : ∀ e x, P e → P (.member e x))
    (index : ∀ e k, P e → P k → P (.index e k))
    (lambda : ∀ ps e, P e → P (.lambda ps e))
    (method : ∀ e x es, P e → (∀ e ∈ es, P e) → P (.call (.member e x) es))
    (function : ∀ x es, (∀ e ∈ es, P e) → P (.call (.variable x) es))
    (invalid : ∀ e es, (∀ a x, e ≠ .member a x) → (∀ x, e ≠ .variable x) → P (.call e es))
    (conditional : ∀ a b c, P a → P b → P c → P (.conditional a b c)) : P e := by
  -- the owner of a callee is two levels below the call, so the property is carried for it as well
  suffices h : P e ∧ ∀ a x, e = .member a x → P a from h.1
  induction e using inductionOn with
  | literal v => exact ⟨literal v, by simp⟩
  | «variable» x => exact ⟨«variable» x, by simp⟩
  | unary op e ih => exact ⟨unary op e ih.1, by simp⟩
  | binary op a b iha ihb => exact ⟨binary op a b iha.1 ihb.1, by simp⟩
  | group es ih => exact ⟨group es fun e he => (ih e he).1, by simp⟩
  | assign x e ih => exact ⟨assign x e ih.1, by simp⟩
  | object ms ih => exact ⟨object ms fun m hm => (ih m hm).1, by simp⟩
  | array es ih => exact ⟨array es fun e he => (ih e he).1, by simp⟩
  | member e x ih =>
    refine ⟨member e x ih.1, ?_⟩
    rintro a y ⟨⟩
    exact ih.1
  | index e k ihe ihk => exact ⟨index e k ihe.1 ihk.1, by simp⟩
  | lambda ps e ih => exact ⟨lambda ps e ih.1, by simp⟩
  | call e es ihe ihes =>
    refine ⟨?_, by simp⟩
    cases e with
    | member a x => exact method a x es (ihe.2 a x rfl) fun e he => (ihes e he).1
    | «variable» x => exact function x es fun e he => (ihes e he).1
    | _ => exact invalid _ es (by simp) (by simp)
  | conditional a b c iha ihb ihc => exact ⟨conditional a b c iha.1 ihb.1 ihc.1, by simp⟩

/-! ## Texts without a state -/

mutual

/-- There is a function in the expression. -/
def hasFunction : Expr → Bool
  | .literal _ => false
  | .variable _ => false
  | .unary _ e => e.hasFunction
  | .binary _ a b => a.hasFunction || b.hasFunction
  | .group es => anyFunction es
  | .assign _ e => e.hasFunction
  | .object ms => anyMemberFunction ms
  | .array es => anyFunction es
  | .member e _ => e.hasFunction
  | .index e k => e.hasFunction || k.hasFunction
  | .lambda _ _ => true
  | .call e es => anyFunction es || e.hasFunction
  | .conditional a b c => a.hasFunction || b.hasFunction || c.hasFunction

/-- There is a function in one of the expressions. -/
def anyFunction : List Expr → Bool
  | [] => false
  | e :: es => e.hasFunction || anyFunction es

/-- There is a function in one of the members. -/
def anyMemberFunction : List (String × Expr) → Bool
  | [] => false
  | (_, e) :: ms => e.hasFunction || anyMemberFunction ms

end

mutual

/-- The text of an expression in which `bound` are the parameters of the outermost function; `first`
says whether the first function in the expression is the outermost one. -/
def text (ctx : Context) (bound : List String) (first : Bool) :
    Expr → Except CompileError (List Char)
  | .literal v => return v.literal
  | .variable x => return variableText ctx bound x
  | .unary op e => do
    let t ← e.text ctx bound first
    return (Vocabulary.signWord op).toList ++ t
  | .binary op a b => do
    let s ← a.text ctx bound first
    let t ← b.text ctx bound (first && !a.hasFunction)
    return s ++ ' ' :: (Vocabulary.infixWord op).toList ++ ' ' :: t
  | .group es => do
    let ts ← texts ctx bound first es
    return '(' :: commaList ts ++ [')']
  | .assign _ e => e.text ctx bound first
  | .object ms => do
    let ts ← memberTexts ctx bound first ms
    return commaList ts
  | .array es => do
    let ts ← texts ctx bound first es
    return '[' :: commaList ts ++ [']']
  | .member e x => do
    let owner ← e.text ctx bound first
    return accessText ctx owner x
  | .index e k => do
    let owner ← e.text ctx bound first
    let key ← k.text ctx bound (first && !e.hasFunction)
    return owner ++ '[' :: key ++ [']']
  | .lambda ps e =>
    if first then e.text ctx (bound ++ ps) false
    else do
      let body ← e.text ctx (bound.filter (· ∉ ps)) false
      return functionText ps body
  | .call (.member e x) args => do
    let ts ← texts ctx bound first args
    let owner ← e.text ctx bound (first && !anyFunction args)
    return methodText owner x ts
  | .call (.variable x) args => do
    let ts ← texts ctx bound first args
    return callText x.toList ts
  | .call callee _ => throw (.invalidCallTarget callee.print)
  | .conditional a b c => do
    let test ← a.text ctx bound first
    let yes ← b.text ctx bound (first && !a.hasFunction)
    let no ← c.text ctx bound (first && !a.hasFunction && !b.hasFunction)
    return test ++ ' ' :: '?' :: ' ' :: yes ++ ' ' :: ':' :: ' ' :: no

/-- The texts of expressions. -/
def texts (ctx : Context) (bound : List String) (first : Bool) :
    List Expr → Except CompileError (List (List Char))
  | [] => return []
  | e :: es => do
    let t ← e.text ctx bound first
    let ts ← texts ctx bound (first && !e.hasFunction) es
    return t :: ts

/-- The texts of the members of an object. -/
def memberTexts (ctx : Context) (bound : List String) (first : Bool) :
    List (String × Expr) → Except CompileError (List (List Char))
  | [] => return []
  | (x, e) :: ms => do
    let t ← e.text ctx bound first
    let ts ← memberTexts ctx bound (first && !e.hasFunction) ms
    return (x.toList ++ " as ".toList ++ t) :: ts

end

variable {ctx : Context}

/-- What neither is a method nor has a name cannot be called. -/
lemma text_invalid {e : Expr} (hmember : ∀ a x, e ≠ .member a x) (hvariable : ∀ x, e ≠ .variable x)
    (bound : List String) (first : Bool) (es : List Expr) :
    (call e es).text ctx bound first = .error (.invalidCallTarget e.print) := by
  cases e with
  | member a x => exact absurd rfl (hmember a x)
  | «variable» x => exact absurd rfl (hvariable x)
  | _ => rfl

/-- A group of one is the text in parentheses. -/
lemma text_group_singleton (e : Expr) (bound : List String) (first : Bool) :
    (group [e]).text ctx bound first =
      return '(' :: (← e.text ctx bound first) ++ [')'] := by
  simp [text, texts]

/-! ## Rendering gives the text -/

/-- The renderings of expressions that are rendered as their texts. -/
lemma renderAll_run {es : List Expr}
    (h : ∀ e ∈ es, ∀ bound first, (e.render ctx bound).run first =
      return (← e.text ctx bound first, first && !e.hasFunction))
    (bound : List String) (first : Bool) :
    (renderAll ctx bound es).run first =
      return (← texts ctx bound first es, first && !anyFunction es) := by
  induction es generalizing first with
  | nil => simp [renderAll, texts, anyFunction]
  | cons e es ih =>
    have htail := ih (fun e' he' => h e' (by simp [he']))
    simp only [renderAll, texts, anyFunction, StateT.run_bind, StateT.run_pure, bind_assoc,
      pure_bind, h e (by simp), htail, Bool.not_or, Bool.and_assoc]

/-- The renderings of members that are rendered as their texts. -/
lemma renderMembers_run {ms : List (String × Expr)}
    (h : ∀ m ∈ ms, ∀ bound first, (m.2.render ctx bound).run first =
      return (← m.2.text ctx bound first, first && !m.2.hasFunction))
    (bound : List String) (first : Bool) :
    (renderMembers ctx bound ms).run first =
      return (← memberTexts ctx bound first ms, first && !anyMemberFunction ms) := by
  induction ms generalizing first with
  | nil => simp [renderMembers, memberTexts, anyMemberFunction]
  | cons m ms ih =>
    have hhead := h m (by simp)
    have htail := ih (fun m' hm' => h m' (by simp [hm']))
    simp only [renderMembers, memberTexts, anyMemberFunction, StateT.run_bind, StateT.run_pure,
      bind_assoc, pure_bind, hhead, htail, Bool.not_or, Bool.and_assoc]

/-- **Rendering gives the text** and leaves the outermost function to come if it was to come before
and there is no function in the expression.

**Proof sketch.** Induction over the parts that are rendered.  The state that one part leaves is the
one that the text of the next part is told. -/
theorem render_run (e : Expr) (bound : List String) (first : Bool) :
    (e.render ctx bound).run first =
      return (← e.text ctx bound first, first && !e.hasFunction) := by
  induction e using renderInduction generalizing bound first with
  | literal v => simp [render, text, hasFunction]
  | «variable» x => simp [render, text, hasFunction]
  | unary op e ih => simp [render, text, hasFunction, ih]
  | binary op a b iha ihb => simp [render, text, hasFunction, iha, ihb, Bool.and_assoc]
  | group es ih => simp [render, text, hasFunction, renderAll_run ih]
  | assign x e ih => simp [render, text, hasFunction, ih]
  | object ms ih => simp [render, text, hasFunction, renderMembers_run ih]
  | array es ih => simp [render, text, hasFunction, renderAll_run ih]
  | member e x ih => simp [render, text, hasFunction, ih]
  | index e k ihe ihk => simp [render, text, hasFunction, ihe, ihk, Bool.and_assoc]
  | lambda ps e ih =>
    cases first with
    | true => simp [render, text, hasFunction, ih]
    | false => simp [render, text, hasFunction, ih]
  | method e x es ihe ihes =>
    simp [render, text, hasFunction, ihe, renderAll_run ihes, Bool.and_assoc]
  | function x es ih => simp [render, text, hasFunction, renderAll_run ih]
  | invalid e es hmember hvariable =>
    rw [text_invalid hmember hvariable]
    cases e with
    | member a x => exact absurd rfl (hmember a x)
    | «variable» x => exact absurd rfl (hvariable x)
    | _ => rfl
  | conditional a b c iha ihb ihc =>
    simp [render, text, hasFunction, iha, ihb, ihc, Bool.and_assoc]

/-- The clause of an expression is its text. -/
lemma clause_eq (scopes : Scopes) (pascalize : Bool) (e : Expr) :
    e.clause scopes pascalize = String.ofList <$> e.text ⟨scopes, pascalize⟩ [] true := by
  rw [clause, clauseWithin, render_run]
  cases e.text ⟨scopes, pascalize⟩ [] true with
  | error err => rfl
  | ok t => rfl

end LambdaQuery.Expr
