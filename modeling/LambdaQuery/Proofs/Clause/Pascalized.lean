import LambdaQuery.Proofs.Clause.Callees
import LambdaQuery.Proofs.Clause.Renaming
import LambdaQuery.Proofs.Outcome
import LambdaQuery.Proofs.Text.Capital

/-!
# Member names with a capital

Whether member names are written with a capital is asked at one place of rendering, but what is
written there is looked at again: an owner may turn out empty, or to be the word `Math`.  This
module shows that the setting is nothing but a change of the expression.  Rendering with capitals is
rendering without them after each member name, other than `length` and the names of methods, has
been given its capital.

## Main definitions

* `LambdaQuery.Expr.capitalName` — the name of a member with a capital.
* `LambdaQuery.Expr.pascalized` — the expression with capitals at its member names.

## Main results

* `LambdaQuery.Expr.toList_capitalName` — what the capital changes in a name.
* `LambdaQuery.Expr.text_pascalized` — the text of an expression with capitals.
* `LambdaQuery.Expr.clause_pascalized_iff` — the clause of an expression with capitals.

## Design

No name becomes `length` by its capital.  This is read off the table of upper cases from right to
left, so nothing has to be known about the names.
-/

set_option autoImplicit false

namespace LambdaQuery

/-! ## Expressions with capitals -/

namespace Expr

open Clause

/-- The name of a member with a capital; `length` keeps its name. -/
def capitalName (x : String) : String :=
  if x = "length" then x else String.ofList (Text.capitalize x.toList)

/-- **What the capital changes in a name**: the first letter is in upper case, and all that follows
is kept.  In `length` nothing is changed. -/
lemma toList_capitalName {x : String} (h : Grammar.IsName x) :
    (capitalName x).toList =
      if x = "length" then x.toList else x.toList.modifyHead Char.toUpper := by
  unfold capitalName
  split_ifs
  · rfl
  · rw [String.toList_ofList, Text.capitalize_of_isName h]

mutual

/-- The expression with a capital at each member name other than `length`.  A method keeps its name,
and its owner is changed like any other part. -/
def pascalized : Expr → Expr
  | .literal v => .literal v
  | .variable x => .variable x
  | .unary op e => .unary op e.pascalized
  | .binary op a b => .binary op a.pascalized b.pascalized
  | .group es => .group (pascalizedAll es)
  | .assign x e => .assign x e.pascalized
  | .object ms => .object (pascalizedMembers ms)
  | .array es => .array (pascalizedAll es)
  | .member e x => .member e.pascalized (capitalName x)
  | .index e k => .index e.pascalized k.pascalized
  | .lambda ps e => .lambda ps e.pascalized
  | .call (.member e x) es => .call (.member e.pascalized x) (pascalizedAll es)
  | .call e es => .call e.pascalized (pascalizedAll es)
  | .conditional a b c => .conditional a.pascalized b.pascalized c.pascalized

/-- The expressions with capitals. -/
def pascalizedAll : List Expr → List Expr
  | [] => []
  | e :: es => e.pascalized :: pascalizedAll es

/-- The members with capitals in their expressions; the names of the members stay. -/
def pascalizedMembers : List (String × Expr) → List (String × Expr)
  | [] => []
  | (x, e) :: ms => (x, e.pascalized) :: pascalizedMembers ms

end

/-- What is called and is no method is changed like any other part. -/
lemma pascalized_call {e : Expr} (hmember : ∀ a x, e ≠ .member a x) (es : List Expr) :
    (call e es).pascalized = .call e.pascalized (pascalizedAll es) := by
  cases e with
  | member a x => exact absurd rfl (hmember a x)
  | _ => rfl

/-- What can be called with capitals can be called without. -/
lemma isCallable_pascalized (e : Expr) : e.pascalized.isCallable = e.isCallable := by
  cases e with
  | call f es => cases f <;> rfl
  | _ => rfl

/-- Capitals add no functions to a list. -/
lemma anyFunction_pascalized {es : List Expr}
    (h : ∀ e ∈ es, e.pascalized.hasFunction = e.hasFunction) :
    anyFunction (pascalizedAll es) = anyFunction es := by
  induction es with
  | nil => rfl
  | cons e es ih =>
    rw [List.forall_mem_cons] at h
    rw [pascalizedAll, anyFunction, anyFunction, h.1, ih h.2]

/-- Capitals add no functions to members. -/
lemma anyMemberFunction_pascalized {ms : List (String × Expr)}
    (h : ∀ m ∈ ms, m.2.pascalized.hasFunction = m.2.hasFunction) :
    anyMemberFunction (pascalizedMembers ms) = anyMemberFunction ms := by
  induction ms with
  | nil => rfl
  | cons m ms ih =>
    rw [List.forall_mem_cons] at h
    rw [pascalizedMembers, anyMemberFunction, anyMemberFunction, h.1, ih h.2]

/-- Capitals add no functions and take none away. -/
lemma hasFunction_pascalized (e : Expr) : e.pascalized.hasFunction = e.hasFunction := by
  induction e using inductionOn with
  | literal | «variable» | lambda => rfl
  | unary op e ih | assign op e ih | member e op ih => simpa only [pascalized, hasFunction] using ih
  | binary op a b iha ihb | index a b iha ihb => simp only [pascalized, hasFunction, iha, ihb]
  | group es ih | array es ih => simp only [pascalized, hasFunction, anyFunction_pascalized ih]
  | object ms ih => simp only [pascalized, hasFunction, anyMemberFunction_pascalized ih]
  | call e es ihe ihes =>
    cases e with
    | member a x =>
      have howner : a.pascalized.hasFunction = a.hasFunction := ihe
      simp only [pascalized, hasFunction, anyFunction_pascalized ihes, howner]
    | _ => rw [pascalized_call (by simp), hasFunction, hasFunction, ihe,
        anyFunction_pascalized ihes]
  | conditional a b c iha ihb ihc => simp only [pascalized, hasFunction, iha, ihb, ihc]

/-! ## Texts with capitals -/

/-- No other name becomes `length` by its capital. -/
lemma capitalName_eq_length_iff {x : String} : capitalName x = "length" ↔ x = "length" := by
  unfold capitalName
  split_ifs with hx
  · rfl
  · refine iff_of_false (fun h => ?_) hx
    have hlist := congrArg String.toList h
    rw [String.toList_ofList] at hlist
    exact Text.capitalize_ne_cons_l _ _ hlist

/-- A member with a capital. -/
lemma accessText_capitalName (scopes : Scopes) (owner : List Char) (x : String) :
    accessText ⟨scopes, true⟩ owner x = accessText ⟨scopes, false⟩ owner (capitalName x) := by
  simp only [accessText, capitalName_eq_length_iff]
  split_ifs with hx
  · rfl
  · simp [memberText, capitalName, hx]

/-- Rendering the expression with capitals gives the clause of the changed expression. -/
def IsPascalized (scopes : Scopes) (e : Expr) : Prop :=
  ∀ bound first,
    SameClause (e.text ⟨scopes, true⟩ bound first) (e.pascalized.text ⟨scopes, false⟩ bound first)

variable {scopes : Scopes}

/-- Texts of expressions with capitals. -/
lemma texts_pascalized {es : List Expr} (h : ∀ e ∈ es, IsPascalized scopes e)
    (bound : List String) (first : Bool) :
    SameClause (texts ⟨scopes, true⟩ bound first es)
      (texts ⟨scopes, false⟩ bound first (pascalizedAll es)) := by
  induction es generalizing first with
  | nil => exact .ok []
  | cons e es ih =>
    rw [List.forall_mem_cons] at h
    rw [pascalizedAll, texts, texts, hasFunction_pascalized]
    exact (h.1 bound first).bind fun t => (ih h.2 _).bind_pure _

/-- Texts of members with capitals. -/
lemma memberTexts_pascalized {ms : List (String × Expr)} (h : ∀ m ∈ ms, IsPascalized scopes m.2)
    (bound : List String) (first : Bool) :
    SameClause (memberTexts ⟨scopes, true⟩ bound first ms)
      (memberTexts ⟨scopes, false⟩ bound first (pascalizedMembers ms)) := by
  induction ms generalizing first with
  | nil => exact .ok []
  | cons m ms ih =>
    rw [List.forall_mem_cons] at h
    rw [pascalizedMembers, memberTexts, memberTexts, hasFunction_pascalized]
    exact (h.1 bound first).bind fun t => (ih h.2 _).bind_pure _

/-- **Texts with capitals** are texts of the expression with capitals.

**Proof sketch.** Induction over the parts that are rendered, along both renderings.  They differ at
member names only, and there by the capital; so the texts of all parts are equal, and what rendering
asks about the text of an owner has the same answer in both. -/
theorem text_pascalized (e : Expr) : IsPascalized scopes e := by
  induction e using renderInduction with
  | literal v => exact fun _ _ => .ok _
  | «variable» x => exact fun _ _ => .ok _
  | unary op e ih => exact fun bound first => (ih bound first).bind_pure _
  | binary op a b iha ihb =>
    intro bound first
    rw [pascalized, text, text, hasFunction_pascalized]
    exact (iha bound first).bind fun s => (ihb bound _).bind_pure _
  | group es ih => exact fun bound first => (texts_pascalized ih bound first).bind_pure _
  | assign x e ih => exact ih
  | object ms ih => exact fun bound first => (memberTexts_pascalized ih bound first).bind_pure _
  | array es ih => exact fun bound first => (texts_pascalized ih bound first).bind_pure _
  | member e x ih =>
    intro bound first
    simp only [pascalized, text, accessText_capitalName]
    exact (ih bound first).bind_pure _
  | index e k ihe ihk =>
    intro bound first
    rw [pascalized, text, text, hasFunction_pascalized]
    exact (ihe bound first).bind fun s => (ihk bound _).bind_pure _
  | lambda ps e ih =>
    intro bound first
    cases first with
    | true => exact ih _ false
    | false => exact (ih _ false).bind_pure _
  | method e x es ihe ihes =>
    intro bound first
    rw [pascalized, text, text, anyFunction_pascalized fun e _ => hasFunction_pascalized e]
    exact (texts_pascalized ihes bound first).bind fun ts => (ihe bound _).bind_pure _
  | function x es ih => exact fun bound first => (texts_pascalized ih bound first).bind_pure _
  | invalid e es hmember hvariable =>
    intro bound first
    have hcallable : e.pascalized.isCallable = false := by
      rw [isCallable_pascalized, isCallable_eq_false hmember hvariable]
    rw [text_invalid hmember hvariable, pascalized_call hmember, text_of_isCallable hcallable]
    exact .invalid _ _
  | conditional a b c iha ihb ihc =>
    intro bound first
    rw [pascalized, text, text, hasFunction_pascalized, hasFunction_pascalized]
    refine (iha bound first).bind fun s => (ihb bound _).bind fun t => ?_
    exact (ihc bound _).bind_pure _

/-! ## Clauses -/

/-- **The clause of an expression with capitals**: it exists exactly if the clause without capitals
does, and it is the clause without capitals of the expression in which the member names have theirs.
The names of methods and functions, variables and what is captured, the names in an object and the
parameters of functions are the same in that expression. -/
theorem clause_pascalized_iff (e : Expr) (scopes : Scopes) :
    ((∃ t, e.clause scopes true = .ok t) ↔ ∃ t, e.clause scopes false = .ok t) ∧
    ∀ t, e.clause scopes true = .ok t ↔ e.pascalized.clause scopes false = .ok t := by
  constructor
  · have hfails : ∀ pascalize, FailsAtFirst e.visits (e.clause scopes pascalize) :=
      fun pascalize => clauseWithin_failsAtFirst ⟨scopes, pascalize⟩ [] e
    simp only [← forall_ne_error_iff, ne_eq, (hfails true).eq_error_congr (hfails false)]
  · intro t
    have hsame : SameClause (e.clause scopes true) (e.pascalized.clause scopes false) := by
      rw [clause_eq, clause_eq]
      exact (text_pascalized e [] true).bind_pure _
    exact hsame.eq_ok_iff

/-- Members of an entity, of a range variable and of a global, a method on a path, a member of a
projection and the length of a text. -/
example :
    (lambda ["c"] (.object [("tags", .call (.member (.member (.variable "c") "tags") "any")
        [.lambda ["t"] (.binary "==" (.member (.variable "t") "name")
          (.member (.variable "kinds") "main"))]),
      ("size", .member (.member (.variable "c") "name") "length")])).pascalized =
    lambda ["c"] (.object [("tags", .call (.member (.member (.variable "c") "Tags") "any")
        [.lambda ["t"] (.binary "==" (.member (.variable "t") "Name")
          (.member (.variable "kinds") "Main"))]),
      ("size", .member (.member (.variable "c") "Name") "length")]) := by
  cbv

end Expr

end LambdaQuery
