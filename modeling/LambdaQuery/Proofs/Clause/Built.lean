import LambdaQuery.Proofs.Clause.Outermost
import LambdaQuery.Proofs.Expr.RoundTrip
import LambdaQuery.Query.Builder

/-!
# Clauses of built expressions

An expression that is built by hand need not have a group where its text has parentheses.  A clause
has parentheses for the groups of its expression and no others, so the clause of such an expression
is not the clause of its text: there each operand that is written in parentheses stands in
parentheses too.  The two clauses are equal exactly if no operand is written in parentheses.

## Main definitions

* `LambdaQuery.Expr.isSimple` — expressions of operators, members, functions and groups.
* `LambdaQuery.Expr.OpensMore` — the added groups show in the text.

## Main results

* `LambdaQuery.Expr.hasFunction_parenthesized` — the added groups do not change which function is
  the outermost one.
* `LambdaQuery.Expr.opensMore_of_isSimple` — the added groups show in the text of every such
  expression.
* `LambdaQuery.Expr.clause_parenthesized_eq_iff` — when a built expression and its text have the
  same clause.
* `LambdaQuery.Expr.clause_built_product` — a product for which they differ.
-/

set_option autoImplicit false

namespace LambdaQuery.Expr

open Clause

/-! ## The outermost function among added groups -/

/-- A group of one has the functions of its expression. -/
@[simp] lemma hasFunction_grouped (needed : Bool) (e : Expr) :
    (grouped needed e).hasFunction = e.hasFunction := by
  cases needed with
  | false => rfl
  | true => simp [grouped, hasFunction, anyFunction]

/-- The groups that are added have no functions of their own. -/
lemma hasFunction_parenthesized (e : Expr) : e.parenthesized.hasFunction = e.hasFunction := by
  have hall : ∀ es : List Expr, (∀ e ∈ es, e.parenthesized.hasFunction = e.hasFunction) →
      anyFunction (parenthesizedAll es) = anyFunction es := by
    intro es hes
    induction es with
    | nil => rfl
    | cons e es ih =>
      simp only [parenthesizedAll, anyFunction, hes e (by simp),
        ih fun a ha => hes a (by simp [ha])]
  induction e using inductionOn with
  | literal v => rfl
  | «variable» x => rfl
  | unary op e ih => simp only [parenthesized, hasFunction, hasFunction_grouped, ih]
  | binary op a b iha ihb => simp only [parenthesized, hasFunction, hasFunction_grouped, iha, ihb]
  | group es ih => simp only [parenthesized, hasFunction, hall es ih]
  | assign x e ih => simp only [parenthesized, hasFunction, ih]
  | object ms ih =>
    simp only [parenthesized, hasFunction]
    induction ms with
    | nil => rfl
    | cons m ms ihms =>
      simp only [parenthesizedMembers, anyMemberFunction, ih m (by simp),
        ihms fun a ha => ih a (by simp [ha])]
  | array es ih => simp only [parenthesized, hasFunction, hall es ih]
  | member e x ih => simp only [parenthesized, hasFunction, hasFunction_grouped, ih]
  | index e k ihe ihk => simp only [parenthesized, hasFunction, hasFunction_grouped, ihe, ihk]
  | lambda ps e ih => rfl
  | call e es ihe ihes =>
    simp only [parenthesized, hasFunction, hasFunction_grouped, ihe, hall es ihes]
  | conditional a b c iha ihb ihc =>
    simp only [parenthesized, hasFunction, hasFunction_grouped, iha, ihb, ihc]

/-! ## Expressions of operators, members, functions and groups -/

mutual

/-- The expression is made of literals, variables, members, functions, groups and operators. -/
def isSimple : Expr → Bool
  | .literal _ => true
  | .variable _ => true
  | .unary _ e => e.isSimple
  | .binary _ a b => a.isSimple && b.isSimple
  | .group es => allSimple es
  | .member e _ => e.isSimple
  | .lambda _ e => e.isSimple
  | _ => false

/-- The expressions are all made of these. -/
def allSimple : List Expr → Bool
  | [] => true
  | e :: es => e.isSimple && allSimple es

end

/-- Expressions are simple if each one is. -/
@[simp] lemma allSimple_iff (es : List Expr) :
    allSimple es = true ↔ ∀ e ∈ es, e.isSimple = true := by
  induction es with
  | nil => simp [allSimple]
  | cons e es ih => simp [allSimple, ih]

/-! ## Opening parentheses -/

/-- The opening parentheses of a list with commas are those of its texts. -/
lemma count_commaList (ts : List (List Char)) :
    (commaList ts).count '(' = (ts.map (List.count '(')).sum := by
  induction ts with
  | nil => rfl
  | cons t ts ih =>
    cases ts with
    | nil => simp
    | cons u us =>
      rw [commaList_cons_cons, List.count_append, List.count_cons_of_ne (by decide),
        List.count_cons_of_ne (by decide), ih, List.map_cons (l := u :: us), List.sum_cons]

/-- The opening parentheses of a member are those of its owner and as many as the member adds to an
owner without any. -/
lemma count_accessText (ctx : Context) (owner : List Char) (x : String) :
    (accessText ctx owner x).count '(' = owner.count '(' + (accessText ctx [] x).count '(' := by
  by_cases hlength : x = "length"
  · simp only [accessText, if_pos hlength, List.count_append, List.append_nil]
    omega
  · cases owner with
    | nil => simp
    | cons c owner =>
      have hslash : ('/' :: memberText ctx x).count '(' = (memberText ctx x).count '(' :=
        List.count_cons_of_ne (by decide)
      simp only [accessText, if_neg hlength, pathText, List.isEmpty_cons, List.isEmpty_nil,
        Bool.false_eq_true, if_true, if_false, List.count_append, hslash]

/-- The added groups show in the text: with them and without them there is one, and with them it has
at least as many opening parentheses, and as many only if no group was added. -/
def OpensMore (ctx : Context) (e e' : Expr) : Prop :=
  ∀ bound first, ∃ s s', e.text ctx bound first = .ok s ∧ e'.text ctx bound first = .ok s' ∧
    s.count '(' ≤ s'.count '(' ∧ (s'.count '(' ≤ s.count '(' → e' = e)

/-- A group of one around the expression shows as well. -/
lemma OpensMore.grouped {ctx : Context} {e e' : Expr} (h : OpensMore ctx e e') (needed : Bool) :
    OpensMore ctx e (grouped needed e') := by
  intro bound first
  obtain ⟨s, s', hs, hs', hle, heq⟩ := h bound first
  cases needed with
  | false => exact ⟨s, s', hs, hs', hle, heq⟩
  | true =>
    have hgroup : (group [e']).text ctx bound first = .ok ('(' :: s' ++ [')']) := by
      rw [text_group_singleton, hs']
      rfl
    have hcount : ('(' :: s' ++ [')']).count '(' = s'.count '(' + 1 := by simp
    exact ⟨s, _, hs, hgroup, by omega, fun h => by omega⟩

/-- The groups that are added in expressions show in their texts. -/
lemma exists_texts_of_opensMore {ctx : Context} {es : List Expr}
    (h : ∀ e ∈ es, OpensMore ctx e e.parenthesized) (bound : List String) (first : Bool) :
    ∃ ts ts', texts ctx bound first es = .ok ts ∧
      texts ctx bound first (parenthesizedAll es) = .ok ts' ∧
      (commaList ts).count '(' ≤ (commaList ts').count '(' ∧
      ((commaList ts').count '(' ≤ (commaList ts).count '(' → parenthesizedAll es = es) := by
  simp only [count_commaList]
  induction es generalizing first with
  | nil => exact ⟨[], [], rfl, rfl, Nat.le_refl _, fun _ => rfl⟩
  | cons e es ih =>
    obtain ⟨s, s', hs, hs', hle, heq⟩ := h e (by simp) bound first
    obtain ⟨ts, ts', hts, hts', hles, heqs⟩ :=
      ih (fun a ha => h a (by simp [ha])) (first && !e.hasFunction)
    refine ⟨s :: ts, s' :: ts', ?_, ?_, ?_, ?_⟩
    · rw [texts, hs, hts]
      rfl
    · rw [parenthesizedAll, texts, hasFunction_parenthesized, hs', hts']
      rfl
    · simp only [List.map_cons, List.sum_cons]
      omega
    · simp only [List.map_cons, List.sum_cons]
      intro hcount
      rw [parenthesizedAll, heq (by omega), heqs (by omega)]

/-- **Added groups show in the text** of an expression of operators, members, functions and groups.

**Proof sketch.** Induction over the expression.  Each form puts the same characters around the
texts of its parts, whatever they are, so an opening parenthesis that is added in a part is one more
in the whole. -/
theorem opensMore_of_isSimple (ctx : Context) {e : Expr} (h : e.isSimple = true) :
    OpensMore ctx e e.parenthesized := by
  induction e using inductionOn with
  | literal v => exact fun _ _ => ⟨_, _, rfl, rfl, Nat.le_refl _, fun _ => rfl⟩
  | «variable» x => exact fun _ _ => ⟨_, _, rfl, rfl, Nat.le_refl _, fun _ => rfl⟩
  | unary op e ih =>
    intro bound first
    obtain ⟨s, s', hs, hs', hle, heq⟩ := (ih h).grouped e.isOpenOperand bound first
    refine ⟨_, _, by rw [text, hs]; rfl, by rw [parenthesized, text, hs']; rfl, ?_, ?_⟩
    · simpa [List.count_append] using hle
    · intro hcount
      rw [parenthesized, heq (by simpa [List.count_append] using hcount)]
  | binary op a b iha ihb =>
    intro bound first
    have hab : a.isSimple = true ∧ b.isSimple = true := by simpa [isSimple] using h
    obtain ⟨s, s', hs, hs', hle, heq⟩ :=
      (iha hab.1).grouped (a.isOpenLeft (Operator.precedence op)) bound first
    obtain ⟨t, t', ht, ht', hle', heq'⟩ :=
      (ihb hab.2).grouped (b.isOpenRight (Operator.precedence op)) bound (first && !a.hasFunction)
    have htext' : (binary op a b).parenthesized.text ctx bound first =
        .ok (s' ++ ' ' :: (Vocabulary.infixWord op).toList ++ ' ' :: t') := by
      rw [parenthesized, text, hasFunction_grouped, hasFunction_parenthesized, hs', ht']
      rfl
    refine ⟨_, _, by rw [text, hs, ht]; rfl, htext', ?_, ?_⟩
    · simp only [List.count_append, List.count_cons]
      omega
    · simp only [List.count_append, List.count_cons]
      intro hcount
      rw [parenthesized, heq (by omega), heq' (by omega)]
  | group es ih =>
    intro bound first
    obtain ⟨ts, ts', hts, hts', hle, heq⟩ :=
      exists_texts_of_opensMore (fun e he => ih e he ((allSimple_iff es).1 h e he)) bound first
    refine ⟨_, _, by rw [text, hts]; rfl, by rw [parenthesized, text, hts']; rfl, ?_, ?_⟩
    · simp only [List.count_append, List.count_cons]
      omega
    · simp only [List.count_append, List.count_cons]
      intro hcount
      rw [parenthesized, heq (by omega)]
  | member e x ih =>
    intro bound first
    obtain ⟨s, s', hs, hs', hle, heq⟩ := (ih h).grouped e.isOpenReceiver bound first
    refine ⟨_, _, by rw [text, hs]; rfl, by rw [parenthesized, text, hs']; rfl, ?_, ?_⟩
    · rw [count_accessText ctx s, count_accessText ctx s']
      omega
    · rw [count_accessText ctx s, count_accessText ctx s']
      intro hcount
      rw [parenthesized, heq (by omega)]
  | lambda ps e ih =>
    intro bound first
    cases first with
    | true =>
      obtain ⟨s, s', hs, hs', hle, heq⟩ := ih h (bound ++ ps) false
      exact ⟨s, s', hs, hs', hle, fun hcount => by rw [parenthesized, heq hcount]⟩
    | false =>
      obtain ⟨s, s', hs, hs', hle, heq⟩ := ih h (bound.filter (· ∉ ps)) false
      refine ⟨functionText ps s, functionText ps s', ?_, ?_, ?_, ?_⟩
      · rw [text, if_neg Bool.false_ne_true, hs]
        rfl
      · rw [parenthesized, text, if_neg Bool.false_ne_true, hs']
        rfl
      · simp only [functionText, List.count_append, List.count_cons]
        omega
      · simp only [functionText, List.count_append, List.count_cons]
        intro hcount
        rw [parenthesized, heq (by omega)]
  | assign | object | array | index | call | conditional => simp [isSimple] at h

/-! ## Clauses -/

/-- A variable with the name of a keyword is written like the keyword, and read as its literal. -/
lemma parse_print_keyword {w : String} {v : Value} (h : (w, v) ∈ Grammar.keywords) :
    parse (print (.variable w)) = .ok (.literal v) :=
  Grammar.parse_ofList_of_atom (.keyword h)

/-- **The clauses of a built expression and of its text** are equal exactly if no operand is written
in parentheses.  The text of an expression of operators, members, functions, groups and plain
literals is read as the expression with a group of one at each operand that is written in
parentheses, so that is the expression that a query gets from the text; both have a clause, and the
clauses differ as soon as there is such an operand.  No variable may have the name of a keyword,
since it would be read as a literal. -/
theorem clause_parenthesized_eq_iff (e : Expr) (hforms : e.isSimple = true)
    (hnames : e.isWritable = true) (hliterals : ∀ v ∈ e.literals, v.isPlain = true) :
    parse e.print = .ok e.parenthesized ∧
    (∀ (q : Query) (kind : Kind),
      q.withSource kind e.print = .ok (q.withExpr kind e.parenthesized)) ∧
    ∀ (scopes : Scopes) (pascalize : Bool), ∃ written read,
      e.clause scopes pascalize = .ok written ∧
      e.parenthesized.clause scopes pascalize = .ok read ∧
      (read = written ↔ e.parenthesized = e) := by
  have hparse : parse e.print = .ok e.parenthesized :=
    parse_print_of_writable ⟨hnames, fun v hv => Value.atom_source_of_isPlain (hliterals v hv)⟩
  refine ⟨hparse, fun q kind => ?_, fun scopes pascalize => ?_⟩
  · rw [Query.withSource, hparse]
    rfl
  · obtain ⟨s, s', hs, hs', -, heq⟩ :=
      opensMore_of_isSimple ⟨scopes, pascalize⟩ hforms [] true
    refine ⟨String.ofList s, String.ofList s', by rw [clause_eq, hs]; rfl,
      by rw [clause_eq, hs']; rfl, fun h => ?_, fun h => ?_⟩
    · rw [String.ofList_inj] at h
      exact heq (by rw [h])
    · rw [h, hs] at hs'
      injection hs' with hs'
      rw [hs']

/-- A difference that is taken away from a member is written in parentheses. -/
theorem clause_parenthesized_eq_iff_difference :
    ∃ written read,
      clause [] false (.lambda ["c"] (.binary "-" (.member (.variable "c") "a")
        (.binary "-" (.literal (.int 1)) (.unary "-" (.member (.variable "c") "b"))))) =
          .ok written ∧
      clause [] false (parenthesized (.lambda ["c"] (.binary "-" (.member (.variable "c") "a")
        (.binary "-" (.literal (.int 1)) (.unary "-" (.member (.variable "c") "b")))))) =
          .ok read ∧
      (read = written ↔
        parenthesized (.lambda ["c"] (.binary "-" (.member (.variable "c") "a")
          (.binary "-" (.literal (.int 1)) (.unary "-" (.member (.variable "c") "b"))))) =
        .lambda ["c"] (.binary "-" (.member (.variable "c") "a")
          (.binary "-" (.literal (.int 1)) (.unary "-" (.member (.variable "c") "b"))))) :=
  (clause_parenthesized_eq_iff
    (.lambda ["c"] (.binary "-" (.member (.variable "c") "a")
      (.binary "-" (.literal (.int 1)) (.unary "-" (.member (.variable "c") "b")))))
    (by decide) (by decide) (by decide)).2.2 [] false

/-- **A built product and its text have different clauses**: the product of a sum has a clause that
reads as a sum, and the clause of its text has the sum in parentheses. -/
theorem clause_built_product :
    parse (print (.lambda ["c"] (.binary "*"
      (.binary "+" (.member (.variable "c") "a") (.literal (.int 1))) (.literal (.int 2))))) =
      .ok (.lambda ["c"] (.binary "*"
        (.group [.binary "+" (.member (.variable "c") "a") (.literal (.int 1))])
        (.literal (.int 2)))) ∧
    clause [] false (.lambda ["c"] (.binary "*"
      (.binary "+" (.member (.variable "c") "a") (.literal (.int 1))) (.literal (.int 2)))) =
      .ok "a add 1 mul 2" ∧
    clause [] false (.lambda ["c"] (.binary "*"
      (.group [.binary "+" (.member (.variable "c") "a") (.literal (.int 1))])
      (.literal (.int 2)))) =
      .ok "(a add 1) mul 2" := by
  refine ⟨parse_print_of_writable ⟨by decide, ?_⟩, rfl, rfl⟩
  intro v hv
  refine Value.atom_source_of_isPlain ?_
  revert v
  decide

end LambdaQuery.Expr
