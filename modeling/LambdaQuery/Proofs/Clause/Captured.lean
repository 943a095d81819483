import LambdaQuery.Proofs.Binary64.Decimal
import LambdaQuery.Proofs.Clause.Contained
import LambdaQuery.Proofs.Clause.Related

/-!
# What captured variables reach

A captured variable is written wherever its name is looked up.  These are the places where the name
occurs free, and also those where it is the parameter of a function other than the outermost one: a
variable that is captured under the name of a range variable takes its place.  So the clause of an
expression is settled by the variables captured under its free names and under its range variables,
and each of them does have an influence.

## Main results

* `LambdaQuery.Value.exists_mem_literal` — the literal of a value is no part of the word `Math`.
* `LambdaQuery.Expr.exists_isRendered_of_isLookedUp` — one step towards a name that is looked up.
* `LambdaQuery.Expr.infix_text` — the literal of a variable that is looked up stands in the text.
* `LambdaQuery.Expr.clause_depends_on_looked_up` — the clause depends on the variables that are
  looked up, on all of them, and on no others.
* `LambdaQuery.Expr.clause_range_variable_captured` — a captured variable in the place of a range
  variable.
-/

set_option autoImplicit false

namespace LambdaQuery

open Clause

/-! ## The literals of values -/

/-- A digit is no letter of the word `Math`. -/
lemma not_mem_mathOwner_of_isDigit {c : Char} (h : c.isDigit = true) :
    c ∉ Vocabulary.mathOwner.toList := by
  intro hc
  have hletter : c = 'M' ∨ c = 'a' ∨ c = 't' ∨ c = 'h' := by
    simpa [Vocabulary.mathOwner] using hc
  rcases hletter with rfl | rfl | rfl | rfl <;> exact absurd h (by decide)

/-- A numeral is no part of the word `Math`. -/
lemma exists_mem_natural (n : Nat) : ∃ c ∈ Text.natural n, c ∉ Vocabulary.mathOwner.toList := by
  obtain ⟨c, hc⟩ := List.exists_mem_of_ne_nil _ (Text.natural_ne_nil n)
  exact ⟨c, hc, not_mem_mathOwner_of_isDigit (Text.isDigit_of_mem_natural hc)⟩

/-- The whole part of a decimal is a part of its text. -/
lemma Binary64.natural_subset_positional (v : Nat) :
    Text.natural (v / Nat.pow 10 places) ⊆ positional v := by
  intro c hc
  unfold positional
  generalize dropTrailingZeros _ = decimals
  cases decimals with
  | nil => exact hc
  | cons d ds => exact List.mem_append_left _ hc

/-- The text of a floating-point number is no part of the word `Math`. -/
lemma Binary64.exists_mem_text (x : Binary64) :
    ∃ c ∈ x.text "Infinity".toList, c ∉ Vocabulary.mathOwner.toList := by
  unfold Binary64.text
  split_ifs
  · exact ⟨'N', by decide, by decide⟩
  · obtain ⟨c, hc, hmath⟩ := exists_mem_natural (shortest .upward x / Nat.pow 10 places)
    exact ⟨c, List.mem_append_right _ (natural_subset_positional _ hc), hmath⟩
  · exact ⟨'I', by simp, by decide⟩

/-- The numeral of an integer is no part of the word `Math`. -/
lemma exists_mem_integer (n : Int) : ∃ c ∈ Text.integer n, c ∉ Vocabulary.mathOwner.toList := by
  cases n with
  | ofNat k => exact exists_mem_natural k
  | negSucc k =>
    obtain ⟨c, hc, hmath⟩ := exists_mem_natural (k + 1)
    exact ⟨c, List.mem_cons_of_mem _ hc, hmath⟩

/-- **The literal of a value is no part of the word `Math`**: it has a character that the word does
not have. -/
lemma Value.exists_mem_literal (v : Value) :
    ∃ c ∈ v.literal, c ∉ Vocabulary.mathOwner.toList := by
  cases v with
  | null => exact ⟨'n', by decide, by decide⟩
  | bool b =>
    cases b with
    | false => exact ⟨'f', by decide, by decide⟩
    | true => exact ⟨'r', by decide, by decide⟩
  | int n => exact exists_mem_integer n.toInt
  | float x => exact x.exists_mem_text
  | string s => exact ⟨'"', List.mem_cons_self, by decide⟩
  | date t => exact ⟨'"', List.mem_append_right _ (by decide), by decide⟩

namespace Expr

/-! ## Agreement on the names that are looked up -/

/-- Equality is respected by rendering. -/
lemma isTextRelation_eq : IsTextRelation (· = ·) where
  refl _ := rfl
  append := by rintro s _ t _ rfl rfl; rfl
  isEmpty := by rintro s _ rfl; rfl
  math := by rintro s _ rfl; rfl

/-- The clause is the same for captured variables that agree on the free names and on the range
variables of the expression. -/
lemma clause_eq_of_lookup_eq {e : Expr} {scopes scopes' : Scopes}
    (h : ∀ x ∈ e.freeNames ++ e.rangeNames true, scopes.lookup x = scopes'.lookup x)
    (pascalize : Bool) : e.clause scopes pascalize = e.clause scopes' pascalize := by
  have htext : ∀ x, IsLookedUp e.freeNames (e.rangeNames true) [] x →
      scopes.textOf x = scopes'.textOf x := by
    intro x hx
    have hmem : x ∈ e.freeNames ++ e.rangeNames true := by
      rcases hx with ⟨hfree, -⟩ | hrange
      · exact List.mem_append_left _ hfree
      · exact List.mem_append_right _ hrange
    simp only [Scopes.textOf, h x hmem]
  rw [clause_eq, clause_eq, (text_related isTextRelation_eq e [] true htext).eq]

/-! ## What is looked up is written -/

/-- The free names of members are those of their expressions. -/
lemma freeNamesOfMembers_eq (ms : List (String × Expr)) :
    freeNamesOfMembers ms = freeNamesOfAll (ms.map Prod.snd) := by
  induction ms with
  | nil => rfl
  | cons m ms ih => rw [freeNamesOfMembers, List.map_cons, freeNamesOfAll, ih]

/-- The range variables of members are those of their expressions. -/
lemma rangeNamesOfMembers_eq (first : Bool) (ms : List (String × Expr)) :
    rangeNamesOfMembers first ms = rangeNamesOfAll first (ms.map Prod.snd) := by
  induction ms generalizing first with
  | nil => rfl
  | cons m ms ih => rw [rangeNamesOfMembers, List.map_cons, rangeNamesOfAll, ih]

/-- The names and functions in an expression are those in its parts, if it neither is a variable nor
a function nor a call. -/
lemma names_eq_parts {e : Expr} (hvariable : ∀ x, e ≠ .variable x)
    (hlambda : ∀ ps b, e ≠ .lambda ps b) (hcall : ∀ f es, e ≠ .call f es) :
    e.freeNames = freeNamesOfAll e.parts ∧
      (∀ first, e.rangeNames first = rangeNamesOfAll first e.parts) ∧
      e.functionAddresses = functionAddressesFrom 0 e.parts := by
  cases e with
  | «variable» x => exact absurd rfl (hvariable x)
  | lambda ps b => exact absurd rfl (hlambda ps b)
  | call f es => exact absurd rfl (hcall f es)
  | object ms =>
    exact ⟨freeNamesOfMembers_eq ms, fun first => rangeNamesOfMembers_eq first ms,
      memberFunctionAddressesFrom_eq 0 ms⟩
  | _ =>
    simp [freeNames, freeNamesOfAll, rangeNames, rangeNamesOfAll, functionAddresses,
      functionAddressesFrom, parts]

section Shown

variable {ctx : Context} {bound : List String} {first : Bool} {mark : Address → Bool} {x : String}

/-- What is looked up in several parts is looked up in one of them, which has its own marks. -/
lemma exists_of_isLookedUp_all {es : List Expr} {i : Nat}
    (hmark : MarksFirstFrom i first (functionAddressesFrom i es) mark)
    (hx : IsLookedUp (freeNamesOfAll es) (rangeNamesOfAll first es) bound x) :
    ∃ k a first', es[k]? = some a ∧
      MarksFirst first' a.functionAddresses (fun p => mark ((i + k) :: p)) ∧
      IsLookedUp a.freeNames (a.rangeNames first') bound x := by
  induction es generalizing i first with
  | nil => simp [IsLookedUp, freeNamesOfAll, rangeNamesOfAll] at hx
  | cons e es ih =>
    rcases isLookedUp_append.1 hx with hx | hx
    · exact ⟨0, e, first, rfl, hmark.head fun q => cons_notMem_functionAddressesFrom i q es, hx⟩
    · have htail := hmark.tail
      rw [← not_hasFunction_eq] at htail
      obtain ⟨k, a, first', ha, hmark, hx⟩ := ih htail hx
      rw [Nat.add_right_comm, Nat.add_assoc] at hmark
      exact ⟨k + 1, a, first', ha, hmark, hx⟩

/-- **One step towards a name**: what is looked up in an expression with a text is looked up in one
of the parts that are rendered, unless the expression is a variable. -/
lemma exists_isRendered_of_isLookedUp {e : Expr} {t : List Char} (hvariable : ∀ y, e ≠ .variable y)
    (ht : e.markedText ctx bound mark = .ok t) (hmark : MarksFirst first e.functionAddresses mark)
    (hx : IsLookedUp e.freeNames (e.rangeNames first) bound x) :
    ∃ p a first', IsRendered e p a ∧
      MarksFirst first' a.functionAddresses (fun q => mark (p ++ q)) ∧
      IsLookedUp a.freeNames (a.rangeNames first') (e.markedBoundInside (mark []) bound) x := by
  cases e with
  | «variable» y => exact absurd rfl (hvariable y)
  | lambda ps e =>
    obtain ⟨hself, hbody⟩ := hmark.body
    refine ⟨[0], e, false, .part (by simp) rfl, hbody, ?_⟩
    rw [markedBoundInside, hself]
    cases first with
    | true => exact isLookedUp_outermost.1 hx
    | false => exact isLookedUp_nested.1 hx
  | call f es =>
    have hargument : IsLookedUp (freeNamesOfAll es) (rangeNamesOfAll first es) bound x →
        ∃ p a first', IsRendered (.call f es) p a ∧
          MarksFirst first' a.functionAddresses (fun q => mark (p ++ q)) ∧
          IsLookedUp a.freeNames (a.rangeNames first') bound x := by
      intro hx
      obtain ⟨k, a, first', ha, hmark, hx⟩ := exists_of_isLookedUp_all hmark.arguments hx
      rw [Nat.add_comm] at hmark
      exact ⟨[k + 1], a, first', .argument ha, hmark, hx⟩
    obtain ⟨ts, -, ⟨o, y, s, rfl, -, -⟩ | ⟨y, rfl, -⟩⟩ := cases_of_markedText_call ht
    · rcases isLookedUp_append.1 hx with hx | hx
      · exact hargument hx
      · have hcallee := hmark.callee fun p => cons_notMem_functionAddressesFrom 0 p es
        rw [← not_anyFunction_eq (fun e _ => not_hasFunction_eq e)] at hcallee
        exact ⟨[0, 0], o, _, .owner, (hcallee.marksFirstFrom 0).last, hx⟩
    · exact hargument (by simpa [freeNames, rangeNames] using hx)
  | _ =>
    obtain ⟨hfree, hrange, haddresses⟩ := names_eq_parts hvariable (by simp) (by simp)
    rw [haddresses] at hmark
    rw [hfree, hrange] at hx
    obtain ⟨k, a, first', ha, hmark, hx⟩ := exists_of_isLookedUp_all (hmark.marksFirstFrom 0) hx
    rw [Nat.zero_add] at hmark
    exact ⟨[k], a, first', .part (by simp) ha, hmark, hx⟩

/-- The literal of a captured variable is a piece of every text with marks in which its name is
looked up. -/
lemma infix_markedText_of_isLookedUp {v : Value} (hv : ctx.scopes.lookup x = some v) {e : Expr}
    {t : List Char} (ht : e.markedText ctx bound mark = .ok t)
    (hmark : MarksFirst first e.functionAddresses mark)
    (hx : IsLookedUp e.freeNames (e.rangeNames first) bound x) : v.literal <:+: t := by
  induction e using renderedInduction generalizing bound first mark t with
  | h e ih =>
    by_cases hvariable : ∀ y, e ≠ .variable y
    · obtain ⟨p, a, first', ha, hmark', hx'⟩ :=
        exists_isRendered_of_isLookedUp hvariable ht hmark hx
      obtain ⟨s, hs, hst⟩ := ha.exists_writtenIn ht
      exact hst _ v.exists_mem_literal (ih p a ha hs hmark' hx')
    · push Not at hvariable
      obtain ⟨y, rfl⟩ := hvariable
      obtain ⟨rfl, hbound⟩ : x = y ∧ x ∉ bound := by
        simpa [IsLookedUp, freeNames, rangeNames] using hx
      obtain rfl := pure_eq_ok_iff.1 ht
      simp [variableText, hbound, hv]

/-- **What is looked up is written**: the literal of a captured variable is a piece of the text of
every expression in which its name is looked up.

**Proof sketch.** The flag is a mark, and with marks the name is followed step by step through the
parts that are rendered.  What is written in such a part is written in the whole, and the literal is
no part of the word `Math`. -/
theorem infix_text {v : Value} (hv : ctx.scopes.lookup x = some v) {e : Expr} {t : List Char}
    (ht : e.text ctx bound first = .ok t)
    (hx : IsLookedUp e.freeNames (e.rangeNames first) bound x) : v.literal <:+: t := by
  have hmark : MarksFirst first e.functionAddresses fun p =>
      first && decide (e.functionAddresses.head? = some p) := fun _ => rfl
  rw [text_eq_markedText e bound first _ hmark] at ht
  exact infix_markedText_of_isLookedUp hv ht hmark hx

end Shown

/-- The literal of a string is longer than the string. -/
lemma length_lt_literal (s : String) : s.length < (Value.string s).literal.length := by
  have hchars : ∀ cs : List Char,
      cs.length ≤ (cs.flatMap fun c => if c = '"' then ['"', '"'] else [c]).length := by
    intro cs
    induction cs with
    | nil => exact Nat.le_refl 0
    | cons c cs ih =>
      have hone : 1 ≤ (if c = '"' then ['"', '"'] else [c]).length := by split_ifs <;> simp
      rw [List.flatMap_cons, List.length_append, List.length_cons]
      omega
  change s.length < (Value.doubled s).length
  have := hchars s.toList
  rw [Value.doubled, List.length_append, List.length_cons, ← String.length_toList]
  omega

/-- A captured variable whose literal is longer than the clause changes the clause. -/
lemma clause_ne_of_lookup {e : Expr} {scopes : Scopes} {pascalize : Bool} {x : String} {v : Value}
    (hx : x ∈ e.freeNames ++ e.rangeNames true) (hv : scopes.lookup x = some v) {text : String}
    (hlong : text.length < v.literal.length) : e.clause scopes pascalize ≠ .ok text := by
  intro h
  have hlooked : IsLookedUp e.freeNames (e.rangeNames true) [] x := by
    simpa [IsLookedUp] using hx
  rw [clause_eq, map_eq_pure_bind, bind_eq_ok_iff] at h
  obtain ⟨t, ht, htext⟩ := h
  obtain rfl := pure_eq_ok_iff.1 htext
  have := (infix_text hv ht hlooked).length_le
  simp at hlong
  omega

/-- **What a clause depends on**: it is the same for captured variables that agree on the free names
and on the range variables of the expression.  None of these names can be left out: whatever is
captured, with another value for one of them the clause is another one. -/
theorem clause_depends_on_looked_up (e : Expr) (pascalize : Bool) :
    (∀ scopes scopes' : Scopes,
      (∀ x ∈ e.freeNames, scopes.lookup x = scopes'.lookup x) →
      (∀ x ∈ e.rangeNames true, scopes.lookup x = scopes'.lookup x) →
      e.clause scopes pascalize = e.clause scopes' pascalize) ∧
    ∀ (scopes : Scopes) (text : String), e.clause scopes pascalize = .ok text →
      ∀ x ∈ e.freeNames ++ e.rangeNames true, ∃ scopes' : Scopes,
        (∀ y, y ≠ x → scopes'.lookup y = scopes.lookup y) ∧
        e.clause scopes' pascalize ≠ .ok text := by
  refine ⟨fun scopes scopes' hfree hrange => ?_, fun scopes text _ x hx => ?_⟩
  · exact clause_eq_of_lookup_eq (List.forall_mem_append.2 ⟨hfree, hrange⟩) pascalize
  · -- a nearer frame captures the name with a literal that is too long for the text
    have hlookup : ∀ y, Scopes.lookup (Bindings.empty.set x (.string text) :: scopes) y =
        if y = x then some (.string text) else scopes.lookup y := by
      intro y
      simp only [Scopes.lookup, List.findSome?_cons, Bindings.get?_set]
      split_ifs with hy
      · rfl
      · rfl
    refine ⟨Bindings.empty.set x (.string text) :: scopes, fun y hy => ?_, ?_⟩
    · rw [hlookup, if_neg hy]
    · exact clause_ne_of_lookup hx (by rw [hlookup, if_pos rfl]) (length_lt_literal text)

/-- Variables captured under the name of the parameter of the outermost function, or under a name
that does not occur, change nothing.  One captured under the name of the range variable does. -/
theorem clause_depends_on_looked_up_any :
    (lambda ["c"] (.call (.member (.member (.variable "c") "x") "any")
        [.lambda ["t"] (.binary "==" (.variable "t") (.variable "y"))])).clause
      [Bindings.ofList [("y", .int 1), ("c", .null)]] false =
    (lambda ["c"] (.call (.member (.member (.variable "c") "x") "any")
        [.lambda ["t"] (.binary "==" (.variable "t") (.variable "y"))])).clause
      [Bindings.ofList [("z", .null)], Bindings.ofList [("y", .int 1)]] false ∧
    ∃ scopes : Scopes,
      (∀ y, y ≠ "t" → scopes.lookup y = Scopes.lookup [Bindings.ofList [("y", .int 1)]] y) ∧
      (lambda ["c"] (.call (.member (.member (.variable "c") "x") "any")
        [.lambda ["t"] (.binary "==" (.variable "t") (.variable "y"))])).clause scopes false ≠
      .ok "x/any(t: t eq 1)" :=
  ⟨(clause_depends_on_looked_up _ false).1 _ _ (by decide) (by decide),
    (clause_depends_on_looked_up _ false).2 _ _ rfl "t" (by decide)⟩

/-- A function without free names whose clause is not the same for all captured variables: the one
captured as `t` takes the place of the range variable `t`. -/
theorem clause_range_variable_captured :
    (lambda ["c"] (.call (.member (.member (.variable "c") "x") "any")
        [.lambda ["t"] (.variable "t")])).freeNames = [] ∧
    (lambda ["c"] (.call (.member (.member (.variable "c") "x") "any")
        [.lambda ["t"] (.variable "t")])).clause [] false = .ok "x/any(t: t)" ∧
    (lambda ["c"] (.call (.member (.member (.variable "c") "x") "any")
        [.lambda ["t"] (.variable "t")])).clause [Bindings.ofList [("t", .int 5)]] false =
      .ok "x/any(t: 5)" :=
  ⟨by decide, rfl, rfl⟩

end Expr

end LambdaQuery
