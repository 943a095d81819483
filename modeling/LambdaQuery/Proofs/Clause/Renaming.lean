import LambdaQuery.Proofs.Clause.Outermost

/-!
# Renaming the parameter of a clause

The parameter of the outermost function is written as nothing, so its name does not matter.  It may
be replaced by any name that the body does not use, as long as the parameter itself is not called.
Occurrences under a function that has a parameter of the same name belong to that function and keep
their name.

## Main definitions

* `LambdaQuery.Expr.names` — the variables and parameters of an expression.
* `LambdaQuery.Expr.calledNames` — the free names that are called.
* `LambdaQuery.Expr.rename` — an expression with a free name replaced.
* `LambdaQuery.Clause.SameClause` — two renderings give one text, or both end at a callee that
  cannot be called.

## Main results

* `LambdaQuery.Expr.text_congr_bound` — only parameters that occur in an expression matter to its
  text.
* `LambdaQuery.Expr.text_rename` — the text of an expression after renaming.
* `LambdaQuery.Expr.clause_rename_parameter` — the clause after renaming its parameter.

## Design

Inside the outermost function no other function is outermost, so the two-run induction is made for
texts in which the first function is not the outermost one.  What the two runs know differs: the
parameter is among the names of the first, and its new name among those of the second.
-/

set_option autoImplicit false

namespace LambdaQuery

/-! ## Names and renaming -/

namespace Expr

mutual

/-- The names that occur in an expression as variables or as parameters of functions. -/
def names : Expr → List String
  | .literal _ => []
  | .variable x => [x]
  | .unary _ e => e.names
  | .binary _ a b => a.names ++ b.names
  | .group es => namesOfAll es
  | .assign _ e => e.names
  | .object ms => namesOfMembers ms
  | .array es => namesOfAll es
  | .member e _ => e.names
  | .index e k => e.names ++ k.names
  | .lambda ps e => ps ++ e.names
  | .call e es => e.names ++ namesOfAll es
  | .conditional a b c => a.names ++ b.names ++ c.names

/-- The names that occur in expressions. -/
def namesOfAll : List Expr → List String
  | [] => []
  | e :: es => e.names ++ namesOfAll es

/-- The names that occur in members. -/
def namesOfMembers : List (String × Expr) → List String
  | [] => []
  | (_, e) :: ms => e.names ++ namesOfMembers ms

end

mutual

/-- The names that occur free as what is called. -/
def calledNames : Expr → List String
  | .literal _ => []
  | .variable _ => []
  | .unary _ e => e.calledNames
  | .binary _ a b => a.calledNames ++ b.calledNames
  | .group es => calledNamesOfAll es
  | .assign _ e => e.calledNames
  | .object ms => calledNamesOfMembers ms
  | .array es => calledNamesOfAll es
  | .member e _ => e.calledNames
  | .index e k => e.calledNames ++ k.calledNames
  | .lambda ps e => e.calledNames.filter (· ∉ ps)
  | .call (.variable x) es => x :: calledNamesOfAll es
  | .call e es => e.calledNames ++ calledNamesOfAll es
  | .conditional a b c => a.calledNames ++ b.calledNames ++ c.calledNames

/-- The names that occur free in expressions as what is called. -/
def calledNamesOfAll : List Expr → List String
  | [] => []
  | e :: es => e.calledNames ++ calledNamesOfAll es

/-- The names that occur free in members as what is called. -/
def calledNamesOfMembers : List (String × Expr) → List String
  | [] => []
  | (_, e) :: ms => e.calledNames ++ calledNamesOfMembers ms

end

mutual

/-- The expression with the free occurrences of the name `c` replaced by `d`.  A function with the
parameter `c` has none. -/
def rename (c d : String) : Expr → Expr
  | .literal v => .literal v
  | .variable x => .variable (if x = c then d else x)
  | .unary op e => .unary op (e.rename c d)
  | .binary op a b => .binary op (a.rename c d) (b.rename c d)
  | .group es => .group (renameAll c d es)
  | .assign x e => .assign x (e.rename c d)
  | .object ms => .object (renameMembers c d ms)
  | .array es => .array (renameAll c d es)
  | .member e x => .member (e.rename c d) x
  | .index e k => .index (e.rename c d) (k.rename c d)
  | .lambda ps e => .lambda ps (if c ∈ ps then e else e.rename c d)
  | .call e es => .call (e.rename c d) (renameAll c d es)
  | .conditional a b e => .conditional (a.rename c d) (b.rename c d) (e.rename c d)

/-- The expressions with a free name replaced. -/
def renameAll (c d : String) : List Expr → List Expr
  | [] => []
  | e :: es => e.rename c d :: renameAll c d es

/-- The members with a free name replaced. -/
def renameMembers (c d : String) : List (String × Expr) → List (String × Expr)
  | [] => []
  | (x, e) :: ms => (x, e.rename c d) :: renameMembers c d ms

end

end Expr

/-! ## Renderings with one text -/

namespace Clause

/-- Two renderings succeed with the same result, or both fail at a callee that cannot be called.
The callees may be written differently. -/
inductive SameClause {α : Type} : Except CompileError α → Except CompileError α → Prop where
  | ok (a : α) : SameClause (.ok a) (.ok a)
  | invalid (s t : String) :
      SameClause (.error (.invalidCallTarget s)) (.error (.invalidCallTarget t))

/-- Renderings in two steps give one text if the first steps do and the second steps do on what the
first ones give. -/
lemma SameClause.bind {α β : Type} {x y : Except CompileError α} {f g : α → Except CompileError β}
    (h : SameClause x y) (hnext : ∀ a, SameClause (f a) (g a)) :
    SameClause (x >>= f) (y >>= g) := by
  cases h with
  | ok a => exact hnext a
  | invalid s t => exact .invalid s t

/-- Renderings go on giving one text if the same is made of their results. -/
lemma SameClause.bind_pure {α β : Type} {x y : Except CompileError α} (h : SameClause x y)
    (f : α → β) : SameClause (x >>= fun a => pure (f a)) (y >>= fun a => pure (f a)) :=
  h.bind fun a => .ok (f a)

/-- Renderings that give one text succeed with the same results. -/
lemma SameClause.eq_ok_iff {α : Type} {x y : Except CompileError α} (h : SameClause x y) {a : α} :
    x = .ok a ↔ y = .ok a := by
  cases h with
  | ok b => rfl
  | invalid s t => simp

end Clause

namespace Expr

open Clause

variable {ctx : Context} {c d : String} {bound bound' : List String}

/-! ## Parameters that do not occur -/

/-- The two lists of parameters agree on the given names. -/
def AgreeOn (xs bound bound' : List String) : Prop := ∀ x ∈ xs, x ∈ bound ↔ x ∈ bound'

/-- Agreement on two lists of names is agreement on both. -/
lemma agreeOn_append {xs ys : List String} :
    AgreeOn (xs ++ ys) bound bound' ↔ AgreeOn xs bound bound' ∧ AgreeOn ys bound bound' :=
  List.forall_mem_append

/-- Agreement stays if the same parameters are added. -/
lemma AgreeOn.append {xs : List String} (h : AgreeOn xs bound bound') (ps : List String) :
    AgreeOn xs (bound ++ ps) (bound' ++ ps) := by
  intro x hx
  rw [List.mem_append, List.mem_append, h x hx]

/-- Agreement stays if the same parameters are taken out. -/
lemma AgreeOn.filter {xs : List String} (h : AgreeOn xs bound bound') (ps : List String) :
    AgreeOn xs (bound.filter (· ∉ ps)) (bound'.filter (· ∉ ps)) := by
  intro x hx
  rw [List.mem_filter, List.mem_filter, h x hx]

/-- The text of the expression depends on those parameters only that occur in it. -/
def DependsOnNames (ctx : Context) (e : Expr) : Prop :=
  ∀ bound bound' first, AgreeOn e.names bound bound' →
    SameClause (e.text ctx bound first) (e.text ctx bound' first)

/-- Lists of texts depend on those parameters only that occur in the expressions. -/
lemma texts_congr_bound {es : List Expr} (h : ∀ e ∈ es, DependsOnNames ctx e)
    (hbound : AgreeOn (namesOfAll es) bound bound') (first : Bool) :
    SameClause (texts ctx bound first es) (texts ctx bound' first es) := by
  induction es generalizing first with
  | nil => exact .ok []
  | cons e es ih =>
    obtain ⟨hhead, htail⟩ := agreeOn_append.1 hbound
    refine (h e (by simp) _ _ first hhead).bind fun t => ?_
    exact (ih (fun e' he' => h e' (by simp [he'])) htail _).bind_pure _

/-- Lists of texts of members depend on those parameters only that occur in the members. -/
lemma memberTexts_congr_bound {ms : List (String × Expr)} (h : ∀ m ∈ ms, DependsOnNames ctx m.2)
    (hbound : AgreeOn (namesOfMembers ms) bound bound') (first : Bool) :
    SameClause (memberTexts ctx bound first ms) (memberTexts ctx bound' first ms) := by
  induction ms generalizing first with
  | nil => exact .ok []
  | cons m ms ih =>
    obtain ⟨hhead, htail⟩ := agreeOn_append.1 hbound
    refine (h m (by simp) _ _ first hhead).bind fun t => ?_
    exact (ih (fun m' hm' => h m' (by simp [hm'])) htail _).bind_pure _

/-- **Parameters that do not occur** in an expression do not matter to its text. -/
theorem text_congr_bound (e : Expr) : DependsOnNames ctx e := by
  induction e using renderInduction with
  | literal v => exact fun _ _ _ _ => .ok _
  | «variable» x =>
    intro bound bound' first h
    have hx : x ∈ bound ↔ x ∈ bound' := h x (by simp [names])
    simp only [text, variableText, hx]
    exact .ok _
  | unary op e ih => exact fun bound bound' first h => (ih bound bound' first h).bind_pure _
  | binary op a b iha ihb =>
    intro bound bound' first h
    obtain ⟨ha, hb⟩ := agreeOn_append.1 h
    exact (iha _ _ first ha).bind fun s => (ihb _ _ _ hb).bind_pure _
  | group es ih => exact fun bound bound' first h => (texts_congr_bound ih h first).bind_pure _
  | assign x e ih => exact ih
  | object ms ih =>
    exact fun bound bound' first h => (memberTexts_congr_bound ih h first).bind_pure _
  | array es ih => exact fun bound bound' first h => (texts_congr_bound ih h first).bind_pure _
  | member e x ih => exact fun bound bound' first h => (ih bound bound' first h).bind_pure _
  | index e k ihe ihk =>
    intro bound bound' first h
    obtain ⟨he, hk⟩ := agreeOn_append.1 h
    exact (ihe _ _ first he).bind fun s => (ihk _ _ _ hk).bind_pure _
  | lambda ps e ih =>
    intro bound bound' first h
    have he := (agreeOn_append.1 h).2
    cases first with
    | true => exact ih _ _ false (he.append ps)
    | false => exact (ih _ _ false (he.filter ps)).bind_pure _
  | method e x es ihe ihes =>
    intro bound bound' first h
    obtain ⟨he, hes⟩ := agreeOn_append.1 h
    exact (texts_congr_bound ihes hes first).bind fun ts => (ihe _ _ _ he).bind_pure _
  | function x es ih =>
    intro bound bound' first h
    obtain ⟨-, hes⟩ := agreeOn_append.1 h
    exact (texts_congr_bound ih hes first).bind_pure _
  | invalid e es hmember hvariable =>
    intro bound bound' first _
    rw [text_invalid hmember hvariable, text_invalid hmember hvariable]
    exact .invalid _ _
  | conditional a b e iha ihb ihe =>
    intro bound bound' first h
    obtain ⟨hab, he⟩ := agreeOn_append.1 h
    obtain ⟨ha, hb⟩ := agreeOn_append.1 hab
    refine (iha _ _ first ha).bind fun s => (ihb _ _ _ hb).bind fun t => ?_
    exact (ihe _ _ _ he).bind_pure _

/-! ## Texts after renaming -/

/-- What the two renderings know of their parameters: `c` is one in the first and `d` in the second,
and they agree on the other names. -/
structure Exchanged (c d : String) (xs bound bound' : List String) : Prop where
  /-- The old name is a parameter of the first rendering. -/
  old : c ∈ bound
  /-- The new name is a parameter of the second rendering. -/
  new : d ∈ bound'
  /-- The new name does not occur. -/
  fresh : d ∉ xs
  /-- All other names are parameters of both or of none. -/
  agree : ∀ x ∈ xs, x ≠ c → (x ∈ bound ↔ x ∈ bound')

/-- What is known for the names of two parts is known for those of each. -/
lemma Exchanged.of_append {xs ys : List String} (h : Exchanged c d (xs ++ ys) bound bound') :
    Exchanged c d xs bound bound' ∧ Exchanged c d ys bound bound' := by
  obtain ⟨hxs, hys⟩ := List.forall_mem_append.1 h.agree
  have hfresh := h.fresh
  rw [List.mem_append, not_or] at hfresh
  exact ⟨⟨h.old, h.new, hfresh.1, hxs⟩, ⟨h.old, h.new, hfresh.2, hys⟩⟩

/-- Inside a function with other parameters than the old name the same is known. -/
lemma Exchanged.filter {xs ps : List String} (h : Exchanged c d (ps ++ xs) bound bound')
    (hc : c ∉ ps) : Exchanged c d xs (bound.filter (· ∉ ps)) (bound'.filter (· ∉ ps)) := by
  obtain ⟨hps, hxs⟩ := h.of_append
  refine ⟨?_, ?_, hxs.fresh, fun x hx hne => ?_⟩
  · simp [h.old, hc]
  · simp [h.new, hps.fresh]
  · rw [List.mem_filter, List.mem_filter, hxs.agree x hx hne]

/-- Inside a function that has the old name as a parameter the two renderings agree on all names. -/
lemma Exchanged.agreeOn_filter {xs ps : List String} (h : Exchanged c d (ps ++ xs) bound bound')
    (hc : c ∈ ps) : AgreeOn xs (bound.filter (· ∉ ps)) (bound'.filter (· ∉ ps)) := by
  intro x hx
  by_cases hxc : x = c
  · simp [hxc, hc]
  · rw [List.mem_filter, List.mem_filter, h.of_append.2.agree x hx hxc]

/-- The text of the expression is the same after renaming. -/
def IsRenamed (ctx : Context) (c d : String) (e : Expr) : Prop :=
  ∀ bound bound', Exchanged c d e.names bound bound' → c ∉ e.calledNames →
    SameClause (e.text ctx bound false) ((e.rename c d).text ctx bound' false)

/-- Lists of texts after renaming. -/
lemma texts_rename {es : List Expr} (h : ∀ e ∈ es, IsRenamed ctx c d e)
    (hbound : Exchanged c d (namesOfAll es) bound bound') (hc : c ∉ calledNamesOfAll es) :
    SameClause (texts ctx bound false es) (texts ctx bound' false (renameAll c d es)) := by
  induction es with
  | nil => exact .ok []
  | cons e es ih =>
    obtain ⟨hhead, htail⟩ := hbound.of_append
    rw [calledNamesOfAll, List.mem_append, not_or] at hc
    refine (h e (by simp) _ _ hhead hc.1).bind fun t => ?_
    exact (ih (fun e' he' => h e' (by simp [he'])) htail hc.2).bind_pure _

/-- Lists of texts of members after renaming. -/
lemma memberTexts_rename {ms : List (String × Expr)} (h : ∀ m ∈ ms, IsRenamed ctx c d m.2)
    (hbound : Exchanged c d (namesOfMembers ms) bound bound') (hc : c ∉ calledNamesOfMembers ms) :
    SameClause (memberTexts ctx bound false ms)
      (memberTexts ctx bound' false (renameMembers c d ms)) := by
  induction ms with
  | nil => exact .ok []
  | cons m ms ih =>
    obtain ⟨hhead, htail⟩ := hbound.of_append
    rw [calledNamesOfMembers, List.mem_append, not_or] at hc
    refine (h m (by simp) _ _ hhead hc.1).bind fun t => ?_
    exact (ih (fun m' hm' => h m' (by simp [hm'])) htail hc.2).bind_pure _

/-- What neither is a method nor has a name is neither after renaming. -/
lemma text_rename_invalid {e : Expr} (hmember : ∀ a x, e ≠ .member a x)
    (hvariable : ∀ x, e ≠ .variable x) (bound : List String) (first : Bool) (es : List Expr) :
    ∃ t, ((call e es).rename c d).text ctx bound first = .error (.invalidCallTarget t) := by
  cases e with
  | member a x => exact absurd rfl (hmember a x)
  | «variable» x => exact absurd rfl (hvariable x)
  | _ => exact ⟨_, rfl⟩

/-- **The text after renaming**: where the old name is a parameter of the outermost function in one
rendering and the new name in the other, the texts are the same.

**Proof sketch.** Induction over the parts that are rendered, along both renderings.  The parameter
is empty in both, every other variable is written alike, and a function with the old name as a
parameter is left as it is: inside it neither name is a parameter of the outermost function. -/
theorem text_rename (e : Expr) : IsRenamed ctx c d e := by
  induction e using renderInduction with
  | literal v => exact fun _ _ _ _ => .ok _
  | «variable» x =>
    intro bound bound' h _
    by_cases hx : x = c
    · have hold : variableText ctx bound x = [] := by simp [variableText, hx, h.old]
      have hnew : variableText ctx bound' d = [] := by simp [variableText, h.new]
      simp only [rename, if_pos hx, text, hold, hnew]
      exact .ok []
    · have hagree := h.agree x (by simp [names]) hx
      simp only [rename, if_neg hx, text, variableText, hagree]
      exact .ok _
  | unary op e ih => exact fun bound bound' h hc => (ih bound bound' h hc).bind_pure _
  | binary op a b iha ihb =>
    intro bound bound' h hc
    obtain ⟨ha, hb⟩ := h.of_append
    rw [calledNames, List.mem_append, not_or] at hc
    exact (iha _ _ ha hc.1).bind fun s => (ihb _ _ hb hc.2).bind_pure _
  | group es ih => exact fun bound bound' h hc => (texts_rename ih h hc).bind_pure _
  | assign x e ih => exact ih
  | object ms ih => exact fun bound bound' h hc => (memberTexts_rename ih h hc).bind_pure _
  | array es ih => exact fun bound bound' h hc => (texts_rename ih h hc).bind_pure _
  | member e x ih => exact fun bound bound' h hc => (ih bound bound' h hc).bind_pure _
  | index e k ihe ihk =>
    intro bound bound' h hc
    obtain ⟨he, hk⟩ := h.of_append
    rw [calledNames, List.mem_append, not_or] at hc
    exact (ihe _ _ he hc.1).bind fun s => (ihk _ _ hk hc.2).bind_pure _
  | lambda ps e ih =>
    intro bound bound' h hc
    by_cases hps : c ∈ ps
    · simp only [rename, if_pos hps]
      exact (text_congr_bound e _ _ false (h.agreeOn_filter hps)).bind_pure _
    · have hcalled : c ∉ e.calledNames := by simpa [calledNames, hps] using hc
      simp only [rename, if_neg hps]
      exact (ih _ _ (h.filter hps) hcalled).bind_pure _
  | method e x es ihe ihes =>
    intro bound bound' h hc
    obtain ⟨he, hes⟩ := h.of_append
    have hcalled : c ∉ e.calledNames ∧ c ∉ calledNamesOfAll es := by
      simpa [calledNames] using hc
    exact (texts_rename ihes hes hcalled.2).bind fun ts => (ihe _ _ he hcalled.1).bind_pure _
  | function x es ih =>
    intro bound bound' h hc
    obtain ⟨-, hes⟩ := h.of_append
    rw [calledNames, List.mem_cons, not_or] at hc
    have hx : x ≠ c := fun hx => hc.1 hx.symm
    simp only [rename, if_neg hx]
    exact (texts_rename ih hes hc.2).bind_pure _
  | invalid e es hmember hvariable =>
    intro bound bound' _ _
    obtain ⟨t, ht⟩ : ∃ t, ((call e es).rename c d).text ctx bound' false =
        .error (.invalidCallTarget t) := text_rename_invalid hmember hvariable bound' false es
    rw [text_invalid hmember hvariable, ht]
    exact .invalid _ t
  | conditional a b e iha ihb ihe =>
    intro bound bound' h hc
    obtain ⟨hab, he⟩ := h.of_append
    obtain ⟨ha, hb⟩ := hab.of_append
    simp only [calledNames, List.mem_append, not_or] at hc
    refine (iha _ _ ha hc.1.1).bind fun s => (ihb _ _ hb hc.1.2).bind fun t => ?_
    exact (ihe _ _ he hc.2).bind_pure _

/-- **Renaming the parameter of a clause**: a function of one parameter and the function with its
parameter renamed have the same clause, whatever is captured, or neither has one because of a callee
that cannot be called.  The new name is one that does not occur in the body, and the parameter is
not called itself. -/
theorem clause_rename_parameter (c d : String) (body : Expr) (hd : d ∉ body.names)
    (hc : c ∉ body.calledNames) (scopes : Scopes) (pascalize : Bool) :
    (∃ t, (lambda [c] body).clause scopes pascalize = .ok t ∧
      (lambda [d] (body.rename c d)).clause scopes pascalize = .ok t) ∨
    ∃ s t, (lambda [c] body).clause scopes pascalize = .error (.invalidCallTarget s) ∧
      (lambda [d] (body.rename c d)).clause scopes pascalize = .error (.invalidCallTarget t) := by
  have hexchanged : Exchanged c d body.names [c] [d] := by
    refine ⟨by simp, by simp, hd, fun x hx hxc => ?_⟩
    have hxd : x ≠ d := fun h => hd (h ▸ hx)
    simp [hxc, hxd]
  have hsame : SameClause ((lambda [c] body).clause scopes pascalize)
      ((lambda [d] (body.rename c d)).clause scopes pascalize) := by
    have hbody : IsRenamed ⟨scopes, pascalize⟩ c d body := text_rename body
    rw [clause_eq, clause_eq]
    exact (hbody [c] [d] hexchanged hc).bind_pure _
  generalize (lambda [c] body).clause scopes pascalize = x at hsame ⊢
  generalize (lambda [d] (body.rename c d)).clause scopes pascalize = y at hsame ⊢
  cases hsame with
  | ok t => exact .inl ⟨t, rfl, rfl⟩
  | invalid s t => exact .inr ⟨s, t, rfl, rfl⟩

/-- One function in the body uses the parameter, and another one has a parameter of the same name.
Values are captured under the old name and under the new one. -/
theorem clause_rename_parameter_hidden :
    ∃ t,
      (lambda ["c"] (.binary "&&"
        (.call (.member (.member (.variable "c") "tags") "any")
          [.lambda ["t"] (.binary "==" (.variable "t") (.member (.variable "c") "name"))])
        (.call (.member (.member (.variable "c") "orders") "all")
          [.lambda ["c"] (.member (.variable "c") "paid")]))).clause
        [Bindings.ofList [("c", .int 1), ("d", .int 2)]] true = .ok t ∧
      (lambda ["d"] (.binary "&&"
        (.call (.member (.member (.variable "d") "tags") "any")
          [.lambda ["t"] (.binary "==" (.variable "t") (.member (.variable "d") "name"))])
        (.call (.member (.member (.variable "d") "orders") "all")
          [.lambda ["c"] (.member (.variable "c") "paid")]))).clause
        [Bindings.ofList [("c", .int 1), ("d", .int 2)]] true = .ok t := by
  rcases clause_rename_parameter "c" "d" (.binary "&&"
      (.call (.member (.member (.variable "c") "tags") "any")
        [.lambda ["t"] (.binary "==" (.variable "t") (.member (.variable "c") "name"))])
      (.call (.member (.member (.variable "c") "orders") "all")
        [.lambda ["c"] (.member (.variable "c") "paid")])) (by decide) (by decide)
      [Bindings.ofList [("c", .int 1), ("d", .int 2)]] true with h | ⟨s, t, hs, -⟩
  · exact h
  · contradiction

end Expr

end LambdaQuery
