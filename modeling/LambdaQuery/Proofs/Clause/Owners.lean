import LambdaQuery.Proofs.Clause.Contained
import LambdaQuery.Proofs.Text.Capital

/-!
# Owners that are written

The owner of a method is left out of the clause if its text is empty, or if its text is the word
`Math` and the method is one of the functions of `Math`.  The second rule looks at the text only.
This module says what it means for members of the parameter of a clause: the path to such a member
is written in every call of a method of it, except that a member which is itself written `Math` is
taken for the word.

## Main definitions

* `LambdaQuery.Expr.boundAt` — the parameters of the outermost function that are seen at an address.
* `LambdaQuery.Expr.memberPath` — a member of a member of a variable, and so on.
* `LambdaQuery.Expr.RendersAs` — what an expression inside the outermost function is rendered as.
* `LambdaQuery.Clause.WritesOwner` — a call of a method is written with its owner.

## Main results

* `LambdaQuery.Expr.exists_infix_call` — every call in an expression is written in its text.
* `LambdaQuery.Expr.memberPathText_eq_math_iff` — the paths that are written `Math`.
* `LambdaQuery.Expr.clause_writes_owner` — the owner path is written, unless it is written `Math`.
* `LambdaQuery.Expr.clause_leaves_out_member_math` — a member that is taken for the word `Math`.

## Design

Inside the outermost function nothing is marked, so the texts here are marked texts without marks.
A call is found by its address in the expression, so nothing is said about how rendering gets there.
-/

set_option autoImplicit false

namespace LambdaQuery

/-! ## Owners in a call -/

namespace Clause

/-- The call of a method is written with its owner: as one of the arguments, the others being `ts`
in their order, or as the path before a method of collections. -/
inductive WritesOwner (owner : List Char) (method : String) (ts : List (List Char)) :
    List Char → Prop where
  | argument (f : List Char) {before after : List (List Char)} :
      before ++ after = ts → WritesOwner owner method ts (callText f (before ++ owner :: after))
  | path : method ∈ Vocabulary.collectionMethods →
      WritesOwner owner method ts (owner ++ '/' :: callText method.toList ts)

/-- An owner with a text is written, unless it is left out for the functions of `Math`. -/
lemma writesOwner_methodText {owner : List Char} {method : String} (hne : owner ≠ [])
    (hmath : ¬ (owner = Vocabulary.mathOwner.toList ∧ method ∈ Vocabulary.mathFunctions))
    (ts : List (List Char)) : WritesOwner owner method ts (methodText owner method ts) := by
  have hempty : owner.isEmpty = false := List.isEmpty_eq_false_iff.2 hne
  rw [methodText, if_neg hmath, ownerArgument, pathText]
  simp only [hempty, Bool.false_eq_true, if_false]
  split_ifs with hincludes hcollection
  · exact .argument _ (List.append_nil ts)
  · exact .path hcollection
  · exact .argument _ (List.nil_append ts)

/-- There is a parenthesis in a call. -/
lemma parenthesis_mem_callText (f : List Char) (ts : List (List Char)) : '(' ∈ callText f ts :=
  List.mem_append_left _ (List.mem_append_right _ List.mem_cons_self)

/-- There is a parenthesis in a call of a method. -/
lemma parenthesis_mem_methodText (owner : List Char) (x : String) (ts : List (List Char)) :
    '(' ∈ methodText owner x ts := by
  unfold methodText
  split_ifs
  · exact parenthesis_mem_callText _ _
  · exact parenthesis_mem_callText _ _
  · exact (infix_pathText_right _ _).subset (parenthesis_mem_callText _ _)
  · exact parenthesis_mem_callText _ _

end Clause

namespace Expr

open Clause

/-! ## Places inside the outermost function -/

/-- The parameters of the outermost function that are seen in the parts of an expression: a function
hides those that have the name of one of its own parameters. -/
def boundInside (bound : List String) : Expr → List String
  | .lambda ps _ => bound.filter (· ∉ ps)
  | _ => bound

/-- The parameters of the outermost function that are seen at an address. -/
def boundAt (bound : List String) (e : Expr) : Address → List String
  | [] => bound
  | i :: p => e.parts[i]?.elim [] fun a => boundAt (e.boundInside bound) a p

/-- Inside the outermost function the expression is rendered as the text. -/
def RendersAs (ctx : Context) (bound : List String) (e : Expr) (s : List Char) : Prop :=
  (e.render ctx bound).run false = .ok (s, false)

/-- No function is marked. -/
abbrev unmarked : Address → Bool := fun _ => false

/-- Without the outermost function to come no function is marked. -/
lemma marksFirst_unmarked (ps : List Address) : MarksFirst false ps unmarked :=
  fun _ => (Bool.false_and _).symm

variable {ctx : Context} {bound : List String} {t : List Char}

/-- Inside the outermost function an expression is rendered as its text without marks. -/
lemma rendersAs_iff {e : Expr} :
    RendersAs ctx bound e t ↔ e.markedText ctx bound unmarked = .ok t := by
  have htext : e.text ctx bound false = e.markedText ctx bound unmarked :=
    text_eq_markedText e bound false _ (marksFirst_unmarked _)
  rw [RendersAs, render_run, htext]
  simp only [bind_eq_ok_iff, pure_eq_ok_iff, Prod.mk.injEq, Bool.false_and, and_true,
    exists_eq_right']

/-- Inside the outermost function expressions are rendered as their texts without marks. -/
lemma renderAll_eq_ok_iff {es : List Expr} {ts : List (List Char)} :
    (renderAll ctx bound es).run false = .ok (ts, false) ↔
      markedTexts ctx bound unmarked 1 es = .ok ts := by
  have htexts : texts ctx bound false es = markedTexts ctx bound unmarked 1 es :=
    texts_eq_markedTexts (fun e _ => text_eq_markedText e)
      ((marksFirst_unmarked _).marksFirstFrom 1)
  rw [renderAll_run fun e _ => render_run e, htexts]
  simp only [bind_eq_ok_iff, pure_eq_ok_iff, Prod.mk.injEq, Bool.false_and, and_true,
    exists_eq_right']

/-! ## Calls inside an expression -/

/-- Without marks the parameters that are written as nothing are those that are seen. -/
lemma markedBoundAt_unmarked (bound : List String) (e : Expr) (p : Address) :
    e.markedBoundAt unmarked bound p = e.boundAt bound p := by
  induction p generalizing bound e with
  | nil => rfl
  | cons i p ih =>
    have hinside : e.markedBoundInside false bound = e.boundInside bound := by
      cases e <;> rfl
    rw [markedBoundAt, boundAt]
    cases e.parts[i]? with
    | none => rfl
    | some a =>
      change a.markedBoundAt unmarked (e.markedBoundInside false bound) p = _
      rw [hinside, ih]
      rfl

/-- There is a parenthesis in the text of a call. -/
lemma parenthesis_mem_of_call {f : Expr} {es : List Expr}
    (ht : (call f es).markedText ctx bound unmarked = .ok t) : '(' ∈ t := by
  obtain ⟨ts, -, ⟨e, x, s, -, -, rfl⟩ | ⟨x, -, rfl⟩⟩ := cases_of_markedText_call ht
  · exact parenthesis_mem_methodText s x ts
  · exact parenthesis_mem_callText _ ts

/-- **Every call in an expression is written** in its text, with the parameters of the outermost
function that are seen at its address: the word `Math` has no parenthesis. -/
theorem exists_infix_call {f e : Expr} {es : List Expr} {p : Address}
    (ht : e.markedText ctx bound unmarked = .ok t) (hp : e.part? p = some (.call f es)) :
    ∃ u, (call f es).markedText ctx (e.boundAt bound p) unmarked = .ok u ∧ u <:+: t := by
  obtain ⟨u, hu, hut⟩ := exists_writtenIn_part? (by simp) (by simp) ht hp
  rw [markedBoundAt_unmarked] at hu
  exact ⟨u, hu, hut.whole (parenthesis_mem_of_call hu) (by decide)⟩

/-! ## Members of a parameter -/

/-- The member of a member of a variable, and so on. -/
def memberPath (p : String) (names : List String) : Expr := names.foldl .member (.variable p)

/-- What a path of names is written as behind a parameter. -/
def memberPathText (ctx : Context) (names : List String) : List Char :=
  names.foldl (accessText ctx) []

/-- One more name. -/
lemma memberPathText_concat (names : List String) (x : String) :
    memberPathText ctx (names ++ [x]) = accessText ctx (memberPathText ctx names) x :=
  List.foldl_append

/-- The text of members of an expression. -/
lemma markedText_foldl_member {e : Expr} {s : List Char} (names : List String)
    (h : e.markedText ctx bound unmarked = .ok s) :
    (names.foldl .member e).markedText ctx bound unmarked =
      .ok (names.foldl (accessText ctx) s) := by
  induction names generalizing e s with
  | nil => exact h
  | cons x names ih =>
    refine ih ?_
    rw [markedText, h]
    rfl

/-- The text of a path of names behind a parameter. -/
lemma markedText_memberPath {p : String} (hp : p ∈ bound) (names : List String) :
    (memberPath p names).markedText ctx bound unmarked = .ok (memberPathText ctx names) := by
  refine markedText_foldl_member names ?_
  rw [markedText, variableText, if_pos hp]
  rfl

/-- A name is written as nothing only if it is empty. -/
lemma memberText_eq_nil_iff {x : String} : memberText ctx x = [] ↔ x = "" := by
  unfold memberText
  split_ifs
  · rw [Text.capitalize_eq_nil_iff, String.toList_eq_nil_iff]
  · exact String.toList_eq_nil_iff

/-- A member is written as nothing only if its owner is and its name is empty. -/
lemma accessText_eq_nil_iff {s : List Char} {x : String} :
    accessText ctx s x = [] ↔ s = [] ∧ x = "" := by
  unfold accessText pathText
  split_ifs with hx hs
  · simp [hx]
  · rw [memberText_eq_nil_iff, List.isEmpty_iff.1 hs, eq_self_iff_true, true_and]
  · simp_all

/-- A path is written as nothing only if all names in it are empty. -/
lemma memberPathText_eq_nil_iff {names : List String} :
    memberPathText ctx names = [] ↔ ∀ x ∈ names, x = "" := by
  induction names using List.reverseRecOn with
  | nil => simp [memberPathText]
  | append_singleton names x ih =>
    rw [memberPathText_concat, accessText_eq_nil_iff, ih, List.forall_mem_append,
      List.forall_mem_singleton]

/-- The names that are written `Math`. -/
lemma memberText_eq_math_iff {x : String} :
    memberText ctx x = Vocabulary.mathOwner.toList ↔
      x = "Math" ∨ ctx.pascalize = true ∧ x = "math" := by
  have hcapital : Text.capitalize x.toList = Vocabulary.mathOwner.toList ↔
      x = "Math" ∨ x = "math" := by
    rw [← String.toList_inj, ← String.toList_inj]
    exact Text.capitalize_eq_cons_iff (by decide) (by decide) (by decide) (by decide)
  unfold memberText
  cases ctx.pascalize with
  | true => simpa using hcapital
  | false => simpa [Vocabulary.mathOwner] using @String.toList_inj x "Math"

/-- A member is written `Math` only if its name is and its owner is written as nothing. -/
lemma accessText_eq_math_iff {s : List Char} {x : String} :
    accessText ctx s x = Vocabulary.mathOwner.toList ↔
      s = [] ∧ (x = "Math" ∨ ctx.pascalize = true ∧ x = "math") := by
  unfold accessText pathText
  split_ifs with hx hs
  · refine iff_of_false (fun h => ?_) (by simp [hx])
    have hmem : '(' ∈ Vocabulary.mathOwner.toList := by
      rw [← h]
      simp
    exact absurd hmem (by decide)
  · rw [memberText_eq_math_iff, List.isEmpty_iff.1 hs, eq_self_iff_true, true_and]
  · refine iff_of_false (fun h => ?_) (by simp_all)
    have hmem : '/' ∈ Vocabulary.mathOwner.toList := by
      rw [← h]
      simp
    exact absurd hmem (by decide)

/-- **The paths that are written `Math`**: the one name `Math`, or `math` if member names are
written with a capital. -/
lemma memberPathText_eq_math_iff {names : List String} (hnames : ∀ x ∈ names, x ≠ "") :
    memberPathText ctx names = Vocabulary.mathOwner.toList ↔
      names = ["Math"] ∨ ctx.pascalize = true ∧ names = ["math"] := by
  cases names using List.reverseRecOn with
  | nil => simp [memberPathText, Vocabulary.mathOwner]
  | append_singleton names x =>
    have hnil : memberPathText ctx names = [] ↔ names = [] := by
      rw [memberPathText_eq_nil_iff]
      refine ⟨fun h => List.eq_nil_iff_forall_not_mem.2 fun y hy => ?_, by rintro rfl; simp⟩
      exact hnames y (List.mem_append_left _ hy) (h y hy)
    rw [memberPathText_concat, accessText_eq_math_iff, hnil]
    constructor
    · rintro ⟨rfl, h⟩
      simpa using h
    · intro h
      cases names with
      | nil => simpa using h
      | cons y ys => simp at h

/-! ## Clauses -/

/-- **Owner paths in a clause**: a call of a method in the body of a function is written in its
clause.  If the owner is a path of members of a parameter of the function, then the path is written
in the call, as an argument or before a method of collections, unless it is written `Math` and the
method is one of the functions of `Math`.  For names that are not empty it is written `Math` only if
it is the one member `Math`, or `math` where member names have a capital. -/
theorem clause_writes_owner (ps : List String) (body : Expr) (scopes : Scopes) (pascalize : Bool)
    (text : String) (hclause : (lambda ps body).clause scopes pascalize = .ok text)
    (a : Address) (p method : String) (names : List String) (args : List Expr)
    (hcall : body.part? a = some (.call (.member (memberPath p names) method) args))
    (hp : p ∈ body.boundAt ps a) :
    ∃ owner ts u,
      RendersAs ⟨scopes, pascalize⟩ (body.boundAt ps a) (memberPath p names) owner ∧
      (renderAll ⟨scopes, pascalize⟩ (body.boundAt ps a) args).run false = .ok (ts, false) ∧
      RendersAs ⟨scopes, pascalize⟩ (body.boundAt ps a)
        (.call (.member (memberPath p names) method) args) u ∧
      u <:+: text.toList ∧
      (owner = [] ↔ ∀ x ∈ names, x = "") ∧
      (owner ≠ [] →
        ¬ (owner = Vocabulary.mathOwner.toList ∧ method ∈ Vocabulary.mathFunctions) →
        WritesOwner owner method ts u) ∧
      ((∀ x ∈ names, x ≠ "") →
        (owner = Vocabulary.mathOwner.toList ↔
          names = ["Math"] ∨ pascalize = true ∧ names = ["math"])) := by
  rw [Expr.clause, clauseWithin_lambda, map_eq_pure_bind, bind_eq_ok_iff] at hclause
  obtain ⟨t, ht, htext⟩ := hclause
  obtain rfl := pure_eq_ok_iff.1 htext
  obtain ⟨u, hu, hwithin⟩ := exists_infix_call ht hcall
  rw [List.nil_append] at hu
  obtain ⟨ts, hts, hcases⟩ := cases_of_markedText_call hu
  have howner : (memberPath p names).markedText ⟨scopes, pascalize⟩ (body.boundAt ps a) unmarked =
      .ok (memberPathText ⟨scopes, pascalize⟩ names) := markedText_memberPath hp names
  obtain rfl : u = methodText (memberPathText ⟨scopes, pascalize⟩ names) method ts := by
    rcases hcases with ⟨e, x, s, hf, hs, rfl⟩ | ⟨x, hf, -⟩
    · obtain ⟨rfl, rfl⟩ := member.inj hf
      rw [howner] at hs
      rw [Except.ok.inj hs]
    · contradiction
  refine ⟨_, ts, _, rendersAs_iff.2 howner, renderAll_eq_ok_iff.2 hts, rendersAs_iff.2 hu, ?_,
    memberPathText_eq_nil_iff, fun hne hmath => writesOwner_methodText hne hmath ts,
    memberPathText_eq_math_iff⟩
  rwa [String.toList_ofList]

/-- A member that is written `Math`, in a function in the body.  It is the owner of a method that is
no function of `Math`, and stands among the arguments. -/
theorem clause_writes_owner_absolute :
    (lambda ["c"] (.call (.member (memberPath "c" ["items"]) "any") [.lambda ["t"]
      (.call (.member (memberPath "c" ["math"]) "abs") [.member (.variable "t") "x"])])).clause
        [] true = .ok "Items/any(t: abs(Math, t/X))" ∧
    ∃ owner ts u,
      RendersAs ⟨[], true⟩ ["c"] (memberPath "c" ["math"]) owner ∧
      u <:+: "Items/any(t: abs(Math, t/X))".toList ∧
      owner = Vocabulary.mathOwner.toList ∧ WritesOwner owner "abs" ts u := by
  refine ⟨rfl, ?_⟩
  obtain ⟨owner, ts, u, howner, -, -, hwithin, hnil, hwrites, hmath⟩ :=
    clause_writes_owner ["c"] (.call (.member (memberPath "c" ["items"]) "any") [.lambda ["t"]
      (.call (.member (memberPath "c" ["math"]) "abs") [.member (.variable "t") "x"])])
      [] true _ rfl [1, 0] "c" "abs" ["math"] [.member (.variable "t") "x"] rfl (by decide)
  have hne : owner ≠ [] := fun h => absurd (hnil.1 h) (by decide)
  have habs : "abs" ∉ Vocabulary.mathFunctions := by decide
  exact ⟨owner, ts, u, howner, hwithin, (hmath (by decide)).2 (.inr ⟨rfl, rfl⟩),
    hwrites hne fun h => habs h.2⟩

/-- A member of the parameter that is taken for the word `Math` and is not written in the call. -/
theorem clause_leaves_out_member_math :
    (lambda ["c"] (.call (.member (memberPath "c" ["Math"]) "round")
      [.literal (.int 1)])).clause [] false = .ok "round(1)" ∧
    RendersAs ⟨[], false⟩ ["c"] (memberPath "c" ["Math"]) "Math".toList ∧
    ¬ "Math".toList <:+: "round(1)".toList :=
  ⟨rfl, rfl, by decide⟩

end Expr

end LambdaQuery
