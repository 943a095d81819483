import LambdaQuery.Proofs.Clause.Marked

/-!
# Callees that cannot be called

Rendering fails for one reason only: something is called that is neither a method nor a name.  This
module says which of several such calls is reported.  Rendering comes to an expression before its
parts, and to the parts from left to right, except that the arguments of a call come before what is
called.  The first call on this way that has no rendering is the one in the error, whatever is
captured, however member names are written and whichever parameters there are.

## Main definitions

* `LambdaQuery.Expr.isCallable` — the expression is a method or a name.
* `LambdaQuery.Expr.visits` — the expression and all parts in it, in the order of rendering.
* `LambdaQuery.Expr.invalidCallee?` — what is called and cannot be.
* `LambdaQuery.Expr.FailsAtFirst` — a computation fails at the first invalid call of a list.

## Main results

* `LambdaQuery.Expr.mem_visits` — rendering would come to all parts of an expression.
* `LambdaQuery.Expr.text_failsAtFirst` — rendering fails at the first invalid call.
* `LambdaQuery.Expr.clauseWithin_fails_at_first_invalid` — when an expression has no clause, and
  which error it has then.

## Design

The list of visits goes on behind an invalid call, with the parts of that call and all that follows.
So it can be told for each expression by itself, and two lists are put together by appending them.
-/

set_option autoImplicit false

namespace LambdaQuery.Expr

open Clause

/-! ## The order of rendering -/

/-- The expression can be called: it is a method or a name. -/
def isCallable : Expr → Bool
  | .member _ _ => true
  | .variable _ => true
  | _ => false

/-- What the expression calls, if it is a call of something that cannot be called. -/
def invalidCallee? : Expr → Option Expr
  | .call e _ => if e.isCallable then none else some e
  | _ => none

mutual

/-- The expression and all parts in it, in the order of rendering: an expression before its parts,
and the parts from left to right, but the arguments of a call before what is called. -/
def visits : Expr → List Expr
  | .literal v => [.literal v]
  | .variable x => [.variable x]
  | .unary op e => .unary op e :: e.visits
  | .binary op a b => .binary op a b :: (a.visits ++ b.visits)
  | .group es => .group es :: visitsOfAll es
  | .assign x e => .assign x e :: e.visits
  | .object ms => .object ms :: visitsOfMembers ms
  | .array es => .array es :: visitsOfAll es
  | .member e x => .member e x :: e.visits
  | .index e k => .index e k :: (e.visits ++ k.visits)
  | .lambda ps e => .lambda ps e :: e.visits
  | .call e es => .call e es :: (visitsOfAll es ++ e.visits)
  | .conditional a b c => .conditional a b c :: (a.visits ++ (b.visits ++ c.visits))

/-- The expressions and all parts in them, in the order of rendering. -/
def visitsOfAll : List Expr → List Expr
  | [] => []
  | e :: es => e.visits ++ visitsOfAll es

/-- The expressions of members and all parts in them, in the order of rendering. -/
def visitsOfMembers : List (String × Expr) → List Expr
  | [] => []
  | (_, e) :: ms => e.visits ++ visitsOfMembers ms

end

/-- The visits of a list of expressions, one expression after the other. -/
lemma visitsOfAll_eq_flatMap (es : List Expr) : visitsOfAll es = es.flatMap visits := by
  induction es with
  | nil => rfl
  | cons e es ih => rw [visitsOfAll, List.flatMap_cons, ih]

/-- The visits of members are those of the expressions of the members. -/
lemma visitsOfMembers_eq_flatMap (ms : List (String × Expr)) :
    visitsOfMembers ms = (ms.map Prod.snd).flatMap visits := by
  induction ms with
  | nil => rfl
  | cons m ms ih => rw [visitsOfMembers, List.map_cons, List.flatMap_cons, ih]

/-- Up to the order, an expression is visited with all visits of its parts. -/
lemma visits_perm (e : Expr) : e.visits.Perm (e :: e.parts.flatMap visits) := by
  cases e with
  | object ms => simp [visits, parts, visitsOfMembers_eq_flatMap]
  | call e es =>
    simpa [visits, parts, visitsOfAll_eq_flatMap] using List.perm_append_comm
  | _ => simp [visits, parts, visitsOfAll_eq_flatMap]

/-- **Rendering would come to all parts** of an expression, and to nothing else. -/
lemma mem_visits {e a : Expr} : a ∈ e.visits ↔ ∃ p, e.part? p = some a := by
  induction e using partInduction with
  | h e ih =>
    rw [(visits_perm e).mem_iff, List.mem_cons, List.mem_flatMap]
    constructor
    · rintro (rfl | ⟨b, hb, ha⟩)
      · exact ⟨[], rfl⟩
      · obtain ⟨p, hp⟩ := (ih b hb).1 ha
        obtain ⟨i, hi⟩ := List.mem_iff_getElem?.1 hb
        exact ⟨i :: p, by rw [part?, hi, Option.bind_some, hp]⟩
    · rintro ⟨_ | ⟨i, p⟩, hp⟩
      · exact .inl (Option.some.inj hp).symm
      · obtain ⟨b, hb, hp⟩ := Option.bind_eq_some_iff.1 hp
        have hmem : b ∈ e.parts := List.mem_of_getElem? hb
        exact .inr ⟨b, hmem, (ih b hmem).2 ⟨p, hp⟩⟩

/-! ## Failing at the first invalid call -/

/-- The computation fails exactly if there is an invalid call in the list, and then with what the
first one calls. -/
inductive FailsAtFirst {α : Type} : List Expr → Except CompileError α → Prop where
  | ok {vs : List Expr} (a : α) : vs.findSome? invalidCallee? = none → FailsAtFirst vs (.ok a)
  | error {vs : List Expr} {e : Expr} : vs.findSome? invalidCallee? = some e →
      FailsAtFirst vs (.error (.invalidCallTarget e.print))

section FailsAtFirst

variable {α β : Type} {vs ws : List Expr} {x : Except CompileError α}

/-- The errors of a computation that fails at the first invalid call. -/
lemma FailsAtFirst.eq_error_iff (h : FailsAtFirst vs x) {err : CompileError} :
    x = .error err ↔
      ∃ e, vs.findSome? invalidCallee? = some e ∧ err = .invalidCallTarget e.print := by
  cases h with
  | ok a hnone => simp [hnone]
  | error hsome => simp [hsome, eq_comm]

/-- A computation fails if there is an invalid call. -/
lemma FailsAtFirst.exists_error_iff (h : FailsAtFirst vs x) :
    (∃ err, x = .error err) ↔ ∃ a ∈ vs, ∃ e, a.invalidCallee? = some e := by
  simp only [h.eq_error_iff]
  rw [exists_comm]
  simp only [exists_and_left, exists_eq, and_true, ← Option.isSome_iff_exists,
    List.findSome?_isSome_iff]

/-- Computations that go along the same list fail together, with the same error. -/
lemma FailsAtFirst.eq_error_congr {y : Except CompileError β} (hx : FailsAtFirst vs x)
    (hy : FailsAtFirst vs y) {err : CompileError} : x = .error err ↔ y = .error err := by
  rw [hx.eq_error_iff, hy.eq_error_iff]

/-- An expression in front that is no invalid call changes nothing. -/
lemma FailsAtFirst.cons {a : Expr} (ha : a.invalidCallee? = none) (h : FailsAtFirst vs x) :
    FailsAtFirst (a :: vs) x := by
  have hfirst : (a :: vs).findSome? invalidCallee? = vs.findSome? invalidCallee? := by
    rw [List.findSome?_cons, ha]
  cases h with
  | ok b hnone => exact .ok b (hfirst.trans hnone)
  | error hsome => exact .error (hfirst.trans hsome)

/-- A computation in two steps fails at the first invalid call of what both steps go along: where
the second step fails does not depend on what the first one gives. -/
lemma FailsAtFirst.bind {f : α → Except CompileError β} (h : FailsAtFirst vs x)
    (hnext : ∀ a, FailsAtFirst ws (f a)) : FailsAtFirst (vs ++ ws) (x >>= f) := by
  cases h with
  | error hsome =>
    refine .error ?_
    rw [List.findSome?_append, hsome, Option.some_or]
  | ok a hnone =>
    have hfirst : (vs ++ ws).findSome? invalidCallee? = ws.findSome? invalidCallee? := by
      rw [List.findSome?_append, hnone, Option.none_or]
    change FailsAtFirst (vs ++ ws) (f a)
    generalize hy : f a = y
    have hstep := hnext a
    rw [hy] at hstep
    cases hstep with
    | ok b hnone => exact .ok b (hfirst.trans hnone)
    | error hsome => exact .error (hfirst.trans hsome)

/-- A last step that cannot fail changes nothing. -/
lemma FailsAtFirst.bind_pure (h : FailsAtFirst vs x) (f : α → β) :
    FailsAtFirst vs (x >>= fun a => pure (f a)) := by
  rw [← List.append_nil vs]
  exact h.bind fun a => .ok (f a) rfl

end FailsAtFirst

variable {ctx : Context}

/-- Texts of expressions fail at the first invalid call if the text of each does. -/
lemma texts_failsAtFirst {es : List Expr}
    (h : ∀ e ∈ es, ∀ bound first, FailsAtFirst e.visits (e.text ctx bound first))
    (bound : List String) (first : Bool) :
    FailsAtFirst (visitsOfAll es) (texts ctx bound first es) := by
  induction es generalizing first with
  | nil => exact .ok [] rfl
  | cons e es ih =>
    rw [List.forall_mem_cons] at h
    exact (h.1 bound first).bind fun t => (ih h.2 _).bind_pure _

/-- Texts of members fail at the first invalid call if the text of each does. -/
lemma memberTexts_failsAtFirst {ms : List (String × Expr)}
    (h : ∀ m ∈ ms, ∀ bound first, FailsAtFirst m.2.visits (m.2.text ctx bound first))
    (bound : List String) (first : Bool) :
    FailsAtFirst (visitsOfMembers ms) (memberTexts ctx bound first ms) := by
  induction ms generalizing first with
  | nil => exact .ok [] rfl
  | cons m ms ih =>
    rw [List.forall_mem_cons] at h
    exact (h.1 bound first).bind fun t => (ih h.2 _).bind_pure _

/-- What neither is a method nor has a name cannot be called. -/
lemma isCallable_eq_false {e : Expr} (hmember : ∀ a x, e ≠ .member a x)
    (hvariable : ∀ x, e ≠ .variable x) : e.isCallable = false := by
  cases e with
  | member a x => exact absurd rfl (hmember a x)
  | «variable» x => exact absurd rfl (hvariable x)
  | _ => rfl

/-- A call of what cannot be called has no text. -/
lemma text_of_isCallable {e : Expr} (h : e.isCallable = false) (bound : List String) (first : Bool)
    (es : List Expr) : (call e es).text ctx bound first = .error (.invalidCallTarget e.print) := by
  refine text_invalid ?_ ?_ bound first es
  · rintro a x rfl
    contradiction
  · rintro x rfl
    contradiction

/-- **Rendering fails at the first invalid call**, and only there.

**Proof sketch.** Induction over the parts that are rendered.  Every form of expression other than
an invalid call renders its parts in the order of the visits, and makes a text of their texts in a
last step that cannot fail. -/
theorem text_failsAtFirst (e : Expr) (bound : List String) (first : Bool) :
    FailsAtFirst e.visits (e.text ctx bound first) := by
  induction e using renderInduction generalizing bound first with
  | literal v => exact .ok _ rfl
  | «variable» x => exact .ok _ rfl
  | unary op e ih => exact ((ih bound first).bind_pure _).cons rfl
  | binary op a b iha ihb =>
    exact ((iha bound first).bind fun s => (ihb bound _).bind_pure _).cons rfl
  | group es ih => exact ((texts_failsAtFirst ih bound first).bind_pure _).cons rfl
  | assign x e ih => exact (ih bound first).cons rfl
  | object ms ih => exact ((memberTexts_failsAtFirst ih bound first).bind_pure _).cons rfl
  | array es ih => exact ((texts_failsAtFirst ih bound first).bind_pure _).cons rfl
  | member e x ih => exact ((ih bound first).bind_pure _).cons rfl
  | index e k ihe ihk =>
    exact ((ihe bound first).bind fun s => (ihk bound _).bind_pure _).cons rfl
  | lambda ps e ih =>
    refine FailsAtFirst.cons rfl ?_
    cases first with
    | true => exact ih _ false
    | false => exact (ih _ false).bind_pure _
  | method e x es ihe ihes =>
    -- the callee itself is visited between the arguments and its owner, but is no call
    refine FailsAtFirst.cons rfl ((texts_failsAtFirst ihes bound first).bind fun ts => ?_)
    exact ((ihe bound _).bind_pure _).cons rfl
  | function x es ih =>
    have hname : FailsAtFirst [.variable x] (pure () : Except CompileError Unit) := .ok () rfl
    refine FailsAtFirst.cons rfl ((texts_failsAtFirst ih bound first).bind fun ts => ?_)
    exact hname.bind_pure fun _ => callText x.toList ts
  | invalid e es hmember hvariable =>
    rw [text_invalid hmember hvariable]
    refine .error ?_
    rw [visits, List.findSome?_cons, invalidCallee?, isCallable_eq_false hmember hvariable]
    rfl
  | conditional a b c iha ihb ihc =>
    refine FailsAtFirst.cons rfl ((iha bound first).bind fun s => ?_)
    exact (ihb bound _).bind fun t => (ihc bound _).bind_pure _

/-! ## Clauses -/

/-- The clause of an expression fails at the first invalid call. -/
lemma clauseWithin_failsAtFirst (ctx : Context) (bound : List String) (e : Expr) :
    FailsAtFirst e.visits (e.clauseWithin ctx bound) := by
  have htext : e.clauseWithin ctx bound =
      e.text ctx bound true >>= fun t => pure (String.ofList t) := by
    rw [clauseWithin, render_run]
    cases e.text ctx bound true with
    | error err => rfl
    | ok t => rfl
  rw [htext]
  exact (text_failsAtFirst e bound true).bind_pure _

/-- The parts that are invalid calls. -/
lemma invalidCallee?_eq_some_iff {a e : Expr} :
    a.invalidCallee? = some e ↔ e.isCallable = false ∧ ∃ es, a = .call e es := by
  cases a with
  | call f es =>
    cases hf : f.isCallable with
    | true =>
      simp only [invalidCallee?, hf, if_true, call.injEq, reduceCtorEq, false_iff]
      rintro ⟨he, _, rfl, -⟩
      simp [hf] at he
    | false =>
      simp only [invalidCallee?, hf, Bool.false_eq_true, if_false, Option.some.injEq, call.injEq]
      constructor
      · rintro rfl
        exact ⟨hf, es, rfl, rfl⟩
      · rintro ⟨-, _, rfl, -⟩
        rfl
  | _ => simp [invalidCallee?]

/-- **When an expression has no clause**: exactly if something is called in it, at whatever depth,
that is neither a method nor a name.  The error names what the first such call calls, in the order
of rendering.  Neither depends on the captured variables, on how member names are written or on the
parameters. -/
theorem clauseWithin_fails_at_first_invalid (e : Expr) :
    (∀ ctx bound, (∃ err, e.clauseWithin ctx bound = .error err) ↔
      ∃ p callee args, e.part? p = some (.call callee args) ∧ callee.isCallable = false) ∧
    (∀ ctx bound err, e.clauseWithin ctx bound = .error err ↔
      ∃ callee, e.visits.findSome? invalidCallee? = some callee ∧
        err = .invalidCallTarget callee.print) ∧
    ∀ ctx ctx' bound bound' err,
      e.clauseWithin ctx bound = .error err ↔ e.clauseWithin ctx' bound' = .error err := by
  have hfails := fun ctx bound => clauseWithin_failsAtFirst ctx bound e
  refine ⟨fun ctx bound => ?_, fun ctx bound err => (hfails ctx bound).eq_error_iff,
    fun ctx ctx' bound bound' err => (hfails ctx bound).eq_error_congr (hfails ctx' bound')⟩
  rw [(hfails ctx bound).exists_error_iff]
  simp only [mem_visits, invalidCallee?_eq_some_iff]
  constructor
  · rintro ⟨a, ⟨p, hp⟩, callee, hcallee, args, rfl⟩
    exact ⟨p, callee, args, hp, hcallee⟩
  · rintro ⟨p, callee, args, hp, hcallee⟩
    exact ⟨_, ⟨p, hp⟩, callee, hcallee, args, rfl⟩

/-- Of two invalid calls, one in an argument and one in the owner of a method, the one in the
argument is reported, although it is written later; of two of which one calls the other, the outer
one is. -/
example :
    (call (.member (.call (.literal .null) []) "f")
      [.call (.group [.call (.array []) []]) []]).visits.findSome? invalidCallee? =
    some (.group [.call (.array []) []]) := rfl

end LambdaQuery.Expr
