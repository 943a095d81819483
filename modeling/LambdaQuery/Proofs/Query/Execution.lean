import LambdaQuery.Proofs.Query.Blocks
import LambdaQuery.Query.Execution

/-!
# Failing and executing a query

Compiling a query keeps its ordering operations back until the next operation of another kind.  So
an ordering operation is looked at later than its place in the query says.  The error that is
reported is nevertheless the one of the first operation that has an error when it is compiled alone.
A query that is compiled is handed to the transport once, as it was compiled.

## Main definitions

* `LambdaQuery.Argument.Fails`, `LambdaQuery.Part.Fails` — the error of an argument and of an
  operation by itself.
* `LambdaQuery.Json.IsPayload` — the result inside the answer of a service.

## Main results

* `LambdaQuery.parametersAfter_eq_error_iff` — how the pass over the operations fails.
* `LambdaQuery.compileParts_eq_error_iff` — how compiling a query fails.
* `LambdaQuery.Query.perform_sends_parameters` — what the transport is called with, and the result.

## Design

Which operation fails is said by the relation `Part.Fails`, which knows nothing of the pass, and
which of several failures is reported by `FirstFails`.  The execution is stated for transports in
any monad, so it is also settled for one that counts its calls or changes with them.
-/

set_option autoImplicit false

namespace LambdaQuery

/-! ## Operations that fail by themselves -/

/-- The argument is an expression without a clause. -/
def Argument.Fails (pascalize : Bool) (a : Argument) (err : CompileError) : Prop :=
  ∃ e scopes, a = .expression e scopes ∧ e.clause scopes pascalize = .error err

/-- The error of an operation by itself. -/
inductive Part.Fails (pascalize : Bool) (p : Part) : CompileError → Prop where
  /-- An operation that is written with its arguments has the error of the first argument that has
  one. -/
  | argument {err : CompileError} :
      p.kind.isOrdering = true ∨ p.kind ∈ textKeys.map Prod.fst →
      FirstFails (Argument.Fails pascalize) p.args err → Fails pascalize p err
  /-- The protocol has no such operation. -/
  | unsupported {name : String} :
      p.kind = .other name → Fails pascalize p (.unsupportedOperation name)

/-- The texts of arguments fail like the first of them that does. -/
lemma mapM_text?_eq_error_iff {pascalize : Bool} {args : List Argument} {err : CompileError} :
    (args.filterMap (·.text? pascalize)).mapM id = .error err ↔
      FirstFails (Argument.Fails pascalize) args err := by
  rw [mapM_eq_error_iff]
  induction args with
  | nil => simp [not_firstFails_nil]
  | cons a args ih =>
    cases a with
    | expression e scopes =>
      have hhead : ∀ err', Argument.Fails pascalize (.expression e scopes) err' ↔
          e.clause scopes pascalize = .error err' := by
        simp [Argument.Fails]
      rw [List.filterMap_cons_some (by rfl), firstFails_cons, firstFails_cons, ih]
      simp only [id_eq, hhead]
    | literal v =>
      rw [List.filterMap_cons_some (by rfl), firstFails_cons_of_forall_not (by simp),
        firstFails_cons_of_forall_not (by simp [Argument.Fails]), ih]
    | options o =>
      rw [List.filterMap_cons_none (by rfl), ih,
        firstFails_cons_of_forall_not (by simp [Argument.Fails])]

namespace Part

variable {pascalize : Bool} {p : Part} {err : CompileError}

/-- The text of an operation fails like the first of its arguments that does. -/
lemma argumentText_eq_error_iff :
    p.argumentText pascalize = .error err ↔
      FirstFails (Argument.Fails pascalize) p.args err := by
  rw [argumentText, bind_pure_eq_error_iff, mapM_text?_eq_error_iff]

/-- How an ordering operation fails. -/
lemma orderingClause_eq_error_iff (hp : p.kind.isOrdering = true) :
    p.orderingClause pascalize = .error err ↔ p.Fails pascalize err := by
  rw [orderingClause, bind_pure_eq_error_iff, argumentText_eq_error_iff]
  constructor
  · exact .argument (.inl hp)
  · intro h
    cases h with
    | argument _ hargs => exact hargs
    | unsupported hkind => simp [hkind, Kind.isOrdering] at hp

/-- How an operation that orders nothing fails. -/
lemma parameter_eq_error_iff (hp : p.kind.isOrdering = false) (hsilent : p.isSilent = false) :
    p.parameter pascalize = .error err ↔ p.Fails pascalize err := by
  have hfails : p.Fails pascalize err ↔
      p.kind ∈ textKeys.map Prod.fst ∧ FirstFails (Argument.Fails pascalize) p.args err ∨
        ∃ name, p.kind = .other name ∧ err = .unsupportedOperation name := by
    constructor
    · intro h
      cases h with
      | argument hkind hargs => exact .inl ⟨hkind.resolve_left (by simp [hp]), hargs⟩
      | unsupported hkind => exact .inr ⟨_, hkind, rfl⟩
    · rintro (⟨hkind, hargs⟩ | ⟨name, hkind, rfl⟩)
      · exact .argument (.inr hkind) hargs
      · exact .unsupported hkind
  rw [hfails, parameter]
  unfold isSilent at hsilent
  cases hkind : p.kind with
  | filter | select | skip | take =>
    simp only [bind_pure_eq_error_iff, argumentText_eq_error_iff]
    simp [textKeys]
  | inlineCount => simp [textKeys, pure_ne_error]
  | other name => simp [textKeys, throw, throwThe, MonadExceptOf.throw, Kind.name, eq_comm]
  | applyOptions | materialize => simp [hkind] at hsilent
  | orderBy | orderByDescending | thenBy | thenByDescending => simp [hkind, Kind.isOrdering] at hp

/-- An operation that becomes no parameter does not fail. -/
lemma not_fails_of_isSilent (h : p.isSilent = true) : ¬ p.Fails pascalize err := by
  have hkind : p.kind = .applyOptions ∨ p.kind = .materialize := by
    simpa [isSilent] using h
  intro hfails
  cases hfails with
  | argument htexts _ =>
    rcases hkind with hkind | hkind <;> simp [hkind, Kind.isOrdering, textKeys] at htexts
  | unsupported hother =>
    rcases hkind with hkind | hkind <;> simp [hkind] at hother

end Part

/-! ## The first failure -/

section Pass

variable {pascalize : Bool} {err : CompileError}

/-- Ordering operations fail together like the first of them that does. -/
lemma orderingParameter_eq_error_iff {run : List Part}
    (h : ∀ p ∈ run, p.kind.isOrdering = true) :
    orderingParameter pascalize run = .error err ↔
      FirstFails (Part.Fails pascalize) run err := by
  cases run with
  | nil => simp [orderingParameter, not_firstFails_nil, pure_ne_error]
  | cons p run =>
    rw [orderingParameter, bind_pure_eq_error_iff, mapM_eq_error_iff]
    · exact firstFails_congr fun q hq err' => Part.orderingClause_eq_error_iff (h q hq)
    · simp

/-- Ordering operations succeed together if none of them fails. -/
lemma exists_orderingParameter_iff {run : List Part} (h : ∀ p ∈ run, p.kind.isOrdering = true) :
    (∃ params, orderingParameter pascalize run = .ok params) ↔
      ∀ p ∈ run, ∀ err, ¬ p.Fails pascalize err := by
  have hany : (∃ err, FirstFails (Part.Fails pascalize) run err) ↔
      ∃ p ∈ run, ∃ err, p.Fails pascalize err := exists_firstFails_iff
  rw [← forall_ne_error_iff]
  simp only [ne_eq, orderingParameter_eq_error_iff h]
  rw [← not_exists, hany]
  simp only [not_exists, not_and]

/-- **How the pass over the operations fails**: with ordering operations waiting, it fails like the
first operation that does, among all that waits and all that follows.

**Proof sketch.** Induction over the operations.  An operation of another kind makes those that wait
be compiled before itself, and they stand before it in the list as well. -/
theorem parametersAfter_eq_error_iff {pending ps : List Part}
    (h : ∀ p ∈ pending, p.kind.isOrdering = true) :
    parametersAfter pascalize pending ps = .error err ↔
      FirstFails (Part.Fails pascalize) (pending ++ ps) err := by
  induction ps generalizing pending with
  | nil => rw [parametersAfter, List.append_nil, orderingParameter_eq_error_iff h]
  | cons p ps ih =>
    rw [parametersAfter]
    cases hsilent : p.isSilent with
    | true =>
      rw [if_pos rfl, ih h, firstFails_append, firstFails_append, firstFails_cons_of_forall_not]
      exact fun err' => Part.not_fails_of_isSilent hsilent
    | false =>
      rw [if_neg Bool.false_ne_true]
      cases hp : p.kind.isOrdering with
      | true =>
        have hjoined : ∀ q ∈ pending ++ [p], q.kind.isOrdering = true :=
          List.forall_mem_append.2 ⟨h, List.forall_mem_singleton.2 hp⟩
        rw [if_pos rfl, ih hjoined, List.append_assoc, List.singleton_append]
      | false =>
        have hsucceeds : (∃ q, p.parameter pascalize = .ok q) ↔
            ∀ err', ¬ p.Fails pascalize err' := by
          rw [← forall_ne_error_iff]
          simp only [ne_eq, Part.parameter_eq_error_iff hp hsilent]
        have hothers : parametersAfter pascalize [] ps = .error err ↔
            FirstFails (Part.Fails pascalize) ps err := ih (by simp)
        rw [if_neg Bool.false_ne_true, firstFails_append, firstFails_cons,
          ← exists_orderingParameter_iff h, ← hsucceeds]
        simp only [bind_eq_error_iff, pure_ne_error, and_false, exists_false, or_false, hothers,
          orderingParameter_eq_error_iff h, Part.parameter_eq_error_iff hp hsilent,
          exists_and_right]

end Pass

/-- **How compiling a query fails**: like the first operation that does, where the options of the
whole query decide how member names are written. -/
theorem compileParts_eq_error_iff {parts : List Part} {err : CompileError} :
    compileParts parts = .error err ↔
      FirstFails (Part.Fails (preference (optionsOf parts))) parts err := by
  rw [compileParts, bind_pure_eq_error_iff, parametersAfter_eq_error_iff (by simp),
    pascalizeOf_eq_preference, List.nil_append]

/-- A query fails if one of its operations does. -/
lemma exists_compileParts_eq_error_iff {parts : List Part} :
    (∃ err, compileParts parts = .error err) ↔
      ∃ p ∈ parts, ∃ err, p.Fails (preference (optionsOf parts)) err := by
  simp only [compileParts_eq_error_iff, exists_firstFails_iff]

/-- The error of an operation by itself is that of the query that it makes up, with an options
object that says how member names are written. -/
lemma compileParts_alone_eq_error_iff {p : Part} {pascalize : Bool} {err : CompileError} :
    compileParts [.ofOptions (Options.empty.withPascalize pascalize), p] = .error err ↔
      p.Fails pascalize err := by
  have hsetting : ∀ b err',
      ¬ (Part.ofOptions (Options.empty.withPascalize pascalize)).Fails b err' :=
    fun b err' => Part.not_fails_of_isSilent rfl
  rw [compileParts_eq_error_iff, firstFails_cons_of_forall_not (hsetting _), firstFails_singleton]
  by_cases hp : p.kind = .applyOptions
  · have hsilent : p.isSilent = true := by simp [Part.isSilent, hp]
    exact iff_of_false (Part.not_fails_of_isSilent hsilent) (Part.not_fails_of_isSilent hsilent)
  · have hoptions : optionsOf [.ofOptions (Options.empty.withPascalize pascalize), p] =
        [Options.empty.withPascalize pascalize] := by
      simp [optionsOf, hp, Part.ofOptions, Argument.options?]
    rw [hoptions]
    rfl

/-- An ordering operation is compiled late, and its error is reported before that of an operation
behind it. -/
example :
    compileParts [.ofExpr .orderBy (.call (.array []) []) [], ⟨.other "groupBy", []⟩,
      .ofExpr .filter (.variable "x") []] = .error (.invalidCallTarget "[]") := by
  rfl

/-! ## Execution -/

namespace Json

/-- The result inside the answer of a service. -/
inductive IsPayload : Json → Json → Prop where
  /-- An object with a member `value` that is not `null` wraps it. -/
  | wrapped {members : List (String × Json)} {v : Json} :
      members.lookup "value" = some v → v ≠ .null → IsPayload (.object members) v
  /-- Any other answer is the result itself. -/
  | bare {body : Json} :
      (∀ members v, body = .object members → members.lookup "value" = some v → v = .null) →
      IsPayload body body

/-- The result inside the answer, as it is computed. -/
lemma unwrapEnvelope_eq_iff {body v : Json} : body.unwrapEnvelope = v ↔ IsPayload body v := by
  have hbare : ∀ {body : Json}, (∀ w, body.member? "value" = some w → w = .null) →
      (body = v ↔ IsPayload body v) := by
    intro body hnull
    constructor
    · rintro rfl
      refine .bare ?_
      rintro members w rfl hw
      exact hnull w hw
    · rintro (⟨hw, hne⟩ | _)
      · exact absurd (hnull v hw) hne
      · rfl
  unfold unwrapEnvelope
  split
  · next hnone => exact hbare (by simp [hnone])
  · next hnone => exact hbare (by simp [hnone])
  · next w hne hw =>
    cases body with
    | object members =>
      constructor
      · rintro rfl
        exact .wrapped hw hne
      · rintro (⟨hv, -⟩ | hnull)
        · exact Option.some.inj (hw.symm.trans hv)
        · exact absurd (hnull members w rfl hw) hne
    | _ => simp [member?] at hw

end Json

namespace Query

/-- The mark at the end of a query has no influence on what it is compiled to. -/
lemma compileParts_append_materialize (parts : List Part) :
    compileParts (parts ++ [.materialize]) = compileParts parts := by
  refine compileParts_eq_of_visible_eq ?_ ?_
  · simp [visible, Part.isSilent, Part.materialize]
  · simp [settings, Part.materialize]

/-- **Execution sends what was compiled**: for a query whose compilation fails the transport is not
called, and the error is the one of the compilation.  For any other query it is called once, with
the parameters and options that the query is compiled to, and the result is its error or what its
answer wraps.  Compiling a query fails if one of its operations fails by itself, and then like the
first of them. -/
theorem perform_sends_parameters {m : Type → Type} [Monad m] {ε : Type}
    (send : Compiled → m (Except ε Json)) (transport : Transport ε) (q : Query) :
    (q.perform send =
      match q.parameters with
      | .error err => pure (.error (.compile err))
      | .ok c => do
        match ← send c with
        | .error err => pure (.error (.transport err))
        | .ok body => pure (.ok body.unwrapEnvelope)) ∧
    (q.execute transport =
      match q.parameters with
      | .error err => ⟨[], .error (.compile err)⟩
      | .ok c =>
        match transport c with
        | .error err => ⟨[c], .error (.transport err)⟩
        | .ok body => ⟨[c], .ok body.unwrapEnvelope⟩) ∧
    (∀ body v : Json, body.unwrapEnvelope = v ↔ Json.IsPayload body v) ∧
    ∀ parts : List Part,
      ((∃ err, compileParts parts = .error err) ↔
        ∃ p ∈ parts, ∃ err, p.Fails (preference (optionsOf parts)) err) ∧
      (∀ err, compileParts parts = .error err ↔
        FirstFails (Part.Fails (preference (optionsOf parts))) parts err) ∧
      ∀ p pascalize err, Part.Fails pascalize p err ↔
        compileParts [.ofOptions (Options.empty.withPascalize pascalize), p] = .error err := by
  refine ⟨?_, ?_, fun _ _ => Json.unwrapEnvelope_eq_iff, fun parts =>
    ⟨exists_compileParts_eq_error_iff, fun _ => compileParts_eq_error_iff,
      fun _ _ _ => compileParts_alone_eq_error_iff.symm⟩⟩
  · rw [perform, performParts, compileParts_append_materialize, parameters]
    cases compileParts q.parts with
    | error err => rfl
    | ok c =>
      refine congrArg (send c >>= ·) (funext fun answer => ?_)
      cases answer with
      | error err => rfl
      | ok body => rfl
  · rw [execute, perform, performParts, compileParts_append_materialize, parameters]
    cases compileParts q.parts with
    | error err => rfl
    | ok c =>
      change Execution.mk [c] (((transport c).map Json.unwrapEnvelope).mapError .transport) =
        match transport c with
        | .error err => ⟨[c], .error (.transport err)⟩
        | .ok body => ⟨[c], .ok body.unwrapEnvelope⟩
      cases transport c with
      | error err => rfl
      | ok body => rfl

end Query

end LambdaQuery
