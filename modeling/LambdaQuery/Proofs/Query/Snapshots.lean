import LambdaQuery.Proofs.Bindings
import LambdaQuery.Query.Builder

/-!
# What the steps of a query leave in it

A query is built by steps, and a step whose source cannot be read leaves it as it was.  A captured
variable is seen by the expressions that are added after it, as it was when they were added: to
capture it again has no influence on them.

## Main definitions

* `LambdaQuery.Query.run` — the query that steps lead to.
* `LambdaQuery.Query.IsLastCapture` — the value that a name was captured with last.
* `LambdaQuery.Query.IsSnapshot` — the scopes of an expression that is added behind given steps.
* `LambdaQuery.Query.Adds` — the operation that a step adds behind given steps.

## Main results

* `LambdaQuery.Query.parts_attempt`, `LambdaQuery.Query.captured_attempt` — what one step changes.
* `LambdaQuery.Query.get?_captured_run` — the variables that are captured after a run.
* `LambdaQuery.Query.forall₂_adds_run` — the operations after a run.
* `LambdaQuery.Query.run_keeps_snapshots` — the operations after a run, and captures that change
  nothing.
-/

set_option autoImplicit false

namespace LambdaQuery

namespace Query

/-! ## Runs -/

/-- The query after a step; a step that fails leaves it as it was. -/
def attempt (q : Query) (s : Step) : Query :=
  match q.step s with
  | .ok q' => q'
  | .error _ => q

/-- The query that steps lead to. -/
def run (steps : List Step) : Query := steps.foldl attempt empty

/-- Each step with the steps before it. -/
def withHistory (steps : List Step) : List (List Step × Step) := steps.inits.zip steps

/-- The step adds an operation: it captures nothing, and its source can be read if it has one. -/
def Step.isSuccessful : Step → Bool
  | .capture _ _ => false
  | .source _ text => (parse text).isOk
  | _ => true

/-- The step adds an operation on an expression. -/
def Step.addsExpression : Step → Bool
  | .source _ text => (parse text).isOk
  | .expression _ _ => true
  | _ => false

/-- The step adds an operation that is the same whatever is captured, without reading a source. -/
def Step.isFixed : Step → Bool
  | .skip _ | .take _ | .inlineCount _ | .options _ | .push _ => true
  | _ => false

/-! ## What steps leave behind -/

/-- The value that the steps capture under the name last. -/
def IsLastCapture (steps : List Step) (x : String) (v : Value) : Prop :=
  ∃ before after, steps = before ++ .capture x v :: after ∧ ∀ w, .capture x w ∉ after

/-- The scopes of an expression that is added behind the steps. -/
inductive IsSnapshot (before : List Step) : Scopes → Prop where
  /-- There is no frame if nothing was captured. -/
  | nothing : (∀ x v, .capture x v ∉ before) → IsSnapshot before []
  /-- Otherwise there is one frame, in which every name has the value that it was captured with
  last. -/
  | captured {frame : Frame} : (∃ x v, .capture x v ∈ before) →
      (∀ x v, frame.get? x = some v ↔ IsLastCapture before x v) → IsSnapshot before [frame]

/-- The operation that a step adds behind the steps `before`. -/
inductive Adds (before : List Step) : Step → Part → Prop where
  | source {kind : Kind} {text : String} {e : Expr} {scopes : Scopes} :
      parse text = .ok e → IsSnapshot before scopes →
      Adds before (.source kind text) ⟨kind, [.expression e scopes]⟩
  | expression {kind : Kind} {e : Expr} {scopes : Scopes} :
      IsSnapshot before scopes → Adds before (.expression kind e) ⟨kind, [.expression e scopes]⟩
  | skip (count : Int64) : Adds before (.skip count) ⟨.skip, [.literal (.int count)]⟩
  | take (count : Int64) : Adds before (.take count) ⟨.take, [.literal (.int count)]⟩
  | inlineCount (enabled : Bool) :
      Adds before (.inlineCount enabled) ⟨.inlineCount, [.literal (.bool enabled)]⟩
  | options (o : Options) : Adds before (.options o) ⟨.applyOptions, [.options o]⟩
  | push (p : Part) : Adds before (.push p) p

/-- The last step captures the name, or the steps before it do and it captures another one. -/
lemma isLastCapture_concat {steps : List Step} {s : Step} {x : String} {v : Value} :
    IsLastCapture (steps ++ [s]) x v ↔
      s = .capture x v ∨ IsLastCapture steps x v ∧ ∀ w, s ≠ .capture x w := by
  constructor
  · rintro ⟨before, after, heq, hafter⟩
    rcases List.eq_nil_or_concat after with rfl | ⟨after, t, rfl⟩
    · exact .inl (by simpa using congrArg List.getLast? heq)
    · rw [List.concat_eq_append] at heq hafter
      rw [← List.cons_append, ← List.append_assoc] at heq
      obtain ⟨rfl, hs⟩ := List.append_inj' heq rfl
      obtain rfl : s = t := by simpa using hs
      refine .inr ⟨⟨before, after, rfl, fun w hw => hafter w (by simp [hw])⟩, ?_⟩
      rintro w rfl
      exact hafter w (by simp)
  · rintro (rfl | ⟨⟨before, after, rfl, hafter⟩, hs⟩)
    · exact ⟨steps, [], rfl, by simp⟩
    · refine ⟨before, after ++ [s], by simp, fun w hw => ?_⟩
      rcases List.mem_append.1 hw with hw | hw
      · exact hafter w hw
      · exact hs w (List.mem_singleton.1 hw).symm

/-- One more step has all steps before it. -/
lemma withHistory_concat (steps : List Step) (s : Step) :
    withHistory (steps ++ [s]) = withHistory steps ++ [(steps, s)] := by
  induction steps with
  | nil => rfl
  | cons t steps ih =>
    simp only [withHistory, List.cons_append, List.inits_cons, List.zip_cons_cons,
      List.zip_map_left] at ih ⊢
    rw [ih, List.map_append]
    rfl

/-! ## One step -/

/-- The operation that a step adds to a query with the given scopes. -/
def Step.part? (scopes : Scopes) : Step → Option Part
  | .capture _ _ => none
  | .source kind text => (parse text).toOption.map fun e => .ofExpr kind e scopes
  | .skip count => some (.ofValue .skip (.int count))
  | .take count => some (.ofValue .take (.int count))
  | .inlineCount enabled => some (.ofValue .inlineCount (.bool enabled))
  | .options o => some (.ofOptions o)
  | .expression kind e => some (.ofExpr kind e scopes)
  | .push p => some p

/-- **The operations after one step**: those before it, and the one that it adds. -/
lemma parts_attempt (q : Query) (s : Step) :
    (q.attempt s).parts = q.parts ++ (s.part? q.scopes).toList := by
  cases s with
  | capture x v => exact (List.append_nil _).symm
  | source kind text =>
    simp only [attempt, step, withSource, Step.part?]
    cases parse text with
    | error err => exact (List.append_nil _).symm
    | ok e => rfl
  | _ => rfl

/-- **The variables after one step**: a step that captures one sets it, and no other step changes
them. -/
lemma captured_attempt (q : Query) (s : Step) :
    (q.attempt s).captured =
      match s with
      | .capture x v => q.captured.set x v
      | _ => q.captured := by
  cases s with
  | source kind text =>
    simp only [attempt, step, withSource]
    cases parse text with
    | error err => rfl
    | ok e => rfl
  | _ => rfl

/-- The steps that add an operation are those that are successful. -/
lemma isSome_part? (scopes : Scopes) (s : Step) : (s.part? scopes).isSome = s.isSuccessful := by
  cases s with
  | source kind text =>
    simp only [Step.part?, Step.isSuccessful]
    cases parse text with
    | error err => rfl
    | ok e => rfl
  | _ => rfl

/-- What is added behind steps that lead to the given scopes. -/
lemma adds_of_part? {before : List Step} {scopes : Scopes} (h : IsSnapshot before scopes) {s : Step}
    {p : Part} (hp : s.part? scopes = some p) : Adds before s p := by
  cases s with
  | capture x v => contradiction
  | source kind text =>
    obtain ⟨e, he, rfl⟩ := Option.map_eq_some_iff.1 hp
    cases hparse : parse text with
    | error err => simp [hparse, Except.toOption] at he
    | ok e' =>
      obtain rfl : e' = e := by simpa [hparse, Except.toOption] using he
      exact .source hparse h
  | skip count => exact Option.some.inj hp ▸ .skip count
  | take count => exact Option.some.inj hp ▸ .take count
  | inlineCount enabled => exact Option.some.inj hp ▸ .inlineCount enabled
  | options o => exact Option.some.inj hp ▸ .options o
  | expression kind e => exact Option.some.inj hp ▸ .expression h
  | push p => exact Option.some.inj hp ▸ .push p

/-! ## Runs of steps -/

/-- The last step of a run is made last. -/
lemma run_concat (steps : List Step) (s : Step) : run (steps ++ [s]) = (run steps).attempt s :=
  List.foldl_append

/-- **The variables after a run**: every name has the value that it was captured with last. -/
lemma get?_captured_run (steps : List Step) (x : String) (v : Value) :
    (run steps).captured.get? x = some v ↔ IsLastCapture steps x v := by
  induction steps using List.reverseRecOn with
  | nil => simp [run, empty, Bindings.empty, Bindings.get?, IsLastCapture]
  | append_singleton steps s ih =>
    rw [run_concat, captured_attempt, isLastCapture_concat]
    cases s with
    | capture y w =>
      rw [Bindings.get?_set, Step.capture.injEq]
      by_cases hxy : x = y
      · simp [hxy]
      · simp [hxy, Ne.symm hxy, ih]
    | _ => simp [ih]

/-- After a run there are variables if one of the steps captured one. -/
lemma isEmpty_captured_run (steps : List Step) :
    (run steps).captured.isEmpty = true ↔ ∀ x v, .capture x v ∉ steps := by
  induction steps using List.reverseRecOn with
  | nil => exact ⟨fun _ _ _ => List.not_mem_nil, fun _ => rfl⟩
  | append_singleton steps s ih =>
    rw [run_concat, captured_attempt]
    cases s with
    | capture y w =>
      refine iff_of_false ?_ fun h => h y w (by simp)
      rw [Bindings.isEmpty_set]
      exact Bool.false_ne_true
    | _ => simp [ih]

/-- The scopes after a run are a snapshot of what its steps captured. -/
lemma isSnapshot_scopes_run (steps : List Step) : IsSnapshot steps (run steps).scopes := by
  rw [scopes]
  split_ifs with hempty
  · exact .nothing ((isEmpty_captured_run steps).1 hempty)
  · rw [isEmpty_captured_run] at hempty
    push Not at hempty
    exact .captured hempty (get?_captured_run steps)

/-- **The operations after a run** are those of its successful steps, in order.

**Proof sketch.** Induction on the steps from the end.  The last step adds its operation, if it adds
any, with the scopes that the steps before it have left. -/
theorem forall₂_adds_run (steps : List Step) :
    List.Forall₂ (fun place p => Adds place.1 place.2 p)
      ((withHistory steps).filter fun place => place.2.isSuccessful) (run steps).parts := by
  induction steps using List.reverseRecOn with
  | nil => exact .nil
  | append_singleton steps s ih =>
    rw [withHistory_concat, List.filter_append, run_concat, parts_attempt]
    refine List.rel_append ih ?_
    rw [List.filter_singleton, ← isSome_part? (run steps).scopes]
    cases hp : s.part? (run steps).scopes with
    | none => exact .nil
    | some p => exact .cons (adds_of_part? (isSnapshot_scopes_run steps) hp) .nil

/-! ## Captures that change nothing -/

/-- A step that adds no expression adds the same operation whatever is captured. -/
lemma part?_eq_of_addsExpression {s : Step} (h : s.addsExpression = false)
    (scopes scopes' : Scopes) : s.part? scopes = s.part? scopes' := by
  cases s with
  | source kind text =>
    simp only [Step.addsExpression] at h
    simp only [Step.part?]
    cases hparse : parse text with
    | error err => rfl
    | ok e => simp [hparse, Except.isOk, Except.toBool] at h
  | expression kind e => contradiction
  | _ => rfl

/-- Steps that add no expression add the same operations to queries with the same operations,
whatever is captured in them. -/
lemma parts_foldl_attempt {steps : List Step} (h : ∀ s ∈ steps, s.addsExpression = false)
    {q q' : Query} (hparts : q.parts = q'.parts) :
    (steps.foldl attempt q).parts = (steps.foldl attempt q').parts := by
  induction steps generalizing q q' with
  | nil => exact hparts
  | cons s steps ih =>
    rw [List.forall_mem_cons] at h
    refine ih h.2 ?_
    rw [parts_attempt, parts_attempt, hparts, part?_eq_of_addsExpression h.1 q.scopes q'.scopes]

/-- A capture and a step that has nothing to do with it can be made in either order. -/
lemma attempt_capture_comm (q : Query) (x : String) (v : Value) {s : Step} (h : s.isFixed = true) :
    (q.attempt (.capture x v)).attempt s = (q.attempt s).attempt (.capture x v) := by
  cases s with
  | capture y w => contradiction
  | source kind text => contradiction
  | expression kind e => contradiction
  | _ => rfl

/-- **Captures as they were**: the operations after a run are those of its successful steps other
than captures, in order, and an expression among them has the variables as they were captured last
before it.  So the parameters are the same without a capture behind which no expression is added,
and with a capture on the other side of a step next to it that adds no expression. -/
theorem run_keeps_snapshots :
    (∀ steps : List Step,
      List.Forall₂ (fun place p => Adds place.1 place.2 p)
        ((withHistory steps).filter fun place => place.2.isSuccessful) (run steps).parts) ∧
    (∀ (before after : List Step) (x : String) (v : Value),
      (∀ s ∈ after, s.addsExpression = false) →
      (run (before ++ .capture x v :: after)).parameters = (run (before ++ after)).parameters) ∧
    ∀ (before after : List Step) (x : String) (v : Value) (s : Step), s.isFixed = true →
      (run (before ++ .capture x v :: s :: after)).parameters =
        (run (before ++ s :: .capture x v :: after)).parameters := by
  refine ⟨forall₂_adds_run, fun before after x v hafter => ?_, fun before after x v s hs => ?_⟩
  · have hcapture : ((run before).attempt (.capture x v)).parts = (run before).parts := rfl
    have hparts := parts_foldl_attempt hafter hcapture
    simp only [run, parameters, List.foldl_append, List.foldl_cons] at hparts ⊢
    rw [hparts]
  · simp only [run, List.foldl_append, List.foldl_cons]
    rw [attempt_capture_comm _ x v hs]

/-- A name is captured again behind the expression that uses it. -/
theorem run_keeps_snapshots_recaptured :
    (run [.capture "id" (.int 1), .expression .filter (.variable "id"), .capture "id" (.int 2),
        .skip 5, .take 3]).parameters =
      (run [.capture "id" (.int 1), .expression .filter (.variable "id"), .skip 5,
        .take 3]).parameters ∧
    (run [.capture "id" (.int 1), .expression .filter (.variable "id"), .capture "id" (.int 2),
        .skip 5, .expression .filter (.variable "id")]).parameters =
      (run [.capture "id" (.int 1), .expression .filter (.variable "id"), .skip 5,
        .capture "id" (.int 2), .expression .filter (.variable "id")]).parameters :=
  ⟨run_keeps_snapshots.2.1 [.capture "id" (.int 1), .expression .filter (.variable "id")]
      [.skip 5, .take 3] "id" (.int 2) (by decide),
    run_keeps_snapshots.2.2 [.capture "id" (.int 1), .expression .filter (.variable "id")]
      [.expression .filter (.variable "id")] "id" (.int 2) (.skip 5) rfl⟩

end Query

end LambdaQuery
