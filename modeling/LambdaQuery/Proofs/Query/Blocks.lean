import LambdaQuery.Proofs.Outcome
import LambdaQuery.Query.Compiled

/-!
# The parameters of a query, block by block

Compiling a query goes through its operations once and keeps the ordering operations that wait for
the next operation of another kind.  This module says what comes out without such a state: the
operations that become parameters are cut into blocks, and every block gives one parameter.  A block
is a longest run of ordering operations, or one operation of another kind.

## Main definitions

* `LambdaQuery.IsCut` — the blocks of a list of operations.
* `LambdaQuery.Gives` — the parameter of a block.
* `LambdaQuery.preference` — how member names are written.

## Main results

* `LambdaQuery.isCut_iff` — there is exactly one way to cut a list of operations.
* `LambdaQuery.parametersAfter_eq_ok_iff` — what the pass over the operations returns.
* `LambdaQuery.compileParts_eq_ok_iff` — what a query is compiled to.

## Design

The cut is stated by what its blocks are and computed by `List.splitBy`, whose characterization in
the library makes it unique.  What a block gives is a relation, so nothing is said about the order
in which its arguments are looked at or about which error comes first.
-/

set_option autoImplicit false

namespace LambdaQuery

/-! ## Cutting operations into blocks -/

/-- The operations that become parameters. -/
def visible (parts : List Part) : List Part := parts.filter (!·.isSilent)

/-- An operation that becomes no parameter is left out. -/
lemma visible_cons_of_isSilent {p : Part} (h : p.isSilent = true) (ps : List Part) :
    visible (p :: ps) = visible ps := by
  simp [visible, h]

/-- Any other operation stays. -/
lemma visible_cons_of_not_isSilent {p : Part} (h : p.isSilent = false) (ps : List Part) :
    visible (p :: ps) = p :: visible ps := by
  simp [visible, h]

/-- The block is made of ordering operations, at least one. -/
def IsRun (block : List Part) : Prop := block ≠ [] ∧ ∀ p ∈ block, p.kind.isOrdering = true

/-- The block is one operation of another kind. -/
def IsSingle (block : List Part) : Prop := ∃ p, block = [p] ∧ p.kind.isOrdering = false

/-- The blocks are the longest runs of ordering operations and the single other operations, in
order. -/
structure IsCut (parts : List Part) (blocks : List (List Part)) : Prop where
  /-- Nothing is lost, added or moved. -/
  flatten : blocks.flatten = parts
  /-- Every block is of one of the two forms. -/
  forms : ∀ b ∈ blocks, IsRun b ∨ IsSingle b
  /-- Two runs are never neighbours. -/
  longest : blocks.IsChain fun a b => ¬ (IsRun a ∧ IsRun b)

/-- Both are ordering operations. -/
def bothOrdering (p q : Part) : Bool := p.kind.isOrdering && q.kind.isOrdering

/-- The blocks of a list of operations. -/
def cut (parts : List Part) : List (List Part) := parts.splitBy bothOrdering

/-- Neighbours in a run are both ordering operations. -/
lemma isChain_of_forall_isOrdering {block : List Part}
    (h : ∀ p ∈ block, p.kind.isOrdering = true) :
    block.IsChain fun p q => bothOrdering p q = true := by
  refine (List.pairwise_of_forall_mem_list fun p hp q hq => ?_).isChain
  simp [bothOrdering, h p hp, h q hq]

/-- If neighbours are always ordering operations, the block is a run or a single operation. -/
lemma isRun_or_isSingle {block : List Part} (hne : block ≠ [])
    (h : block.IsChain fun p q => bothOrdering p q = true) : IsRun block ∨ IsSingle block := by
  induction block with
  | nil => contradiction
  | cons p rest ih =>
    rcases rest with _ | ⟨q, rest⟩
    · cases hp : p.kind.isOrdering with
      | false => exact .inr ⟨p, rfl, hp⟩
      | true => exact .inl ⟨hne, by simpa using hp⟩
    · rw [List.isChain_cons_cons, bothOrdering, Bool.and_eq_true] at h
      -- the operation after the first one is an ordering one, so what follows is a run
      rcases ih (by simp) h.2 with hrun | ⟨q', hq', hother⟩
      · exact .inl ⟨hne, List.forall_mem_cons.2 ⟨h.1.1, hrun.2⟩⟩
      · obtain ⟨rfl, -⟩ := List.cons.inj hq'
        simp [h.1.2] at hother

/-- **There is exactly one cut** of a list of operations. -/
theorem isCut_iff {parts : List Part} {blocks : List (List Part)} :
    IsCut parts blocks ↔ cut parts = blocks := by
  rw [cut, List.splitBy_eq_iff]
  constructor
  · rintro ⟨rfl, hforms, hlongest⟩
    refine ⟨rfl, fun hnil => ?_, fun b hb => ?_, ?_⟩
    · rcases hforms [] hnil with hrun | ⟨p, hp, -⟩
      · exact hrun.1 rfl
      · simp at hp
    · rcases hforms b hb with hrun | ⟨p, rfl, -⟩
      · exact isChain_of_forall_isOrdering hrun.2
      · exact List.isChain_singleton p
    · refine hlongest.imp_of_mem_imp fun a b ha hb hab => ?_
      rcases hforms a ha with hrun | ⟨p, rfl, hp⟩ <;> rcases hforms b hb with hrun' | ⟨q, rfl, hq⟩
      · exact absurd ⟨hrun, hrun'⟩ hab
      · exact ⟨hrun.1, by simp, by simp [bothOrdering, hq]⟩
      · exact ⟨by simp, hrun'.1, by simp [bothOrdering, hp]⟩
      · exact ⟨by simp, by simp, by simp [bothOrdering, hp]⟩
  · rintro ⟨rfl, hnil, hchain, hends⟩
    refine ⟨rfl, fun b hb => isRun_or_isSingle (fun h => hnil (h ▸ hb)) (hchain b hb), ?_⟩
    refine hends.imp fun a b ⟨ha, hb, hab⟩ ⟨hrun, hrun'⟩ => ?_
    simp [bothOrdering, hrun.2 _ (List.getLast_mem ha), hrun'.2 _ (List.head_mem hb)] at hab

/-- Ordering operations are one block, if there are any. -/
lemma cut_of_forall_isOrdering {run : List Part} (hne : run ≠ [])
    (h : ∀ p ∈ run, p.kind.isOrdering = true) : cut run = [run] :=
  List.splitBy_of_isChain hne (isChain_of_forall_isOrdering h)

/-- An operation that orders nothing is a block of its own. -/
lemma cut_append_cons {run ps : List Part} {p : Part} (hp : p.kind.isOrdering = false) :
    cut (run ++ p :: ps) = cut run ++ [p] :: cut ps := by
  have hleft : (run ++ p :: ps).splitBy bothOrdering =
      run.splitBy bothOrdering ++ (p :: ps).splitBy bothOrdering :=
    List.splitBy_append_cons ps fun q _ => by simp [bothOrdering, hp]
  have hright : ([p] ++ ps).splitBy bothOrdering =
      [p].splitBy bothOrdering ++ ps.splitBy bothOrdering :=
    List.splitBy_append fun q hq r _ => by
      obtain rfl : p = q := by simpa using hq
      simp [bothOrdering, hp]
  rw [cut, hleft]
  exact congrArg _ hright

/-! ## What a block gives -/

/-- The texts of arguments.  Every argument has its text by itself, and an options object has
none. -/
inductive Texts (pascalize : Bool) : List Argument → List String → Prop where
  | nil : Texts pascalize [] []
  /-- The clause of an expression. -/
  | expression {e : Expr} {scopes : Scopes} {text : String} {args : List Argument}
      {texts : List String} :
      e.clause scopes pascalize = .ok text → Texts pascalize args texts →
      Texts pascalize (.expression e scopes :: args) (text :: texts)
  /-- A value as it is written in a clause. -/
  | literal {v : Value} {args : List Argument} {texts : List String} :
      Texts pascalize args texts →
      Texts pascalize (.literal v :: args) (String.ofList v.literal :: texts)
  /-- Nothing. -/
  | options {o : Options} {args : List Argument} {texts : List String} :
      Texts pascalize args texts → Texts pascalize (.options o :: args) texts

/-- `text` is made of the texts of the arguments, with commas between them. -/
def IsText (pascalize : Bool) (args : List Argument) (text : String) : Prop :=
  ∃ texts, Texts pascalize args texts ∧ text = String.intercalate ", " texts

/-- The clause of an ordering operation. -/
inductive IsClause (pascalize : Bool) : Part → String → Prop where
  | ascending {p : Part} {text : String} :
      p.kind.isDescending = false → IsText pascalize p.args text → IsClause pascalize p text
  | descending {p : Part} {text : String} :
      p.kind.isDescending = true → IsText pascalize p.args text →
      IsClause pascalize p (text ++ " desc")

/-- The parameters that hold the texts of arguments. -/
def textKeys : List (Kind × String) :=
  [(.filter, "$filter"), (.select, "$select"), (.skip, "$skip"), (.take, "$take")]

/-- The parameter of a block. -/
inductive Gives (pascalize : Bool) : List Part → Parameter → Prop where
  /-- A run is one parameter with the clauses of its operations. -/
  | ordering {run : List Part} {clauses : List String} :
      IsRun run → List.Forall₂ (IsClause pascalize) run clauses →
      Gives pascalize run ⟨"$orderby", String.intercalate ", " clauses⟩
  /-- An operation with texts. -/
  | text {kind : Kind} {key text : String} {args : List Argument} :
      (kind, key) ∈ textKeys → IsText pascalize args text →
      Gives pascalize [⟨kind, args⟩] ⟨key, text⟩
  /-- The number of elements. -/
  | count {args : List Argument} :
      Gives pascalize [⟨.inlineCount, args⟩] ⟨"$inlinecount", Part.inlineCountText args⟩

/-! ## The texts of an operation, as they are computed -/

/-- The texts of arguments, as they are computed. -/
lemma mapM_text?_eq_ok_iff {pascalize : Bool} {args : List Argument} {texts : List String} :
    (args.filterMap (·.text? pascalize)).mapM id = .ok texts ↔ Texts pascalize args texts := by
  rw [mapM_eq_ok_iff]
  induction args generalizing texts with
  | nil =>
    constructor
    · rintro ⟨⟩
      exact .nil
    · rintro ⟨⟩
      exact .nil
  | cons a args ih =>
    cases a with
    | expression e scopes =>
      constructor
      · rintro (_ | ⟨htext, hrest⟩)
        exact .expression htext (ih.1 hrest)
      · rintro (_ | ⟨htext, hrest⟩)
        exact .cons htext (ih.2 hrest)
    | literal v =>
      constructor
      · rintro (_ | ⟨htext, hrest⟩)
        obtain rfl := Except.ok.inj htext
        exact .literal (ih.1 hrest)
      · rintro (_ | _ | hrest)
        exact .cons rfl (ih.2 hrest)
    | options o =>
      constructor
      · intro h
        exact .options (ih.1 h)
      · rintro (_ | _ | _ | hrest)
        exact ih.2 hrest

namespace Part

variable {pascalize : Bool} {p : Part}

/-- The text of an operation, as it is computed. -/
lemma argumentText_eq_ok_iff {text : String} :
    p.argumentText pascalize = .ok text ↔ IsText pascalize p.args text := by
  simp only [argumentText, bind_eq_ok_iff, pure_eq_ok_iff, mapM_text?_eq_ok_iff, IsText]

/-- The clause of an ordering operation, as it is computed. -/
lemma orderingClause_eq_ok_iff {clause : String} :
    p.orderingClause pascalize = .ok clause ↔ IsClause pascalize p clause := by
  simp only [orderingClause, bind_eq_ok_iff, pure_eq_ok_iff, argumentText_eq_ok_iff]
  constructor
  · rintro ⟨text, htext, rfl⟩
    cases hkind : p.kind.isDescending with
    | false => exact .ascending hkind htext
    | true => exact .descending hkind htext
  · rintro (⟨hkind, htext⟩ | ⟨hkind, htext⟩)
    · exact ⟨_, htext, by simp [hkind]⟩
    · exact ⟨_, htext, by simp [hkind]⟩

/-- What an operation that orders nothing gives. -/
lemma gives_single_iff {q : Parameter} (hp : p.kind.isOrdering = false) :
    Gives pascalize [p] q ↔
      (∃ key text, (p.kind, key) ∈ textKeys ∧ IsText pascalize p.args text ∧ q = ⟨key, text⟩) ∨
        p.kind = .inlineCount ∧ q = ⟨"$inlinecount", inlineCountText p.args⟩ := by
  constructor
  · intro h
    cases h with
    | ordering hrun => simp [hrun.2 p (List.mem_singleton_self p)] at hp
    | text hkey htext => exact .inl ⟨_, _, hkey, htext, rfl⟩
    | count => exact .inr ⟨rfl, rfl⟩
  · obtain ⟨kind, args⟩ := p
    rintro (⟨key, text, hkey, htext, rfl⟩ | ⟨rfl, rfl⟩)
    · exact .text hkey htext
    · exact .count

/-- The parameter of an operation that orders nothing, as it is computed. -/
lemma parameter_eq_ok_iff {q : Parameter} (hp : p.kind.isOrdering = false) :
    p.parameter pascalize = .ok q ↔ Gives pascalize [p] q := by
  -- an operation with texts, whatever its key
  have htext : ∀ key, (do return (⟨key, ← p.argumentText pascalize⟩ : Parameter)) = .ok q ↔
      ∃ text, IsText pascalize p.args text ∧ q = ⟨key, text⟩ := by
    intro key
    simp only [bind_eq_ok_iff, pure_eq_ok_iff, argumentText_eq_ok_iff]
  rw [gives_single_iff hp, parameter]
  cases p.kind with
  | filter | select | skip | take => simp only [textKeys, htext]; simp
  | inlineCount => simp [textKeys, pure_eq_ok_iff]
  | _ => simp [textKeys, throw, throwThe, MonadExceptOf.throw]

end Part

/-! ## The pass over the operations -/

section Pass

variable {pascalize : Bool}

/-- What a run of ordering operations gives. -/
lemma gives_run_iff {run : List Part} {q : Parameter} (hrun : IsRun run) :
    Gives pascalize run q ↔ ∃ clauses, List.Forall₂ (IsClause pascalize) run clauses ∧
      q = ⟨"$orderby", String.intercalate ", " clauses⟩ := by
  constructor
  · intro h
    cases h with
    | ordering _ hclauses => exact ⟨_, hclauses, rfl⟩
    | text hkey =>
      have hkind := hrun.2 _ (List.mem_singleton_self _)
      simp only [textKeys, List.mem_cons, Prod.mk.injEq, List.not_mem_nil, or_false] at hkey
      rcases hkey with ⟨rfl, -⟩ | ⟨rfl, -⟩ | ⟨rfl, -⟩ | ⟨rfl, -⟩ <;> contradiction
    | count =>
      have hkind := hrun.2 _ (List.mem_singleton_self _)
      contradiction
  · rintro ⟨clauses, hclauses, rfl⟩
    exact .ordering hrun hclauses

/-- The parameter of the ordering operations that wait, as it is computed. -/
lemma orderingParameter_eq_ok_iff {run : List Part} {params : List Parameter}
    (h : ∀ p ∈ run, p.kind.isOrdering = true) :
    orderingParameter pascalize run = .ok params ↔
      List.Forall₂ (Gives pascalize) (cut run) params := by
  rcases run with _ | ⟨p, run⟩
  · rw [orderingParameter, pure_eq_ok_iff]
    exact List.forall₂_nil_left_iff.symm
  · rw [cut_of_forall_isOrdering (by simp) h, List.forall₂_cons_left_iff, orderingParameter]
    · simp only [bind_eq_ok_iff, pure_eq_ok_iff, mapM_eq_ok_iff, Part.orderingClause_eq_ok_iff,
        gives_run_iff ⟨List.cons_ne_nil p run, h⟩, List.forall₂_nil_left_iff]
      constructor
      · rintro ⟨clauses, hclauses, rfl⟩
        exact ⟨_, [], ⟨clauses, hclauses, rfl⟩, rfl, rfl⟩
      · rintro ⟨_, _, ⟨clauses, hclauses, rfl⟩, rfl, rfl⟩
        exact ⟨clauses, hclauses, rfl⟩
    · simp

/-- Blocks give what their parts give. -/
lemma forall₂_gives_append {bs bs' : List (List Part)} {params : List Parameter} :
    List.Forall₂ (Gives pascalize) (bs ++ bs') params ↔
      ∃ qs qs', List.Forall₂ (Gives pascalize) bs qs ∧ List.Forall₂ (Gives pascalize) bs' qs' ∧
        params = qs ++ qs' := by
  induction bs generalizing params with
  | nil => simp
  | cons b bs ih =>
    simp only [List.cons_append, List.forall₂_cons_left_iff, ih]
    constructor
    · rintro ⟨q, _, hq, ⟨qs, qs', hqs, hqs', rfl⟩, rfl⟩
      exact ⟨q :: qs, qs', ⟨q, qs, hq, hqs, rfl⟩, hqs', rfl⟩
    · rintro ⟨_, qs', ⟨q, qs, hq, hqs, rfl⟩, hqs', rfl⟩
      exact ⟨q, _, hq, ⟨qs, qs', hqs, hqs', rfl⟩, rfl⟩

/-- **The pass over the operations**: with ordering operations waiting, it succeeds with the
parameters of the blocks of all that waits and all that follows.

**Proof sketch.** Induction over the operations.  An ordering operation joins those that wait.  An
operation of another kind is a block of its own, so those that wait are a block too, and nothing
waits after it. -/
theorem parametersAfter_eq_ok_iff {pending ps : List Part} {params : List Parameter}
    (h : ∀ p ∈ pending, p.kind.isOrdering = true) :
    parametersAfter pascalize pending ps = .ok params ↔
      List.Forall₂ (Gives pascalize) (cut (pending ++ visible ps)) params := by
  induction ps generalizing pending params with
  | nil => simpa [parametersAfter, visible] using orderingParameter_eq_ok_iff h
  | cons p ps ih =>
    rw [parametersAfter]
    cases hsilent : p.isSilent with
    | true => rw [visible_cons_of_isSilent hsilent, if_pos rfl, ih h]
    | false =>
      rw [visible_cons_of_not_isSilent hsilent, if_neg Bool.false_ne_true]
      cases hp : p.kind.isOrdering with
      | true =>
        have hjoined : ∀ q ∈ pending ++ [p], q.kind.isOrdering = true :=
          List.forall_mem_append.2 ⟨h, List.forall_mem_singleton.2 hp⟩
        rw [if_pos rfl, ih hjoined, List.append_assoc, List.singleton_append]
      | false =>
        rw [if_neg Bool.false_ne_true, cut_append_cons hp, forall₂_gives_append]
        simp only [bind_eq_ok_iff, pure_eq_ok_iff, orderingParameter_eq_ok_iff h,
          Part.parameter_eq_ok_iff hp, List.forall₂_cons_left_iff]
        constructor
        · rintro ⟨ordering, hordering, q, hq, others, hothers, rfl⟩
          exact ⟨ordering, _, hordering, ⟨q, others, hq, (ih (by simp)).1 hothers, rfl⟩, rfl⟩
        · rintro ⟨ordering, _, hordering, ⟨q, others, hq, hothers, rfl⟩, rfl⟩
          exact ⟨ordering, hordering, q, hq, others, (ih (by simp)).2 hothers, rfl⟩

/-- The pass over the operations leaves out those that become no parameters. -/
lemma parametersAfter_visible (pending ps : List Part) :
    parametersAfter pascalize pending (visible ps) = parametersAfter pascalize pending ps := by
  induction ps generalizing pending with
  | nil => rfl
  | cons p ps ih =>
    cases hsilent : p.isSilent with
    | true => rw [visible_cons_of_isSilent hsilent, ih, parametersAfter, if_pos hsilent]
    | false => simp only [visible_cons_of_not_isSilent hsilent, parametersAfter, ih]

end Pass

/-! ## Compiled queries -/

/-- The operations that set options. -/
def settings (parts : List Part) : List Part := parts.filter (·.kind == .applyOptions)

/-- How member names are written: the last of the options objects that say so decides, and without
any they are written as they are. -/
def preference (options : List Options) : Bool := (options.filterMap (·.pascalize)).getLastD false

/-- The preference, as it is computed. -/
lemma pascalizeOf_eq_preference (options : List Options) :
    pascalizeOf options = preference options := by
  rw [pascalizeOf, ← List.head?_filterMap, List.filterMap_reverse, List.head?_reverse, preference,
    List.getLastD_eq_getLast?]

/-- What a list of operations is compiled to. -/
structure IsCompiled (parts : List Part) (c : Compiled) : Prop where
  /-- The options objects of the operations that set options, in order. -/
  options : c.options = (settings parts).flatMap fun p => p.args.filterMap (·.options?)
  /-- One parameter for each block of the other operations, in order. -/
  params : ∃ blocks, IsCut (visible parts) blocks ∧
    List.Forall₂ (Gives (preference c.options)) blocks c.params

/-- A list of operations has a result exactly if it is compiled to it. -/
lemma compileParts_eq_ok_iff {parts : List Part} {c : Compiled} :
    compileParts parts = .ok c ↔ IsCompiled parts c := by
  have hpass : ∀ params,
      parametersAfter (pascalizeOf (optionsOf parts)) [] parts = .ok params ↔
        List.Forall₂ (Gives (preference (optionsOf parts))) (cut (visible parts)) params := by
    intro params
    rw [pascalizeOf_eq_preference]
    exact parametersAfter_eq_ok_iff (by simp)
  simp only [compileParts, bind_eq_ok_iff, pure_eq_ok_iff, hpass]
  constructor
  · rintro ⟨params, hparams, rfl⟩
    exact ⟨rfl, _, isCut_iff.2 rfl, hparams⟩
  · obtain ⟨params, options⟩ := c
    rintro ⟨rfl, blocks, hcut, hparams⟩
    obtain rfl := isCut_iff.1 hcut
    exact ⟨params, hparams, rfl⟩

/-- Where the operations that become no parameters stand has no influence. -/
lemma compileParts_eq_of_visible_eq {parts parts' : List Part} (h : visible parts = visible parts')
    (hsettings : settings parts = settings parts') : compileParts parts = compileParts parts' := by
  have hoptions : optionsOf parts = optionsOf parts' := by
    change (settings parts).flatMap _ = (settings parts').flatMap _
    rw [hsettings]
  rw [compileParts, compileParts, ← parametersAfter_visible [] parts, h, parametersAfter_visible,
    hoptions]

/-- **What a query is compiled to**: compiling succeeds exactly with the options objects of the
operations that set options and with one parameter for each block of the operations that become
parameters.  The result is the same, success or failure, wherever the other operations stand, if
those that set options keep their order. -/
theorem compileParts_iff_isCompiled (parts : List Part) :
    (∀ c, compileParts parts = .ok c ↔ IsCompiled parts c) ∧
      ∀ parts', visible parts' = visible parts → settings parts' = settings parts →
        compileParts parts' = compileParts parts :=
  ⟨fun _ => compileParts_eq_ok_iff, fun _ => compileParts_eq_of_visible_eq⟩

/-- Two ordering operations with options between them are one block. -/
theorem compileParts_iff_isCompiled_ordering :
    IsCompiled
        [.ofExpr .orderBy (.lambda ["x"] (.member (.variable "x") "a")) [],
          .ofOptions (Options.empty.withPascalize true),
          .ofExpr .thenByDescending (.variable "b") [],
          .ofExpr .filter (.variable "c") [], .materialize]
        ⟨[⟨"$orderby", "A, b desc"⟩, ⟨"$filter", "c"⟩], [Options.empty.withPascalize true]⟩ ∧
      compileParts
          [.materialize, .ofExpr .orderBy (.lambda ["x"] (.member (.variable "x") "a")) [],
            .ofExpr .thenByDescending (.variable "b") [], .ofExpr .filter (.variable "c") [],
            .ofOptions (Options.empty.withPascalize true)] =
        compileParts
          [.ofExpr .orderBy (.lambda ["x"] (.member (.variable "x") "a")) [],
            .ofOptions (Options.empty.withPascalize true),
            .ofExpr .thenByDescending (.variable "b") [],
            .ofExpr .filter (.variable "c") [], .materialize] :=
  ⟨((compileParts_iff_isCompiled _).1 _).1 (by cbv), (compileParts_iff_isCompiled _).2 _ rfl rfl⟩

end LambdaQuery
