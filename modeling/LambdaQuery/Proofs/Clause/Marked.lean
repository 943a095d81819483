import LambdaQuery.Proofs.Clause.Outermost
import LambdaQuery.Proofs.Expr.Parts

/-!
# Clauses with a marked function

Rendering finds the outermost function of a clause while it goes, by a flag that is taken away when
the first function is met.  The same clause is rendered without a flag from an expression in which
that function is marked beforehand: the marked function is written as its body, and its parameters
as nothing; every other function keeps its parameters in front of its body, wherever it stands.

## Main definitions

* `LambdaQuery.Expr.functionAddresses` — the addresses of the functions, in the order in which
  rendering meets them.
* `LambdaQuery.Expr.markedText` — the text of an expression with marked functions.

## Main results

* `LambdaQuery.Expr.mem_functionAddresses` — all functions have their addresses in the list.
* `LambdaQuery.Expr.text_eq_markedText` — the flag marks the first function.
* `LambdaQuery.Expr.clauseWithin_eq` — the clause of an expression is its text with the first
  function marked.

## Design

A mark is a test on addresses, so the marks of a part are those of the whole behind the number of
the part, and an expression without marks has parts without marks.
-/

set_option autoImplicit false

namespace LambdaQuery.Expr

open Clause

/-! ## Addresses -/

/-- The addresses `ps` of part number `i`, as addresses of the whole. -/
def inPart (i : Nat) (ps : List Address) : List Address := ps.map (i :: ·)

/-- There are addresses in part number `i` if there are any. -/
@[simp] lemma isEmpty_inPart (i : Nat) (ps : List Address) : (inPart i ps).isEmpty = ps.isEmpty :=
  List.isEmpty_map

/-- There is no address in two lists if there is none in either. -/
lemma isEmpty_append (ps qs : List Address) : (ps ++ qs).isEmpty = (ps.isEmpty && qs.isEmpty) := by
  cases ps with
  | nil => rfl
  | cons p ps => rfl

/-- An address in part number `i` is none in another part. -/
lemma cons_notMem_inPart {i j : Nat} (hj : j ≠ i) (p : Address) (ps : List Address) :
    j :: p ∉ inPart i ps := by
  simp [inPart, Ne.symm hj]

mutual

/-- The addresses of the functions in an expression, in the order in which rendering meets them:
from left to right, but the arguments of a call before what is called. -/
def functionAddresses : Expr → List Address
  | .literal _ => []
  | .variable _ => []
  | .unary _ e => inPart 0 e.functionAddresses
  | .binary _ a b => inPart 0 a.functionAddresses ++ inPart 1 b.functionAddresses
  | .group es => functionAddressesFrom 0 es
  | .assign _ e => inPart 0 e.functionAddresses
  | .object ms => memberFunctionAddressesFrom 0 ms
  | .array es => functionAddressesFrom 0 es
  | .member e _ => inPart 0 e.functionAddresses
  | .index e k => inPart 0 e.functionAddresses ++ inPart 1 k.functionAddresses
  | .lambda _ e => [] :: inPart 0 e.functionAddresses
  | .call e es => functionAddressesFrom 1 es ++ inPart 0 e.functionAddresses
  | .conditional a b c =>
    inPart 0 a.functionAddresses ++ (inPart 1 b.functionAddresses ++ inPart 2 c.functionAddresses)

/-- The addresses of the functions in parts that are numbered from `i`. -/
def functionAddressesFrom (i : Nat) : List Expr → List Address
  | [] => []
  | e :: es => inPart i e.functionAddresses ++ functionAddressesFrom (i + 1) es

/-- The addresses of the functions in members that are numbered from `i`. -/
def memberFunctionAddressesFrom (i : Nat) : List (String × Expr) → List Address
  | [] => []
  | (_, e) :: ms => inPart i e.functionAddresses ++ memberFunctionAddressesFrom (i + 1) ms

end

/-- The functions in members are those in the expressions of the members. -/
lemma memberFunctionAddressesFrom_eq (i : Nat) (ms : List (String × Expr)) :
    memberFunctionAddressesFrom i ms = functionAddressesFrom i (ms.map Prod.snd) := by
  induction ms generalizing i with
  | nil => rfl
  | cons m ms ih => rw [memberFunctionAddressesFrom, List.map_cons, functionAddressesFrom, ih]

/-- The addresses of the functions in parts that are numbered from `i`. -/
lemma mem_functionAddressesFrom {i : Nat} {q : Address} {es : List Expr} :
    q ∈ functionAddressesFrom i es ↔
      ∃ k e p, es[k]? = some e ∧ p ∈ e.functionAddresses ∧ q = (i + k) :: p := by
  induction es generalizing i with
  | nil => simp [functionAddressesFrom]
  | cons e es ih =>
    rw [functionAddressesFrom, List.mem_append, ih, inPart, List.mem_map]
    constructor
    · rintro (⟨p, hp, rfl⟩ | ⟨k, e', p, he', hp, rfl⟩)
      · exact ⟨0, e, p, rfl, hp, rfl⟩
      · exact ⟨k + 1, e', p, he', hp, by rw [Nat.add_right_comm, Nat.add_assoc]⟩
    · rintro ⟨_ | k, e', p, he', hp, rfl⟩
      · obtain rfl : e = e' := by simpa using he'
        exact .inl ⟨p, hp, rfl⟩
      · exact .inr ⟨k, e', p, he', hp, by rw [Nat.add_right_comm, Nat.add_assoc]⟩

/-- The functions in an expression are the expression itself, if it is one, and those in its
parts. -/
lemma functionAddresses_perm (e : Expr) :
    e.functionAddresses.Perm
      ((if e matches .lambda _ _ then [[]] else []) ++ functionAddressesFrom 0 e.parts) := by
  cases e with
  | object ms => simp [functionAddresses, memberFunctionAddressesFrom_eq, parts]
  | call e es =>
    simpa [functionAddresses, functionAddressesFrom, parts] using List.perm_append_comm
  | _ => simp [functionAddresses, functionAddressesFrom, parts]

/-- **All functions have their addresses in the list**, and nothing else has. -/
lemma mem_functionAddresses {e : Expr} {p : Address} :
    p ∈ e.functionAddresses ↔ ∃ ps b, e.part? p = some (.lambda ps b) := by
  induction p generalizing e with
  | nil =>
    rw [(functionAddresses_perm e).mem_iff, List.mem_append, mem_functionAddressesFrom]
    cases e with
    | lambda ps b => simp [part?]
    | _ => simp [part?]
  | cons i p ih =>
    have hpart : i :: p ∈ e.functionAddresses ↔
        ∃ a, e.parts[i]? = some a ∧ p ∈ a.functionAddresses := by
      rw [(functionAddresses_perm e).mem_iff, List.mem_append, mem_functionAddressesFrom]
      simp
    rw [hpart]
    simp only [ih, part?, Option.bind_eq_some_iff]
    constructor
    · rintro ⟨a, ha, ps, b, hb⟩
      exact ⟨ps, b, a, ha, hb⟩
    · rintro ⟨ps, b, a, ha, hb⟩
      exact ⟨a, ha, ps, b, hb⟩

/-! ## Texts with marked functions -/

mutual

/-- The text of an expression in which `bound` are the parameters that are written as nothing.  A
function at an address that is marked is written as its body, with its parameters as nothing; any
other function is written with its parameters, which are written by their names in its body. -/
def markedText (ctx : Context) (bound : List String) (mark : Address → Bool) :
    Expr → Except CompileError (List Char)
  | .literal v => return v.literal
  | .variable x => return variableText ctx bound x
  | .unary op e => do
    let t ← e.markedText ctx bound fun p => mark (0 :: p)
    return (Vocabulary.signWord op).toList ++ t
  | .binary op a b => do
    let s ← a.markedText ctx bound fun p => mark (0 :: p)
    let t ← b.markedText ctx bound fun p => mark (1 :: p)
    return s ++ ' ' :: (Vocabulary.infixWord op).toList ++ ' ' :: t
  | .group es => do
    let ts ← markedTexts ctx bound mark 0 es
    return '(' :: commaList ts ++ [')']
  | .assign _ e => e.markedText ctx bound fun p => mark (0 :: p)
  | .object ms => do
    let ts ← markedMemberTexts ctx bound mark 0 ms
    return commaList ts
  | .array es => do
    let ts ← markedTexts ctx bound mark 0 es
    return '[' :: commaList ts ++ [']']
  | .member e x => do
    let owner ← e.markedText ctx bound fun p => mark (0 :: p)
    return accessText ctx owner x
  | .index e k => do
    let owner ← e.markedText ctx bound fun p => mark (0 :: p)
    let key ← k.markedText ctx bound fun p => mark (1 :: p)
    return owner ++ '[' :: key ++ [']']
  | .lambda ps e =>
    if mark [] then e.markedText ctx (bound ++ ps) fun p => mark (0 :: p)
    else do
      let body ← e.markedText ctx (bound.filter (· ∉ ps)) fun p => mark (0 :: p)
      return functionText ps body
  | .call (.member e x) args => do
    let ts ← markedTexts ctx bound mark 1 args
    let owner ← e.markedText ctx bound fun p => mark (0 :: 0 :: p)
    return methodText owner x ts
  | .call (.variable x) args => do
    let ts ← markedTexts ctx bound mark 1 args
    return callText x.toList ts
  | .call callee _ => throw (.invalidCallTarget callee.print)
  | .conditional a b c => do
    let test ← a.markedText ctx bound fun p => mark (0 :: p)
    let yes ← b.markedText ctx bound fun p => mark (1 :: p)
    let no ← c.markedText ctx bound fun p => mark (2 :: p)
    return test ++ ' ' :: '?' :: ' ' :: yes ++ ' ' :: ':' :: ' ' :: no

/-- The texts of parts that are numbered from `i`. -/
def markedTexts (ctx : Context) (bound : List String) (mark : Address → Bool) (i : Nat) :
    List Expr → Except CompileError (List (List Char))
  | [] => return []
  | e :: es => do
    let t ← e.markedText ctx bound fun p => mark (i :: p)
    let ts ← markedTexts ctx bound mark (i + 1) es
    return t :: ts

/-- The texts of members that are numbered from `i`. -/
def markedMemberTexts (ctx : Context) (bound : List String) (mark : Address → Bool) (i : Nat) :
    List (String × Expr) → Except CompileError (List (List Char))
  | [] => return []
  | (x, e) :: ms => do
    let t ← e.markedText ctx bound fun p => mark (i :: p)
    let ts ← markedMemberTexts ctx bound mark (i + 1) ms
    return (x.toList ++ " as ".toList ++ t) :: ts

end

variable {ctx : Context}

/-- What neither is a method nor has a name cannot be called. -/
lemma markedText_invalid {e : Expr} (hmember : ∀ a x, e ≠ .member a x)
    (hvariable : ∀ x, e ≠ .variable x) (bound : List String) (mark : Address → Bool)
    (es : List Expr) :
    (call e es).markedText ctx bound mark = .error (.invalidCallTarget e.print) := by
  cases e with
  | member a x => exact absurd rfl (hmember a x)
  | «variable» x => exact absurd rfl (hvariable x)
  | _ => rfl

/-! ## The flag marks the first function -/

/-- There is a function in one of the parts if one of them has an address. -/
lemma not_anyFunction_eq {es : List Expr}
    (h : ∀ e ∈ es, (!e.hasFunction) = e.functionAddresses.isEmpty) (i : Nat) :
    (!anyFunction es) = (functionAddressesFrom i es).isEmpty := by
  induction es generalizing i with
  | nil => rfl
  | cons e es ih =>
    rw [List.forall_mem_cons] at h
    rw [anyFunction, functionAddressesFrom, Bool.not_or, isEmpty_append, isEmpty_inPart, h.1,
      ih h.2]

/-- There is a function in one of the members if one of them has an address. -/
lemma not_anyMemberFunction_eq {ms : List (String × Expr)}
    (h : ∀ m ∈ ms, (!m.2.hasFunction) = m.2.functionAddresses.isEmpty) (i : Nat) :
    (!anyMemberFunction ms) = (memberFunctionAddressesFrom i ms).isEmpty := by
  induction ms generalizing i with
  | nil => rfl
  | cons m ms ih =>
    rw [List.forall_mem_cons] at h
    rw [anyMemberFunction, memberFunctionAddressesFrom, Bool.not_or, isEmpty_append, isEmpty_inPart,
      h.1, ih h.2]

/-- There is a function in an expression if one has an address. -/
lemma not_hasFunction_eq (e : Expr) : (!e.hasFunction) = e.functionAddresses.isEmpty := by
  induction e using inductionOn with
  | literal | «variable» | lambda => rfl
  | unary op e ih => rw [hasFunction, functionAddresses, isEmpty_inPart, ih]
  | binary op a b iha ihb => simp [hasFunction, functionAddresses, isEmpty_append, iha, ihb]
  | group es ih => rw [hasFunction, functionAddresses, not_anyFunction_eq ih 0]
  | assign x e ih => rw [hasFunction, functionAddresses, isEmpty_inPart, ih]
  | object ms ih => rw [hasFunction, functionAddresses, not_anyMemberFunction_eq ih 0]
  | array es ih => rw [hasFunction, functionAddresses, not_anyFunction_eq ih 0]
  | member e x ih => rw [hasFunction, functionAddresses, isEmpty_inPart, ih]
  | index e k ihe ihk => simp [hasFunction, functionAddresses, isEmpty_append, ihe, ihk]
  | call e es ihe ihes =>
    simp [hasFunction, functionAddresses, isEmpty_append, ihe, not_anyFunction_eq ihes 1]
  | conditional a b c iha ihb ihc =>
    simp [hasFunction, functionAddresses, isEmpty_append, iha, ihb, ihc, Bool.and_assoc]

/-- The first address is marked, if `first` says so, and no other. -/
def MarksFirst (first : Bool) (addresses : List Address) (mark : Address → Bool) : Prop :=
  ∀ p, mark p = (first && decide (addresses.head? = some p))

/-- The same for the addresses in parts from number `i` on. -/
def MarksFirstFrom (i : Nat) (first : Bool) (addresses : List Address)
    (mark : Address → Bool) : Prop :=
  ∀ j, i ≤ j → ∀ p, mark (j :: p) = (first && decide (addresses.head? = some (j :: p)))

section MarksFirst

variable {i : Nat} {first : Bool} {ps qs : List Address} {mark : Address → Bool}

/-- The first address of part number `i`, as an address of the whole. -/
lemma head?_inPart {p : Address} : (inPart i ps).head? = some (i :: p) ↔ ps.head? = some p := by
  simp [inPart]

/-- An address that is not in the second list is the first of both if it is that of the first. -/
lemma head?_append_of_notMem_right {p : Address} (h : p ∉ qs) :
    (ps ++ qs).head? = some p ↔ ps.head? = some p := by
  have hqs : qs.head? ≠ some p := fun hp => h (List.mem_of_mem_head? hp)
  simp [List.head?_append, Option.or_eq_some_iff, hqs]

/-- An address that is not in the first list is the first of both if the first is empty. -/
lemma head?_append_of_notMem_left {p : Address} (h : p ∉ ps) :
    (ps ++ qs).head? = some p ↔ ps.isEmpty = true ∧ qs.head? = some p := by
  have hps : ps.head? ≠ some p := fun hp => h (List.mem_of_mem_head? hp)
  simp [List.head?_append, Option.or_eq_some_iff, hps]

/-- The marks of the whole are marks of its parts. -/
lemma MarksFirst.marksFirstFrom (h : MarksFirst first ps mark) (i : Nat) :
    MarksFirstFrom i first ps mark :=
  fun j _ p => h (j :: p)

/-- The marks of part number `i`. -/
lemma MarksFirstFrom.head (h : MarksFirstFrom i first (inPart i ps ++ qs) mark)
    (hqs : ∀ q, i :: q ∉ qs) : MarksFirst first ps fun p => mark (i :: p) := by
  intro p
  simp only [h i (Nat.le_refl i) p, head?_append_of_notMem_right (hqs p), head?_inPart]

/-- The marks of part number `i` if it is the last one. -/
lemma MarksFirstFrom.last (h : MarksFirstFrom i first (inPart i ps) mark) :
    MarksFirst first ps fun p => mark (i :: p) := by
  rw [← List.append_nil (inPart i ps)] at h
  exact h.head fun q => List.not_mem_nil

/-- The marks of the parts after part number `i`. -/
lemma MarksFirstFrom.tail (h : MarksFirstFrom i first (inPart i ps ++ qs) mark) :
    MarksFirstFrom (i + 1) (first && ps.isEmpty) qs mark := by
  intro j hj p
  have hne : j ≠ i := by omega
  rw [h j (by omega) p]
  simp only [head?_append_of_notMem_left (cons_notMem_inPart hne p ps), isEmpty_inPart,
    Bool.decide_and, Bool.decide_eq_true, Bool.and_assoc]

/-- The marks of the arguments of a call, which come before what is called. -/
lemma MarksFirst.arguments (h : MarksFirst first (ps ++ inPart 0 qs) mark) :
    MarksFirstFrom 1 first ps mark := by
  intro j hj p
  have hne : j ≠ 0 := by omega
  simp only [h (j :: p), head?_append_of_notMem_right (cons_notMem_inPart hne p qs)]

/-- The marks of what is called. -/
lemma MarksFirst.callee (h : MarksFirst first (ps ++ inPart 0 qs) mark) (hps : ∀ p, 0 :: p ∉ ps) :
    MarksFirst (first && ps.isEmpty) qs fun p => mark (0 :: p) := by
  intro p
  simp only [h (0 :: p), head?_append_of_notMem_left (hps p), head?_inPart, Bool.decide_and,
    Bool.decide_eq_true, Bool.and_assoc]

/-- A function comes before those in its body, so its own mark is the flag and none of theirs is
set. -/
lemma MarksFirst.body (h : MarksFirst first ([] :: inPart 0 ps) mark) :
    mark [] = first ∧ MarksFirst false ps fun p => mark (0 :: p) := by
  refine ⟨?_, fun p => ?_⟩
  · rw [h []]
    simp
  · change mark (0 :: p) = _
    rw [h (0 :: p)]
    simp

end MarksFirst

/-- An address in a part is none in the parts behind it. -/
lemma cons_notMem_functionAddressesFrom (i : Nat) (q : Address) (es : List Expr) :
    i :: q ∉ functionAddressesFrom (i + 1) es := by
  rw [mem_functionAddressesFrom]
  rintro ⟨k, e, p, -, -, h⟩
  have := (List.cons.inj h).1
  omega

section Marked

/-- The expression has the same text with a flag as with marks that the flag stands for. -/
def IsMarked (ctx : Context) (e : Expr) : Prop :=
  ∀ bound first mark, MarksFirst first e.functionAddresses mark →
    e.text ctx bound first = e.markedText ctx bound mark

variable {bound : List String} {first : Bool} {mark : Address → Bool}

/-- The texts of parts. -/
lemma texts_eq_markedTexts {es : List Expr} (h : ∀ e ∈ es, IsMarked ctx e) {i : Nat}
    (hmark : MarksFirstFrom i first (functionAddressesFrom i es) mark) :
    texts ctx bound first es = markedTexts ctx bound mark i es := by
  induction es generalizing i first with
  | nil => rfl
  | cons e es ih =>
    rw [List.forall_mem_cons] at h
    have hhead := h.1 bound first _ (hmark.head fun q => cons_notMem_functionAddressesFrom i q es)
    have htail := ih h.2 hmark.tail
    rw [← not_hasFunction_eq] at htail
    rw [texts, markedTexts, hhead, htail]

/-- The texts of members. -/
lemma memberTexts_eq_markedMemberTexts {ms : List (String × Expr)}
    (h : ∀ m ∈ ms, IsMarked ctx m.2) {i : Nat}
    (hmark : MarksFirstFrom i first (memberFunctionAddressesFrom i ms) mark) :
    memberTexts ctx bound first ms = markedMemberTexts ctx bound mark i ms := by
  induction ms generalizing i first with
  | nil => rfl
  | cons m ms ih =>
    rw [List.forall_mem_cons] at h
    have hlater : ∀ q, i :: q ∉ memberFunctionAddressesFrom (i + 1) ms := by
      intro q
      rw [memberFunctionAddressesFrom_eq]
      exact cons_notMem_functionAddressesFrom i q _
    have hhead := h.1 bound first _ (hmark.head hlater)
    have htail := ih h.2 hmark.tail
    rw [← not_hasFunction_eq] at htail
    rw [memberTexts, markedMemberTexts, hhead, htail]

/-- **The flag marks the first function**: the text with a flag is the text with a mark at the first
function, or with none if the flag says that the outermost function has been met.

**Proof sketch.** Induction over the parts that are rendered.  What the flag says after some parts
is whether they have a function, and the first function of the whole is in the next part only if
they have none. -/
theorem text_eq_markedText (e : Expr) : IsMarked ctx e := by
  induction e using renderInduction with
  | literal v => exact fun _ _ _ _ => rfl
  | «variable» x => exact fun _ _ _ _ => rfl
  | unary op e ih =>
    intro bound first mark h
    rw [text, markedText, ih bound first _ (h.marksFirstFrom 0).last]
  | binary op a b iha ihb =>
    intro bound first mark h
    have hparts : MarksFirstFrom 0 first _ mark := h.marksFirstFrom 0
    have hb := ihb bound _ _ hparts.tail.last
    rw [← not_hasFunction_eq] at hb
    rw [text, markedText, iha bound first _ (hparts.head (by simp [inPart])), hb]
  | group es ih =>
    intro bound first mark h
    rw [text, markedText, texts_eq_markedTexts ih (h.marksFirstFrom 0)]
  | assign x e ih =>
    intro bound first mark h
    rw [text, markedText, ih bound first _ (h.marksFirstFrom 0).last]
  | object ms ih =>
    intro bound first mark h
    rw [text, markedText, memberTexts_eq_markedMemberTexts ih (h.marksFirstFrom 0)]
  | array es ih =>
    intro bound first mark h
    rw [text, markedText, texts_eq_markedTexts ih (h.marksFirstFrom 0)]
  | member e x ih =>
    intro bound first mark h
    rw [text, markedText, ih bound first _ (h.marksFirstFrom 0).last]
  | index e k ihe ihk =>
    intro bound first mark h
    have hparts : MarksFirstFrom 0 first _ mark := h.marksFirstFrom 0
    have hk := ihk bound _ _ hparts.tail.last
    rw [← not_hasFunction_eq] at hk
    rw [text, markedText, ihe bound first _ (hparts.head (by simp [inPart])), hk]
  | lambda ps e ih =>
    intro bound first mark h
    obtain ⟨hself, hbody⟩ := h.body
    rw [text, markedText, hself, ih _ false _ hbody, ih _ false _ hbody]
  | method e x es ihe ihes =>
    intro bound first mark h
    have hcallee := h.callee fun p => cons_notMem_functionAddressesFrom 0 p es
    have howner := ihe bound _ _ (hcallee.marksFirstFrom 0).last
    rw [← not_anyFunction_eq (fun e _ => not_hasFunction_eq e)] at howner
    rw [text, markedText, texts_eq_markedTexts ihes h.arguments, howner]
  | function x es ih =>
    intro bound first mark h
    rw [text, markedText, texts_eq_markedTexts ih h.arguments]
  | invalid e es hmember hvariable =>
    intro bound first mark h
    rw [text_invalid hmember hvariable, markedText_invalid hmember hvariable]
  | conditional a b c iha ihb ihc =>
    intro bound first mark h
    have hparts : MarksFirstFrom 0 first _ mark := h.marksFirstFrom 0
    have hb := ihb bound _ _ (hparts.tail.head (by simp [inPart]))
    have hc := ihc bound _ _ hparts.tail.tail.last
    rw [← not_hasFunction_eq] at hb
    rw [← not_hasFunction_eq, ← not_hasFunction_eq] at hc
    rw [text, markedText, iha bound first _ (hparts.head (by simp [inPart])), hb, hc]

end Marked

/-! ## Clauses -/

/-- The mark at the function that rendering meets first. -/
def firstMark (e : Expr) (p : Address) : Bool := decide (e.functionAddresses.head? = some p)

/-- The clause of an expression is its text with the first function marked. -/
lemma clauseWithin_eq (bound : List String) (e : Expr) :
    e.clauseWithin ctx bound = String.ofList <$> e.markedText ctx bound e.firstMark := by
  have hmark : MarksFirst true e.functionAddresses e.firstMark := fun p => (Bool.true_and _).symm
  rw [clauseWithin, render_run, ← text_eq_markedText e bound true _ hmark]
  cases e.text ctx bound true with
  | error err => rfl
  | ok t => rfl

/-- The clause of a function is the text of its body, with its parameters as nothing and without any
mark. -/
lemma clauseWithin_lambda (bound ps : List String) (e : Expr) :
    (lambda ps e).clauseWithin ctx bound =
      String.ofList <$> e.markedText ctx (bound ++ ps) fun _ => false := by
  have hself : (lambda ps e).firstMark [] = true := by simp [firstMark, functionAddresses]
  have hbody : (fun p => (lambda ps e).firstMark (0 :: p)) = fun _ => false := by
    funext p
    simp [firstMark, functionAddresses]
  rw [clauseWithin_eq, markedText, hself, if_pos rfl, hbody]

end LambdaQuery.Expr
