import LambdaQuery.Proofs.Clause.Outermost
import LambdaQuery.Proofs.Outcome

/-!
# Renderings of one expression side by side

An expression is rendered with two lots of captured variables.  The two texts are related if the
texts of the variables that are looked up are, for every relation that passes from pieces to the
text they make up and that no test on a rendered text can tell from equality.

## Main definitions

* `LambdaQuery.Expr.freeNames` — the names that occur free in an expression.
* `LambdaQuery.Expr.rangeNames` — the parameters that functions other than the outermost one use.
* `LambdaQuery.IsLookedUp` — a name is looked up among the captured variables.
* `LambdaQuery.IsTextRelation` — a relation that rendering respects.

## Main results

* `LambdaQuery.Expr.text_related` — the texts of an expression are related if those of the variables
  in it are.
-/

set_option autoImplicit false

namespace LambdaQuery

open Clause LambdaQuery.Expr

/-! ## Names that are looked up -/

namespace Expr

mutual

/-- The names that occur free in an expression.  A name that is called does not count, because a
call is written with the name itself. -/
def freeNames : Expr → List String
  | .literal _ => []
  | .variable x => [x]
  | .unary _ e => e.freeNames
  | .binary _ a b => a.freeNames ++ b.freeNames
  | .group es => freeNamesOfAll es
  | .assign _ e => e.freeNames
  | .object ms => freeNamesOfMembers ms
  | .array es => freeNamesOfAll es
  | .member e _ => e.freeNames
  | .index e k => e.freeNames ++ k.freeNames
  | .lambda ps e => e.freeNames.filter (· ∉ ps)
  | .call (.variable _) es => freeNamesOfAll es
  | .call e es => freeNamesOfAll es ++ e.freeNames
  | .conditional a b c => a.freeNames ++ b.freeNames ++ c.freeNames

/-- The names that occur free in expressions. -/
def freeNamesOfAll : List Expr → List String
  | [] => []
  | e :: es => e.freeNames ++ freeNamesOfAll es

/-- The names that occur free in members. -/
def freeNamesOfMembers : List (String × Expr) → List String
  | [] => []
  | (_, e) :: ms => e.freeNames ++ freeNamesOfMembers ms

end

mutual

/-- The range variables in an expression: the parameters that occur free in the body of their
function, for all functions but the outermost one.  `first` says whether the first function in the
expression is the outermost one. -/
def rangeNames (first : Bool) : Expr → List String
  | .literal _ => []
  | .variable _ => []
  | .unary _ e => e.rangeNames first
  | .binary _ a b => a.rangeNames first ++ b.rangeNames (first && !a.hasFunction)
  | .group es => rangeNamesOfAll first es
  | .assign _ e => e.rangeNames first
  | .object ms => rangeNamesOfMembers first ms
  | .array es => rangeNamesOfAll first es
  | .member e _ => e.rangeNames first
  | .index e k => e.rangeNames first ++ k.rangeNames (first && !e.hasFunction)
  | .lambda ps e =>
    if first then e.rangeNames false
    else e.freeNames.filter (· ∈ ps) ++ e.rangeNames false
  | .call e es => rangeNamesOfAll first es ++ e.rangeNames (first && !anyFunction es)
  | .conditional a b c =>
    a.rangeNames first ++ b.rangeNames (first && !a.hasFunction) ++
      c.rangeNames (first && !a.hasFunction && !b.hasFunction)

/-- The range variables in expressions. -/
def rangeNamesOfAll (first : Bool) : List Expr → List String
  | [] => []
  | e :: es => e.rangeNames first ++ rangeNamesOfAll (first && !e.hasFunction) es

/-- The range variables in members. -/
def rangeNamesOfMembers (first : Bool) : List (String × Expr) → List String
  | [] => []
  | (_, e) :: ms => e.rangeNames first ++ rangeNamesOfMembers (first && !e.hasFunction) ms

end

end Expr

/-- Where `free` are the free names and `range` the range variables, the name is looked up: as a
free name that is no parameter in `bound`, or as a range variable. -/
def IsLookedUp (free range bound : List String) (x : String) : Prop :=
  x ∈ free ∧ x ∉ bound ∨ x ∈ range

section LookedUp

variable {free range free' range' bound ps : List String} {x : String} {e : Expr}

/-- What is looked up in two parts is looked up in one of them. -/
lemma isLookedUp_append :
    IsLookedUp (free ++ free') (range ++ range') bound x ↔
      IsLookedUp free range bound x ∨ IsLookedUp free' range' bound x := by
  simp only [IsLookedUp, List.mem_append]
  tauto

/-- What is looked up in the outermost function is looked up in its body. -/
lemma isLookedUp_outermost :
    IsLookedUp (lambda ps e).freeNames ((lambda ps e).rangeNames true) bound x ↔
      IsLookedUp e.freeNames (e.rangeNames false) (bound ++ ps) x := by
  simp [IsLookedUp, freeNames, rangeNames, and_assoc, and_comm]

/-- What is looked up in another function is looked up in its body: there its own parameters are no
parameters of the outermost function. -/
lemma isLookedUp_nested :
    IsLookedUp (lambda ps e).freeNames ((lambda ps e).rangeNames false) bound x ↔
      IsLookedUp e.freeNames (e.rangeNames false) (bound.filter (· ∉ ps)) x := by
  by_cases hx : x ∈ ps <;> simp [IsLookedUp, freeNames, rangeNames, hx]

/-- What holds of all names that are looked up in two parts holds of those in each. -/
lemma forall_isLookedUp_append {Q : String → Prop} :
    (∀ x, IsLookedUp (free ++ free') (range ++ range') bound x → Q x) ↔
      (∀ x, IsLookedUp free range bound x → Q x) ∧
        ∀ x, IsLookedUp free' range' bound x → Q x := by
  simp only [isLookedUp_append, or_imp, forall_and]

end LookedUp

/-- What is written for a name that is looked up: its value, or the name itself. -/
def Scopes.textOf (scopes : Scopes) (x : String) : List Char :=
  match scopes.lookup x with
  | some v => v.literal
  | none => x.toList

/-! ## Relations that rendering respects -/

/-- The relation passes from pieces to the text they make up, and related texts are alike in what
rendering asks about a text. -/
structure IsTextRelation (R : List Char → List Char → Prop) : Prop where
  /-- A text is related to itself. -/
  refl : ∀ s, R s s
  /-- Texts of related pieces are related. -/
  append : ∀ {s s' t t'}, R s s' → R t t' → R (s ++ t) (s' ++ t')
  /-- Related texts are empty together. -/
  isEmpty : ∀ {s s'}, R s s' → s.isEmpty = s'.isEmpty
  /-- Related texts are together the owner whose functions are called without it. -/
  math : ∀ {s s'}, R s s' → (s = Vocabulary.mathOwner.toList ↔ s' = Vocabulary.mathOwner.toList)

namespace IsTextRelation

variable {R : List Char → List Char → Prop} (hR : IsTextRelation R) {s s' t t' : List Char}
  {ts ts' us us' : List (List Char)}

include hR

/-- The same character may stand before related texts. -/
lemma cons (c : Char) (h : R s s') : R (c :: s) (c :: s') := hR.append (hR.refl [c]) h

/-- Related texts with commas between them. -/
lemma commaList (h : List.Forall₂ R ts ts') : R (Expr.commaList ts) (Expr.commaList ts') := by
  induction h with
  | nil => exact hR.refl _
  | @cons t t' ts ts' ht hts ih =>
    cases hts with
    | nil => simpa using ht
    | cons _ _ =>
      rw [commaList_cons_cons, commaList_cons_cons]
      exact hR.append ht (hR.cons ',' (hR.cons ' ' ih))

/-- A path step from related owners. -/
lemma pathText (h : R s s') (ht : R t t') : R (Clause.pathText s t) (Clause.pathText s' t') := by
  unfold Clause.pathText
  rw [hR.isEmpty h]
  split_ifs
  · exact ht
  · exact hR.append h (hR.cons '/' ht)

/-- A member of related owners. -/
lemma accessText (h : R s s') (scopes scopes' : Scopes) (pascalize : Bool) (x : String) :
    R (Clause.accessText ⟨scopes, pascalize⟩ s x)
      (Clause.accessText ⟨scopes', pascalize⟩ s' x) := by
  unfold Clause.accessText
  split_ifs
  · exact hR.append (hR.append (hR.refl _) h) (hR.refl _)
  · exact hR.pathText h (hR.refl _)

/-- A call with related arguments. -/
lemma callText (f : List Char) (h : List.Forall₂ R ts ts') :
    R (Clause.callText f ts) (Clause.callText f ts') :=
  hR.append (hR.append (hR.refl f) (hR.cons '(' (hR.commaList h))) (hR.refl _)

/-- Related owners as arguments. -/
lemma ownerArgument (h : R s s') :
    List.Forall₂ R (Clause.ownerArgument s) (Clause.ownerArgument s') := by
  unfold Clause.ownerArgument
  rw [hR.isEmpty h]
  split_ifs
  · exact .nil
  · exact .cons h .nil

/-- A call of a method of related owners with related arguments. -/
lemma methodText (h : R s s') (x : String) (hts : List.Forall₂ R ts ts') :
    R (Clause.methodText s x ts) (Clause.methodText s' x ts') := by
  have howner := hR.ownerArgument h
  unfold Clause.methodText
  simp only [hR.math h]
  split_ifs
  · exact hR.callText _ hts
  · exact hR.callText _ (List.rel_append hts howner)
  · exact hR.pathText h (hR.callText _ hts)
  · exact hR.callText _ (List.rel_append howner hts)

end IsTextRelation

/-! ## Related texts -/

namespace Expr

variable {R : List Char → List Char → Prop} {scopes scopes' : Scopes} {pascalize : Bool}

/-- The expression has related texts wherever the names that are looked up in it have. -/
def HasRelatedTexts (R : List Char → List Char → Prop) (scopes scopes' : Scopes) (pascalize : Bool)
    (e : Expr) : Prop :=
  ∀ bound first,
    (∀ x, IsLookedUp e.freeNames (e.rangeNames first) bound x →
      R (scopes.textOf x) (scopes'.textOf x)) →
    EndAlike R (e.text ⟨scopes, pascalize⟩ bound first) (e.text ⟨scopes', pascalize⟩ bound first)

section Lists

variable (hR : IsTextRelation R)

/-- Expressions with related texts have related lists of texts. -/
lemma texts_related {es : List Expr}
    (h : ∀ e ∈ es, e.HasRelatedTexts R scopes scopes' pascalize) (bound : List String)
    (first : Bool)
    (hnames : ∀ x, IsLookedUp (freeNamesOfAll es) (rangeNamesOfAll first es) bound x →
      R (scopes.textOf x) (scopes'.textOf x)) :
    EndAlike (List.Forall₂ R) (texts ⟨scopes, pascalize⟩ bound first es)
      (texts ⟨scopes', pascalize⟩ bound first es) := by
  induction es generalizing first with
  | nil => exact .ok .nil
  | cons e es ih =>
    obtain ⟨hhead, htail⟩ := forall_isLookedUp_append.1 hnames
    refine (h e (by simp) bound first hhead).bind fun t t' ht => ?_
    refine (ih (fun e' he' => h e' (by simp [he'])) _ htail).bind fun ts ts' hts => ?_
    exact .ok (.cons ht hts)

include hR in
/-- Members with related texts have related lists of texts. -/
lemma memberTexts_related {ms : List (String × Expr)}
    (h : ∀ m ∈ ms, m.2.HasRelatedTexts R scopes scopes' pascalize) (bound : List String)
    (first : Bool)
    (hnames : ∀ x, IsLookedUp (freeNamesOfMembers ms) (rangeNamesOfMembers first ms) bound x →
      R (scopes.textOf x) (scopes'.textOf x)) :
    EndAlike (List.Forall₂ R) (memberTexts ⟨scopes, pascalize⟩ bound first ms)
      (memberTexts ⟨scopes', pascalize⟩ bound first ms) := by
  induction ms generalizing first with
  | nil => exact .ok .nil
  | cons m ms ih =>
    obtain ⟨hhead, htail⟩ := forall_isLookedUp_append.1 hnames
    refine (h m (by simp) bound first hhead).bind fun t t' ht => ?_
    refine (ih (fun m' hm' => h m' (by simp [hm'])) _ htail).bind fun ts ts' hts => ?_
    exact .ok (.cons (hR.append (hR.refl _) ht) hts)

end Lists

/-- **Related texts**: if what is written for the names that are looked up is related, then so are
the texts of the expression, or both renderings end with the same error.

**Proof sketch.** Induction over the parts that are rendered.  The relation passes through every
form of expression, and where rendering asks whether an owner is empty or is the owner of the
functions that stand alone, related texts give the same answer. -/
theorem text_related (hR : IsTextRelation R) (e : Expr) :
    e.HasRelatedTexts R scopes scopes' pascalize := by
  induction e using renderInduction with
  | literal v => exact fun _ _ _ => .ok (hR.refl _)
  | «variable» x =>
    intro bound first hnames
    refine .ok ?_
    simp only [variableText]
    split_ifs with hx
    · exact hR.refl _
    · exact hnames x (.inl ⟨by simp [freeNames], hx⟩)
  | unary op e ih =>
    intro bound first hnames
    exact (ih bound first hnames).bind fun t t' ht => .ok (hR.append (hR.refl _) ht)
  | binary op a b iha ihb =>
    intro bound first hnames
    obtain ⟨ha, hb⟩ := forall_isLookedUp_append.1 hnames
    refine (iha bound first ha).bind fun s s' hs => (ihb bound _ hb).bind fun t t' ht => .ok ?_
    exact hR.append (hR.append hs (hR.refl _)) (hR.cons ' ' ht)
  | group es ih =>
    intro bound first hnames
    refine (texts_related ih bound first hnames).bind fun ts ts' hts => .ok ?_
    exact hR.append (hR.cons '(' (hR.commaList hts)) (hR.refl _)
  | assign x e ih => exact ih
  | object ms ih =>
    intro bound first hnames
    exact (memberTexts_related hR ih bound first hnames).bind fun ts ts' hts =>
      .ok (hR.commaList hts)
  | array es ih =>
    intro bound first hnames
    refine (texts_related ih bound first hnames).bind fun ts ts' hts => .ok ?_
    exact hR.append (hR.cons '[' (hR.commaList hts)) (hR.refl _)
  | member e x ih =>
    intro bound first hnames
    exact (ih bound first hnames).bind fun t t' ht => .ok (hR.accessText ht _ _ _ x)
  | index e k ihe ihk =>
    intro bound first hnames
    obtain ⟨he, hk⟩ := forall_isLookedUp_append.1 hnames
    refine (ihe bound first he).bind fun s s' hs => (ihk bound _ hk).bind fun t t' ht => .ok ?_
    exact hR.append (hR.append hs (hR.cons '[' ht)) (hR.refl _)
  | lambda ps e ih =>
    intro bound first hnames
    cases first with
    | true => exact ih _ false fun x hx => hnames x (isLookedUp_outermost.2 hx)
    | false =>
      refine (ih _ false fun x hx => hnames x (isLookedUp_nested.2 hx)).bind fun t t' ht => .ok ?_
      exact hR.append (hR.refl _) (hR.cons ':' (hR.cons ' ' ht))
  | method e x es ihe ihes =>
    intro bound first hnames
    obtain ⟨hes, he⟩ := forall_isLookedUp_append.1 hnames
    refine (texts_related ihes bound first hes).bind fun ts ts' hts => ?_
    exact (ihe bound _ he).bind fun t t' ht => .ok (hR.methodText ht x hts)
  | function x es ih =>
    intro bound first hnames
    have hes : ∀ y, IsLookedUp (freeNamesOfAll es) (rangeNamesOfAll first es) bound y →
        R (scopes.textOf y) (scopes'.textOf y) := by
      simpa [freeNames, rangeNames] using hnames
    exact (texts_related ih bound first hes).bind fun ts ts' hts => .ok (hR.callText _ hts)
  | invalid e es hmember hvariable =>
    intro bound first _
    rw [text_invalid hmember hvariable, text_invalid hmember hvariable]
    exact .error _
  | conditional a b c iha ihb ihc =>
    intro bound first hnames
    obtain ⟨hab, hc⟩ := forall_isLookedUp_append.1 hnames
    obtain ⟨ha, hb⟩ := forall_isLookedUp_append.1 hab
    refine (iha bound first ha).bind fun s s' hs => (ihb bound _ hb).bind fun t t' ht => ?_
    refine (ihc bound _ hc).bind fun u u' hu => .ok ?_
    have htest := hR.append hs (hR.cons ' ' (hR.cons '?' (hR.cons ' ' ht)))
    exact hR.append htest (hR.cons ' ' (hR.cons ':' (hR.cons ' ' hu)))

end Expr

end LambdaQuery
