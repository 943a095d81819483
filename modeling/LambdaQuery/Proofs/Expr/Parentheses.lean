import Mathlib
import LambdaQuery.Expr.Printer

/-!
# Parentheses of a written expression

Writing puts some operands in parentheses, and parentheses are read as groups.  So what is read
back from a written expression is the expression with a group of one around each of these operands.
Apart from groups of one it is the same expression, and it is written in the same way.

## Main definitions

* `LambdaQuery.Expr.parenthesized` — the expression with a group at each operand that is written in
  parentheses.
* `LambdaQuery.Expr.eraseGroups` — the expression without its groups of one.

## Main results

* `LambdaQuery.Expr.inductionOn` — induction over an expression and the lists in it.
* `LambdaQuery.Expr.source_parenthesized` — the groups are written like the parentheses.
* `LambdaQuery.Expr.eraseGroups_parenthesized` — the groups are all that is added.
-/

set_option autoImplicit false

namespace LambdaQuery.Expr

/-! ## Induction -/

/-- **Induction over expressions**: a property holds of every expression if it passes from the
expressions in it, those in lists included, to each form of expression. -/
@[elab_as_elim]
theorem inductionOn {P : Expr → Prop} (e : Expr)
    (literal : ∀ v, P (.literal v)) («variable» : ∀ x, P (.variable x))
    (unary : ∀ op e, P e → P (.unary op e))
    (binary : ∀ op a b, P a → P b → P (.binary op a b))
    (group : ∀ es, (∀ e ∈ es, P e) → P (.group es))
    (assign : ∀ x e, P e → P (.assign x e))
    (object : ∀ ms : List (String × Expr), (∀ m ∈ ms, P m.2) → P (.object ms))
    (array : ∀ es, (∀ e ∈ es, P e) → P (.array es))
    (member : ∀ e x, P e → P (.member e x))
    (index : ∀ e k, P e → P k → P (.index e k))
    (lambda : ∀ ps e, P e → P (.lambda ps e))
    (call : ∀ e es, P e → (∀ e ∈ es, P e) → P (.call e es))
    (conditional : ∀ a b c, P a → P b → P c → P (.conditional a b c)) : P e :=
  @Expr.rec P (fun es => ∀ e ∈ es, P e) (fun ms => ∀ m ∈ ms, P m.2) (fun m => P m.2)
    literal «variable» unary binary group assign object array member index lambda call conditional
    (fun _ h => absurd h List.not_mem_nil)
    (fun _ _ hhead htail _ h => by
      rcases List.mem_cons.1 h with rfl | h
      · exact hhead
      · exact htail _ h)
    (fun _ h => absurd h List.not_mem_nil)
    (fun _ _ hhead htail _ h => by
      rcases List.mem_cons.1 h with rfl | h
      · exact hhead
      · exact htail _ h)
    (fun _ _ h => h) e

/-- The texts of expressions, one by one. -/
lemma sources_eq_map (es : List Expr) : sources es = es.map source := by
  induction es with
  | nil => rfl
  | cons e es ih => simp [sources, ih]

/-- The text of a member of an object. -/
def memberSource (m : String × Expr) : List Char := memberName m.1 ++ ':' :: ' ' :: m.2.source

/-- The texts of members, one by one. -/
lemma memberSources_eq_map (ms : List (String × Expr)) :
    memberSources ms = ms.map memberSource := by
  induction ms with
  | nil => rfl
  | cons m ms ih => simp [memberSources, memberSource, ih]

/-- A written list of one. -/
@[simp] lemma commaList_singleton (s : List Char) : commaList [s] = s := by
  simp [commaList]

/-- A written list of more than one. -/
lemma commaList_cons_cons (s t : List Char) (ts : List (List Char)) :
    commaList (s :: t :: ts) = s ++ ',' :: ' ' :: commaList (t :: ts) := by
  simp [commaList, List.intercalate]

/-! ## The groups that are read -/

/-- The expression, as a group of one if needed. -/
def grouped (needed : Bool) (e : Expr) : Expr := if needed then .group [e] else e

mutual

/-- The expression with a group of one at each operand that is written in parentheses. -/
def parenthesized : Expr → Expr
  | .literal v => .literal v
  | .variable x => .variable x
  | .unary op e => .unary op (grouped e.isOpenOperand e.parenthesized)
  | .binary op a b =>
    .binary op (grouped (a.isOpenLeft (Operator.precedence op)) a.parenthesized)
      (grouped (b.isOpenRight (Operator.precedence op)) b.parenthesized)
  | .group es => .group (parenthesizedAll es)
  | .assign x e => .assign x e.parenthesized
  | .object ms => .object (parenthesizedMembers ms)
  | .array es => .array (parenthesizedAll es)
  | .member e x => .member (grouped e.isOpenReceiver e.parenthesized) x
  | .index e k => .index (grouped e.isOpenReceiver e.parenthesized) k.parenthesized
  | .lambda ps e => .lambda ps e.parenthesized
  | .call e es => .call (grouped e.isOpenReceiver e.parenthesized) (parenthesizedAll es)
  | .conditional a b c =>
    .conditional (grouped a.isOpenTest a.parenthesized) b.parenthesized c.parenthesized

/-- The expressions with their groups. -/
def parenthesizedAll : List Expr → List Expr
  | [] => []
  | e :: es => e.parenthesized :: parenthesizedAll es

/-- The members with their groups. -/
def parenthesizedMembers : List (String × Expr) → List (String × Expr)
  | [] => []
  | (x, e) :: ms => (x, e.parenthesized) :: parenthesizedMembers ms

end

/-- The expressions with their groups, one by one. -/
lemma parenthesizedAll_eq_map (es : List Expr) : parenthesizedAll es = es.map parenthesized := by
  induction es with
  | nil => rfl
  | cons e es ih => simp [parenthesizedAll, ih]

/-- The members with their groups, one by one. -/
lemma parenthesizedMembers_eq_map (ms : List (String × Expr)) :
    parenthesizedMembers ms = ms.map fun m => (m.1, m.2.parenthesized) := by
  induction ms with
  | nil => rfl
  | cons m ms ih => simp [parenthesizedMembers, ih]

/-! ## The groups are written like the parentheses -/

/-- A written expression with its groups needs parentheses where the expression does. -/
lemma isOpen_parenthesized (e : Expr) :
    e.parenthesized.isOpenOperand = e.isOpenOperand ∧
    e.parenthesized.isOpenReceiver = e.isOpenReceiver ∧
    e.parenthesized.isOpenTest = e.isOpenTest ∧
    (∀ n, e.parenthesized.isOpenLeft n = e.isOpenLeft n) ∧
    ∀ n, e.parenthesized.isOpenRight n = e.isOpenRight n := by
  cases e <;> exact ⟨rfl, rfl, rfl, fun _ => rfl, fun _ => rfl⟩

/-- A group of one is written like parentheses around its expression. -/
lemma source_group_singleton (e : Expr) : (group [e]).source = '(' :: e.source ++ [')'] := by
  simp [source, sources, commaList]

/-- Whatever decides on the parentheses of an operand: if it asks for none around a group, the
operand with its group is written as the operand was. -/
lemma enclosed_grouped (isOpen : Expr → Bool) (hgroup : ∀ es, isOpen (.group es) = false)
    {e : Expr} (hopen : isOpen e.parenthesized = isOpen e)
    (hsource : e.parenthesized.source = e.source) :
    enclosed (isOpen (grouped (isOpen e) e.parenthesized))
        (grouped (isOpen e) e.parenthesized).source =
      enclosed (isOpen e) e.source := by
  cases h : isOpen e with
  | false =>
    rw [h] at hopen
    simp only [grouped, Bool.false_eq_true, if_false, hopen, hsource]
  | true => simp [grouped, enclosed, hgroup, source_group_singleton, hsource]

/-- **The groups are written like the parentheses**: the expression with its groups has the same
text.

**Proof sketch.** Induction over the expression.  An operand that is written in parentheses has
become a group, which is written with parentheses and needs no others. -/
theorem source_parenthesized (e : Expr) : e.parenthesized.source = e.source := by
  have hall : ∀ es : List Expr, (∀ e ∈ es, e.parenthesized.source = e.source) →
      sources (parenthesizedAll es) = sources es := by
    intro es hes
    rw [parenthesizedAll_eq_map, sources_eq_map, sources_eq_map, List.map_map]
    exact List.map_congr_left hes
  have hreceiver : ∀ e : Expr, e.parenthesized.source = e.source →
      enclosed (grouped e.isOpenReceiver e.parenthesized).isOpenReceiver
        (grouped e.isOpenReceiver e.parenthesized).source = enclosed e.isOpenReceiver e.source :=
    fun e he => enclosed_grouped isOpenReceiver (fun _ => rfl) (isOpen_parenthesized e).2.1 he
  induction e using inductionOn with
  | literal v => rfl
  | «variable» x => rfl
  | unary op e ih =>
    simp only [parenthesized, source]
    rw [enclosed_grouped isOpenOperand (fun _ => rfl) (isOpen_parenthesized e).1 ih]
  | binary op a b iha ihb =>
    simp only [parenthesized, source]
    rw [enclosed_grouped (isOpenLeft (Operator.precedence op)) (fun _ => rfl)
        ((isOpen_parenthesized a).2.2.2.1 _) iha,
      enclosed_grouped (isOpenRight (Operator.precedence op)) (fun _ => rfl)
        ((isOpen_parenthesized b).2.2.2.2 _) ihb]
  | group es ih => simp only [parenthesized, source, hall es ih]
  | assign x e ih => simp only [parenthesized, source, ih]
  | object ms ih =>
    have hmembers : memberSources (parenthesizedMembers ms) = memberSources ms := by
      rw [parenthesizedMembers_eq_map, memberSources_eq_map, memberSources_eq_map, List.map_map]
      refine List.map_congr_left fun m hm => ?_
      simp [memberSource, ih m hm]
    cases ms with
    | nil => rfl
    | cons m ms =>
      simp only [parenthesized, parenthesizedMembers] at hmembers ⊢
      simp only [source, hmembers]
  | array es ih => simp only [parenthesized, source, hall es ih]
  | member e x ih => simp only [parenthesized, source, hreceiver e ih]
  | index e k ihe ihk => simp only [parenthesized, source, hreceiver e ihe, ihk]
  | lambda ps e ih => simp only [parenthesized, source, ih]
  | call e es ihe ihes => simp only [parenthesized, source, hreceiver e ihe, hall es ihes]
  | conditional a b c iha ihb ihc =>
    simp only [parenthesized, source, ihb, ihc]
    rw [enclosed_grouped isOpenTest (fun _ => rfl) (isOpen_parenthesized a).2.2.1 iha]

/-! ## The groups are all that is added -/

/-- A group of the expressions, unless it would be a group of one. -/
def ungrouped : List Expr → Expr
  | [e] => e
  | es => .group es

mutual

/-- The expression without its groups of one. -/
def eraseGroups : Expr → Expr
  | .literal v => .literal v
  | .variable x => .variable x
  | .unary op e => .unary op e.eraseGroups
  | .binary op a b => .binary op a.eraseGroups b.eraseGroups
  | .group es => ungrouped (eraseGroupsAll es)
  | .assign x e => .assign x e.eraseGroups
  | .object ms => .object (eraseGroupsMembers ms)
  | .array es => .array (eraseGroupsAll es)
  | .member e x => .member e.eraseGroups x
  | .index e k => .index e.eraseGroups k.eraseGroups
  | .lambda ps e => .lambda ps e.eraseGroups
  | .call e es => .call e.eraseGroups (eraseGroupsAll es)
  | .conditional a b c => .conditional a.eraseGroups b.eraseGroups c.eraseGroups

/-- The expressions without their groups of one. -/
def eraseGroupsAll : List Expr → List Expr
  | [] => []
  | e :: es => e.eraseGroups :: eraseGroupsAll es

/-- The members without their groups of one. -/
def eraseGroupsMembers : List (String × Expr) → List (String × Expr)
  | [] => []
  | (x, e) :: ms => (x, e.eraseGroups) :: eraseGroupsMembers ms

end

/-- The expressions without their groups of one, one by one. -/
lemma eraseGroupsAll_eq_map (es : List Expr) : eraseGroupsAll es = es.map eraseGroups := by
  induction es with
  | nil => rfl
  | cons e es ih => simp [eraseGroupsAll, ih]

/-- The members without their groups of one, one by one. -/
lemma eraseGroupsMembers_eq_map (ms : List (String × Expr)) :
    eraseGroupsMembers ms = ms.map fun m => (m.1, m.2.eraseGroups) := by
  induction ms with
  | nil => rfl
  | cons m ms ih => simp [eraseGroupsMembers, ih]

/-- A group of one is erased. -/
@[simp] lemma eraseGroups_grouped (needed : Bool) (e : Expr) :
    (grouped needed e).eraseGroups = e.eraseGroups := by
  cases needed with
  | false => rfl
  | true => rfl

/-- **The groups are all that is added**: without groups of one, the expression with its groups is
the expression. -/
theorem eraseGroups_parenthesized (e : Expr) : e.parenthesized.eraseGroups = e.eraseGroups := by
  have hall : ∀ es : List Expr, (∀ e ∈ es, e.parenthesized.eraseGroups = e.eraseGroups) →
      eraseGroupsAll (parenthesizedAll es) = eraseGroupsAll es := by
    intro es hes
    rw [parenthesizedAll_eq_map, eraseGroupsAll_eq_map, eraseGroupsAll_eq_map, List.map_map]
    exact List.map_congr_left hes
  induction e using inductionOn with
  | literal v => rfl
  | «variable» x => rfl
  | unary op e ih => simp only [parenthesized, eraseGroups, eraseGroups_grouped, ih]
  | binary op a b iha ihb => simp only [parenthesized, eraseGroups, eraseGroups_grouped, iha, ihb]
  | group es ih => simp only [parenthesized, eraseGroups, hall es ih]
  | assign x e ih => simp only [parenthesized, eraseGroups, ih]
  | object ms ih =>
    simp only [parenthesized, eraseGroups, parenthesizedMembers_eq_map, eraseGroupsMembers_eq_map,
      List.map_map, Expr.object.injEq]
    refine List.map_congr_left fun m hm => ?_
    simp [ih m hm]
  | array es ih => simp only [parenthesized, eraseGroups, hall es ih]
  | member e x ih => simp only [parenthesized, eraseGroups, eraseGroups_grouped, ih]
  | index e k ihe ihk => simp only [parenthesized, eraseGroups, eraseGroups_grouped, ihe, ihk]
  | lambda ps e ih => simp only [parenthesized, eraseGroups, ih]
  | call e es ihe ihes =>
    simp only [parenthesized, eraseGroups, eraseGroups_grouped, ihe, hall es ihes]
  | conditional a b c iha ihb ihc =>
    simp only [parenthesized, eraseGroups, eraseGroups_grouped, iha, ihb, ihc]

end LambdaQuery.Expr
