import LambdaQuery.Command.Run
import LambdaQuery.Proofs.Binary64.Rounding
import LambdaQuery.Proofs.Expr.Parts
import LambdaQuery.Proofs.Expr.Written
import LambdaQuery.Proofs.Grammar.Recognition

/-!
# Canonical expressions

An expression that was read from a text has a form of its own: its names, operators and literals are
those of the language, and no operand needs parentheses, because the grammar puts every operand
where it belongs.  This can be told from each part of the expression and the parts right below it:
an operator has no looser one below it, and behind a sign, before an access and as a test there
stands only what binds more tightly.

## Main definitions

* `LambdaQuery.Value.isUnsigned` — the values that literals of a source text can have.
* `LambdaQuery.Expr.Canonical` — expressions that are written as they were read.
* `LambdaQuery.Expr.Form` — the forms of expressions.
* `LambdaQuery.Expr.IsCanonicalNode` — what is told from an expression and the parts right below it.

## Main results

* `LambdaQuery.Expr.canonical_iff` — when an expression is canonical, from its parts.
* `LambdaQuery.Expr.canonical_iff_forall_part` — the same, said of each part.
* `LambdaQuery.Expr.canonical_of_derives` — an expression that is derived is canonical.
* `LambdaQuery.Expr.isCanonicalNode_of_parse` — the form of the expressions that are read.
-/

set_option autoImplicit false

namespace LambdaQuery

open Grammar Scan

/-- The value is one that a literal of a source text can have: no negative number and no date. -/
def Value.isUnsigned : Value → Bool
  | .null => true
  | .bool _ => true
  | .int n => 0 ≤ n.toInt
  | .float x => !x.isNegative
  | .string _ => true
  | .date _ => false

/-- The negation of a number overflows only if the number is the least one. -/
lemma Value.toInt_neg_of_lt {n : Int64} (h : -2 ^ 63 < n.toInt) : (-n).toInt = -n.toInt := by
  have hlt := n.toInt_lt
  rw [Int64.toInt_neg, Int.bmod_eq_of_le] <;> omega

namespace Expr

/-- The expression is one that the grammar can derive: its names, operators and literals are those
of the language, and no operand needs parentheses. -/
structure Canonical (e : Expr) : Prop where
  /-- The names and the operators are those of the language. -/
  names : e.isWritable = true
  /-- The literals are those of a source text. -/
  literals : ∀ v ∈ e.literals, v.isUnsigned = true
  /-- No operand is written in parentheses. -/
  groups : e.parenthesized = e

/-! ## The form of one node -/

/-- The forms of expressions. -/
inductive Form where
  | literal | variable | unary | binary | group | assign | object | array | member | index | lambda
  | call | conditional
deriving DecidableEq

/-- The form of an expression. -/
def form : Expr → Form
  | .literal _ => .literal
  | .variable _ => .variable
  | .unary _ _ => .unary
  | .binary _ _ _ => .binary
  | .group _ => .group
  | .assign _ _ => .assign
  | .object _ => .object
  | .array _ => .array
  | .member _ _ => .member
  | .index _ _ => .index
  | .lambda _ _ => .lambda
  | .call _ _ => .call
  | .conditional _ _ _ => .conditional

/-- The operator or the names right in the expression are those of the language, and it is no named
expression, which has no place of its own. -/
def HasNames : Expr → Prop
  | .variable x => IsName x ∧ x ∉ ["true", "false", "null", "undefined"]
  | .unary op _ => op ∈ ["!", "-", "+"]
  | .binary op _ _ =>
    op ∈ ["||", "&&", "==", "===", "!=", "!==", "<", "<=", ">", ">=", "+", "-", "*", "/", "%"]
  | .assign _ _ => False
  | .member _ x => IsName x
  | .lambda ps _ => ∀ x ∈ ps, IsName x
  | _ => True

/-- If the expression is a literal, then a number is not negative and fits in its type, and there is
no date. -/
def HasLiteral : Expr → Prop
  | .literal (.int n) => 0 ≤ n.toInt ∧ n.toInt ≤ 2 ^ 63 - 1
  | .literal (.float x) => x.isNegative = false
  | .literal (.date _) => False
  | _ => True

/-- The operands of the expression bind tightly enough for the places where they stand. -/
def HasOperands : Expr → Prop
  | .unary _ e => e.form ∉ [.binary, .conditional, .lambda, .assign]
  | .binary op a b =>
    ((∀ op' l r, a = .binary op' l r → Operator.precedence op ≤ Operator.precedence op') ∧
      a.form ∉ [.conditional, .lambda, .assign]) ∧
    (∀ op' l r, b = .binary op' l r → Operator.precedence op < Operator.precedence op') ∧
      b.form ∉ [.conditional, .lambda, .assign]
  | .member e _ | .index e _ | .call e _ =>
    e.form ∉ [.unary, .binary, .conditional, .lambda, .assign]
  | .conditional a _ _ => a.form ∉ [.conditional, .lambda]
  | _ => True

/-- What can be told of a canonical expression from itself and the parts right below it. -/
structure IsCanonicalNode (e : Expr) : Prop where
  /-- The operator and the names are those of the language. -/
  names : e.HasNames
  /-- A literal is one of a source text. -/
  literal : e.HasLiteral
  /-- The operands bind tightly enough. -/
  operands : e.HasOperands

/-- Which forms need no parentheses as operands. -/
lemma isOpenOperand_eq_false {e : Expr} :
    e.isOpenOperand = false ↔ e.form ∉ [.binary, .conditional, .lambda, .assign] := by
  cases e <;> simp [isOpenOperand, form]

/-- Which forms need no parentheses as receivers. -/
lemma isOpenReceiver_eq_false {e : Expr} :
    e.isOpenReceiver = false ↔ e.form ∉ [.unary, .binary, .conditional, .lambda, .assign] := by
  cases e <;> simp [isOpenReceiver, isOpenOperand, form]

/-- Which forms need no parentheses as tests. -/
lemma isOpenTest_eq_false {e : Expr} :
    e.isOpenTest = false ↔ e.form ∉ [.conditional, .lambda] := by
  cases e <;> simp [isOpenTest, form]

/-- What needs no parentheses to the left of an operator. -/
lemma isOpenLeft_eq_false {e : Expr} {n : Nat} :
    e.isOpenLeft n = false ↔ (∀ op l r, e = .binary op l r → n ≤ Operator.precedence op) ∧
      e.form ∉ [.conditional, .lambda, .assign] := by
  cases e <;> simp [isOpenLeft, isOpenOperand, form]

/-- What needs no parentheses to the right of an operator. -/
lemma isOpenRight_eq_false {e : Expr} {n : Nat} :
    e.isOpenRight n = false ↔ (∀ op l r, e = .binary op l r → n < Operator.precedence op) ∧
      e.form ∉ [.conditional, .lambda, .assign] := by
  cases e <;> simp [isOpenRight, isOpenOperand, form]

/-! ## Canonical node by node -/

/-- The operators of all levels. -/
lemma levels_flatten_perm : Operator.levels.flatten.Perm
    ["||", "&&", "==", "===", "!=", "!==", "<", "<=", ">", ">=", "+", "-", "*", "/", "%"] := by
  decide

/-- When an expression can be written, from its parts. -/
lemma isWritable_iff {e : Expr} :
    e.isWritable = true ↔ e.HasNames ∧ ∀ a ∈ e.parts, a.isWritable = true := by
  cases e with
  | «variable» x => simp [isWritable, HasNames, parts, keywords, IsName]
  | binary op a b =>
    rw [isWritable, Bool.and_eq_true, Bool.and_eq_true, List.contains_iff_mem,
      levels_flatten_perm.mem_iff]
    simp [HasNames, parts, and_assoc]
  | object ms =>
    simp only [isWritable, HasNames, parts, membersWritable_iff, List.forall_mem_map, true_and]
  | member e x => simp [isWritable, HasNames, parts, IsName, and_comm]
  | _ => simp [isWritable, HasNames, parts, IsName, Operator.signs, and_assoc]

/-- The literals of an expression, from its parts. -/
lemma mem_literals_iff {v : Value} {e : Expr} :
    v ∈ e.literals ↔ e = .literal v ∨ ∃ a ∈ e.parts, v ∈ a.literals := by
  cases e with
  | literal w => simp [Expr.literals, parts, eq_comm]
  | object ms =>
    simp only [Expr.literals, mem_literalsOfMembers, parts, reduceCtorEq, false_or, List.mem_map,
      exists_exists_and_eq_and]
  | _ => simp [Expr.literals, parts]

/-- Whatever decides on the parentheses of an operand: if it asks for none around a group, an
operand is left as it is exactly if it needs none and nothing is changed in it. -/
lemma grouped_eq_iff (isOpen : Expr → Bool) (hgroup : ∀ es, isOpen (.group es) = false) {e : Expr} :
    grouped (isOpen e) e.parenthesized = e ↔ isOpen e = false ∧ e.parenthesized = e := by
  cases hopen : isOpen e with
  | false => simp [grouped]
  | true =>
    have hne : grouped true e.parenthesized ≠ e := by
      intro h
      have hclosed := congrArg isOpen h
      simp [hopen, grouped, hgroup] at hclosed
    simp [hne]

/-- When a receiver is left as it is. -/
lemma grouped_receiver_eq_iff {e : Expr} :
    grouped e.isOpenReceiver e.parenthesized = e ↔
      e.form ∉ [.unary, .binary, .conditional, .lambda, .assign] ∧ e.parenthesized = e := by
  rw [grouped_eq_iff isOpenReceiver fun _ => rfl, isOpenReceiver_eq_false]

/-- When an expression is written as it was read, from its parts.

**Proof sketch.** By the form of the expression.  An operand that were put in a group would be
another expression, so each place says of its operand that it needs no group. -/
lemma parenthesized_eq_iff {e : Expr} :
    e.parenthesized = e ↔ e.HasOperands ∧ ∀ a ∈ e.parts, a.parenthesized = a := by
  have hlist : ∀ {α : Type} {f : α → α} {xs : List α}, xs.map f = xs ↔ ∀ x ∈ xs, f x = x := by
    intro α f xs
    conv_lhs => rhs; rw [← List.map_id xs]
    exact List.map_inj_left
  cases e with
  | literal | «variable» => simp [parenthesized, HasOperands, parts]
  | unary op e =>
    simp only [parenthesized, Expr.unary.injEq, true_and, HasOperands, parts,
      grouped_eq_iff isOpenOperand fun _ => rfl, isOpenOperand_eq_false, List.forall_mem_singleton]
  | binary op a b =>
    simp only [parenthesized, Expr.binary.injEq, true_and, HasOperands, parts,
      grouped_eq_iff (isOpenLeft (Operator.precedence op)) fun _ => rfl, isOpenLeft_eq_false,
      grouped_eq_iff (isOpenRight (Operator.precedence op)) fun _ => rfl, isOpenRight_eq_false]
    rw [List.forall_mem_cons, List.forall_mem_singleton]
    exact and_and_and_comm
  | group es | array es =>
    simp [parenthesized, parenthesizedAll_eq_map, HasOperands, parts, hlist]
  | object ms =>
    simp only [parenthesized, parenthesizedMembers_eq_map, Expr.object.injEq, hlist, HasOperands,
      parts, Prod.ext_iff, List.forall_mem_map, true_and]
  | member e x =>
    simp only [parenthesized, Expr.member.injEq, and_true, grouped_receiver_eq_iff, HasOperands,
      parts, List.forall_mem_singleton]
  | index e k =>
    simp only [parenthesized, Expr.index.injEq, grouped_receiver_eq_iff, HasOperands, parts]
    rw [List.forall_mem_cons, List.forall_mem_singleton, and_assoc]
  | call e es =>
    simp only [parenthesized, parenthesizedAll_eq_map, Expr.call.injEq, hlist,
      grouped_receiver_eq_iff, HasOperands, parts, List.forall_mem_cons, and_assoc]
  | conditional a b c =>
    simp only [parenthesized, Expr.conditional.injEq, HasOperands, parts,
      grouped_eq_iff isOpenTest fun _ => rfl, isOpenTest_eq_false]
    rw [List.forall_mem_cons, List.forall_mem_cons, List.forall_mem_singleton, and_assoc]
  | assign x e | lambda ps e => simp [parenthesized, HasOperands, parts]

/-- When a literal is one of a source text. -/
lemma hasLiteral_iff {e : Expr} :
    e.HasLiteral ↔ ∀ v, e = .literal v → v.isUnsigned = true := by
  cases e with
  | literal v =>
    cases v with
    | int n =>
      have hlt := n.toInt_lt
      simp only [HasLiteral, Expr.literal.injEq, forall_eq', Value.isUnsigned, decide_eq_true_eq]
      omega
    | _ => simp [HasLiteral, Value.isUnsigned]
  | _ => simp [HasLiteral]

/-- **When an expression is canonical, from its parts.** -/
lemma canonical_iff {e : Expr} :
    Canonical e ↔ e.IsCanonicalNode ∧ ∀ a ∈ e.parts, Canonical a := by
  -- The names, the literals and the groups are told from the parts one by one.
  constructor
  · rintro ⟨hnames, hliterals, hgroups⟩
    obtain ⟨hname, hnames⟩ := isWritable_iff.1 hnames
    obtain ⟨hoperands, hgroups⟩ := parenthesized_eq_iff.1 hgroups
    refine ⟨⟨hname, ?_, hoperands⟩, fun a ha => ⟨hnames a ha, fun v hv => ?_, hgroups a ha⟩⟩
    · exact hasLiteral_iff.2 fun v hv => hliterals v (mem_literals_iff.2 (.inl hv))
    · exact hliterals v (mem_literals_iff.2 (.inr ⟨a, ha, hv⟩))
  · rintro ⟨⟨hname, hliteral, hoperands⟩, hparts⟩
    refine ⟨isWritable_iff.2 ⟨hname, fun a ha => (hparts a ha).names⟩, fun v hv => ?_,
      parenthesized_eq_iff.2 ⟨hoperands, fun a ha => (hparts a ha).groups⟩⟩
    rcases mem_literals_iff.1 hv with he | ⟨a, ha, hv⟩
    · exact hasLiteral_iff.1 hliteral v he
    · exact (hparts a ha).literals v hv

/-- **When an expression is canonical, from each part in it.** -/
theorem canonical_iff_forall_part {e : Expr} :
    Canonical e ↔ ∀ p a, e.part? p = some a → a.IsCanonicalNode := by
  induction e using partInduction with
  | h e ih => rw [canonical_iff, forall_part?_iff, forall₂_congr ih]

/-! ## The forms of canonical expressions -/

/-- When an operand behind a sign is canonical. -/
lemma canonical_unary_iff {op : String} {e : Expr} :
    Canonical (.unary op e) ↔
      op ∈ Operator.signs ∧ Canonical e ∧ e.isOpenOperand = false := by
  rw [canonical_iff, parts, List.forall_mem_singleton, isOpenOperand_eq_false]
  constructor
  · rintro ⟨hnode, he⟩
    exact ⟨hnode.names, he, hnode.operands⟩
  · rintro ⟨hop, he, hopen⟩
    exact ⟨⟨hop, trivial, hopen⟩, he⟩

/-- When an operation is canonical. -/
lemma canonical_binary_iff {op : String} {a b : Expr} :
    Canonical (.binary op a b) ↔ op ∈ Operator.levels.flatten ∧
      (Canonical a ∧ a.isOpenLeft (Operator.precedence op) = false) ∧
      Canonical b ∧ b.isOpenRight (Operator.precedence op) = false := by
  rw [canonical_iff, parts, List.forall_mem_cons, List.forall_mem_singleton,
    levels_flatten_perm.mem_iff, isOpenLeft_eq_false, isOpenRight_eq_false]
  constructor
  · rintro ⟨hnode, ha, hb⟩
    exact ⟨hnode.names, ⟨ha, hnode.operands.1⟩, hb, hnode.operands.2⟩
  · rintro ⟨hop, ⟨ha, hleft⟩, hb, hright⟩
    exact ⟨⟨hop, trivial, hleft, hright⟩, ha, hb⟩

/-- When a group of one is canonical. -/
lemma canonical_group_iff {e : Expr} : Canonical (.group [e]) ↔ Canonical e := by
  rw [canonical_iff, parts, List.forall_mem_singleton]
  exact and_iff_right ⟨trivial, trivial, trivial⟩

/-- When an access to a member is canonical. -/
lemma canonical_member_iff {e : Expr} {x : String} :
    Canonical (.member e x) ↔ IsName x ∧ Canonical e ∧ e.isOpenReceiver = false := by
  rw [canonical_iff, parts, List.forall_mem_singleton, isOpenReceiver_eq_false]
  constructor
  · rintro ⟨hnode, he⟩
    exact ⟨hnode.names, he, hnode.operands⟩
  · rintro ⟨hx, he, hopen⟩
    exact ⟨⟨hx, trivial, hopen⟩, he⟩

/-- The body of a canonical function is canonical. -/
lemma canonical_of_lambda {ps : List String} {e : Expr} (h : Canonical (.lambda ps e)) :
    Canonical e :=
  (canonical_iff.1 h).2 e (List.mem_singleton_self e)

/-! ## Expressions that were read -/

/-- What a phrase says about its expression: it is canonical, and it needs no parentheses in the
places where such a phrase stands. -/
def CanonicalIn : Phrase → Prop
  | .expr e => Canonical e
  | .chain n e => Canonical e ∧ e.isOpenRight n = false
  | .signed e => Canonical e ∧ e.isOpenOperand = false
  | .applied e => Canonical e ∧ e.isOpenReceiver = false
  | .primary e => Canonical e ∧ e.isOpenReceiver = false
  | .member _ e => Canonical e

/-- A token stands for a canonical expression. -/
lemma canonical_of_atom {e : Expr} {s : List Char} (h : Atom e s) :
    Canonical e ∧ e.isOpenReceiver = false := by
  have hliteral : ∀ v : Value, v.isUnsigned = true →
      Canonical (.literal v) ∧ (Expr.literal v).isOpenReceiver = false := by
    intro v hv
    exact ⟨⟨rfl, by simpa [Expr.literals] using hv, rfl⟩, rfl⟩
  cases h with
  | @whole ds _ hlt =>
    refine hliteral _ ?_
    simp [Value.isUnsigned, Int64.toInt_ofNat_of_lt hlt]
  | @decimal ws ds _ _ =>
    refine hliteral _ ?_
    simp [Value.isUnsigned, Binary64.isNegative_ofDecimal]
  | string _ => exact hliteral _ rfl
  | keyword hw =>
    refine hliteral _ ?_
    simp only [keywords, List.mem_cons, Prod.mk.injEq, List.not_mem_nil, or_false] at hw
    rcases hw with ⟨-, rfl⟩ | ⟨-, rfl⟩ | ⟨-, rfl⟩ | ⟨-, rfl⟩ <;> rfl
  | @«variable» x hx hkey =>
    refine ⟨⟨?_, by simp [Expr.literals], rfl⟩, rfl⟩
    simp only [isWritable, Bool.and_eq_true, Bool.not_eq_true', List.contains_eq_mem,
      decide_eq_false_iff_not, List.mem_map, not_exists, not_and]
    refine ⟨hx, ?_⟩
    rintro ⟨y, v⟩ hv rfl
    exact hkey v hv

/-- An expression that needs no parentheses to the right of an operator needs none as a test. -/
lemma isOpenTest_of_isOpenRight {e : Expr} {n : Nat} (h : e.isOpenRight n = false) :
    e.isOpenTest = false := by
  cases e with
  | lambda | conditional => simp [isOpenRight, isOpenOperand] at h
  | _ => rfl

/-- The parameters of a function are names. -/
lemma isName_of_parameters {ps : List String} {s : List Char} (h : Parameters ps s) :
    ∀ x ∈ ps, IsName x := by
  have hnames : ∀ {xs s}, Names xs s → ∀ x ∈ xs, IsName x := by
    intro xs s hxs
    induction hxs with
    | last _ hx => simpa using hx
    | cons _ hx _ _ ih => simpa using ⟨hx, ih⟩
  cases h with
  | single _ hx => simpa using hx
  | none _ _ => simp
  | names _ hxs _ => exact hnames hxs

/-- **An expression that is derived is canonical**, and needs no parentheses where it stands.

**Proof sketch.** Induction on the derivation.  The operands of a form of expression are phrases of
the kinds that need no parentheses there, which is why none is grouped. -/
lemma canonical_of_derives {p : Phrase} {t : List Char} (h : Derives p t) : CanonicalIn p := by
  induction h with
  | @function ps e s g t hps _ _ ih =>
    have ih : Canonical e := ih
    exact canonical_iff.2 ⟨⟨isName_of_parameters hps, trivial, trivial⟩,
      List.forall_mem_singleton.2 ih⟩
  | @choice a b c _ _ _ _ _ _ _ _ _ _ iha ihb ihc =>
    obtain ⟨iha, hopen⟩ : Canonical a ∧ a.isOpenRight 0 = false := iha
    have ihb : Canonical b := ihb
    have ihc : Canonical c := ihc
    have htest := isOpenTest_eq_false.1 (isOpenTest_of_isOpenRight hopen)
    exact canonical_iff.2 ⟨⟨trivial, trivial, htest⟩, by simp [parts, iha, ihb, ihc]⟩
  | chain _ ih => exact ih.1
  | @operation m n op a b _ _ _ hmn hop _ _ _ iha ihb =>
    obtain ⟨iha, hleft⟩ : Canonical a ∧ a.isOpenRight n = false := iha
    obtain ⟨ihb, hright⟩ : Canonical b ∧ b.isOpenRight (n + 1) = false := ihb
    have hprec := precedence_of_mem hop
    refine ⟨canonical_binary_iff.2 ⟨mem_flatten_levels_iff.2 ⟨n, hop⟩, ⟨iha, ?_⟩, ihb, ?_⟩, ?_⟩
    · rw [hprec, isOpenLeft_succ, hleft]
    · rw [hprec, hright]
    · simp only [isOpenRight, hprec, decide_eq_false_iff_not]
      omega
  | @operand m e _ _ ih =>
    obtain ⟨ih, hopen⟩ : Canonical e ∧ e.isOpenOperand = false := ih
    refine ⟨ih, ?_⟩
    cases e with
    | binary => simp [isOpenOperand] at hopen
    | _ => exact hopen
  | @sign op e _ _ hop _ _ ih =>
    obtain ⟨ih, hopen⟩ : Canonical e ∧ e.isOpenOperand = false := ih
    exact ⟨canonical_unary_iff.2 ⟨hop, ih, hopen⟩, rfl⟩
  | @unsigned e _ _ ih =>
    obtain ⟨ih, hopen⟩ : Canonical e ∧ e.isOpenReceiver = false := ih
    refine ⟨ih, ?_⟩
    cases e with
    | unary => rfl
    | _ => exact hopen
  | @access e x _ _ _ _ _ _ hx ih =>
    obtain ⟨ih, hopen⟩ : Canonical e ∧ e.isOpenReceiver = false := ih
    exact ⟨canonical_member_iff.2 ⟨hx, ih, hopen⟩, rfl⟩
  | @call e ps _ _ _ _ _ _ _ _ _ ih ihs =>
    obtain ⟨ih, hopen⟩ : Canonical e ∧ e.isOpenReceiver = false := ih
    exact ⟨canonical_iff.2 ⟨⟨trivial, trivial, isOpenReceiver_eq_false.1 hopen⟩,
      List.forall_mem_cons.2 ⟨ih, List.forall_mem_map.2 ihs⟩⟩, rfl⟩
  | @index e k _ _ _ _ _ _ _ _ ih ihk =>
    obtain ⟨ih, hopen⟩ : Canonical e ∧ e.isOpenReceiver = false := ih
    have ihk : Canonical k := ihk
    exact ⟨canonical_iff.2 ⟨⟨trivial, trivial, isOpenReceiver_eq_false.1 hopen⟩,
      by simp [parts, ih, ihk]⟩, rfl⟩
  | primary _ ih => exact ih
  | group _ _ _ _ ih =>
    exact ⟨canonical_iff.2 ⟨⟨trivial, trivial, trivial⟩, List.forall_mem_map.2 ih⟩, rfl⟩
  | array _ _ _ _ ih =>
    exact ⟨canonical_iff.2 ⟨⟨trivial, trivial, trivial⟩, List.forall_mem_map.2 ih⟩, rfl⟩
  | object _ _ _ _ ih =>
    refine ⟨canonical_iff.2 ⟨⟨trivial, trivial, trivial⟩, ?_⟩, rfl⟩
    exact List.forall_mem_map.2 (List.forall_mem_map.2 ih)
  | atom _ ha => exact canonical_of_atom ha
  | named _ _ _ _ ih => exact ih

/-- **The form of the expressions that are read**: every part of an expression that was read from a
text has an operator and names of the language, is no negative number and no date, and has operands
that bind tightly enough for their places.  So the number behind a minus sign can be negated, and a
literal argument that is written in this way is the negated number. -/
theorem isCanonicalNode_of_parse (source : String) (e : Expr) (h : parse source = .ok e) :
    (∀ p a, e.part? p = some a → a.IsCanonicalNode) ∧
    ∀ n, e = .unary "-" (.literal (.int n)) →
      Command.parseLiteral source = .ok (.int (-n)) ∧ (-n).toInt = -n.toInt := by
  have hcanonical : Canonical e := canonical_of_derives (derives_of_parse h)
  refine ⟨canonical_iff_forall_part.1 hcanonical, ?_⟩
  rintro n rfl
  have hnumber : (Expr.literal (.int n)).IsCanonicalNode :=
    canonical_iff_forall_part.1 hcanonical [0] _ rfl
  have hnonneg : 0 ≤ n.toInt := hnumber.literal.1
  exact ⟨by simp [Command.parseLiteral, h], Value.toInt_neg_of_lt (by omega)⟩

/-- A negated number, and a function with operands of many kinds. -/
theorem isCanonicalNode_of_parse_negated :
    (parse "-5" = .ok (.unary "-" (.literal (.int 5))) ∧
      Command.parseLiteral "-5" = .ok (.int (-5))) ∧
    ∃ e, parse "x => -x.a * (y + z) < w[k]" = .ok e ∧
      ∀ p a, e.part? p = some a → a.IsCanonicalNode := by
  have hnegated : parse "-5" = .ok (.unary "-" (.literal (.int 5))) :=
    parse_of_derives (.chain (.operand (@Derives.sign "-" _ [] ['5'] (by decide) isGap_nil
      (.unsigned (.primary (@Derives.atom _ [] _ isGap_nil
        (@Atom.whole ['5'] ⟨by simp, by simp⟩ (by decide))))))))
  have hwritable : Writable (.lambda ["x"] (.binary "<"
      (.binary "*" (.unary "-" (.member (.variable "x") "a"))
        (.group [.binary "+" (.variable "y") (.variable "z")]))
      (.index (.variable "w") (.variable "k")))) :=
    ⟨by decide, by simp [Expr.literals, literalsOfAll]⟩
  have hfunction : parse "x => -x.a * (y + z) < w[k]" = .ok _ :=
    parse_ofList_of_derives (expr_of_tightest (derives_source hwritable))
  exact ⟨⟨hnegated, ((isCanonicalNode_of_parse _ _ hnegated).2 5 rfl).1⟩, _, hfunction,
    (isCanonicalNode_of_parse _ _ hfunction).1⟩

end Expr

end LambdaQuery
