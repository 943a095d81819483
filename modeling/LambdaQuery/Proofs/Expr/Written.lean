import LambdaQuery.Proofs.Expr.Parentheses
import LambdaQuery.Proofs.Grammar.Soundness

/-!
# Written expressions are derived

The text of an expression is derived by the grammar, with the tree that has a group for each pair of
parentheses which the writing adds.  The expression has to be one that can be written at all: its
names and operators are those of the language, and every literal in it is written as a token that
stands for it.

## Main definitions

* `LambdaQuery.Expr.isWritable` — the names and the operators are those of the language.
* `LambdaQuery.Expr.literals` — the literals in an expression.
* `LambdaQuery.Expr.tightest` — the tightest kind of phrase for a form of expression.

## Main results

* `LambdaQuery.Expr.stringLiteral_quoted` — a quoted text is a literal of the text.
* `LambdaQuery.Expr.derives_source` — the text of an expression is derived.
-/

set_option autoImplicit false

namespace LambdaQuery.Expr

open Grammar Scan

/-! ## Expressions that can be written -/

mutual

/-- The names and the operators of the expression are those of the language, no variable is one of
the words that are literals, and no named expression stands by itself. -/
def isWritable : Expr → Bool
  | .literal _ => true
  | .variable x =>
    Identifier.isIdentifier x.toList && !(keywords.map Prod.fst).contains x
  | .unary op e => Operator.signs.contains op && e.isWritable
  | .binary op a b => Operator.levels.flatten.contains op && a.isWritable && b.isWritable
  | .group es => allWritable es
  | .assign _ _ => false
  | .object ms => membersWritable ms
  | .array es => allWritable es
  | .member e x => e.isWritable && Identifier.isIdentifier x.toList
  | .index e k => e.isWritable && k.isWritable
  | .lambda ps e => ps.all (fun x => Identifier.isIdentifier x.toList) && e.isWritable
  | .call e es => e.isWritable && allWritable es
  | .conditional a b c => a.isWritable && b.isWritable && c.isWritable

/-- The expressions can all be written. -/
def allWritable : List Expr → Bool
  | [] => true
  | e :: es => e.isWritable && allWritable es

/-- The members can all be written, whatever their names. -/
def membersWritable : List (String × Expr) → Bool
  | [] => true
  | (_, e) :: ms => e.isWritable && membersWritable ms

end

mutual

/-- The literals in an expression. -/
def literals : Expr → List Value
  | .literal v => [v]
  | .variable _ => []
  | .unary _ e => e.literals
  | .binary _ a b => a.literals ++ b.literals
  | .group es => literalsOfAll es
  | .assign _ e => e.literals
  | .object ms => literalsOfMembers ms
  | .array es => literalsOfAll es
  | .member e _ => e.literals
  | .index e k => e.literals ++ k.literals
  | .lambda _ e => e.literals
  | .call e es => e.literals ++ literalsOfAll es
  | .conditional a b c => a.literals ++ b.literals ++ c.literals

/-- The literals in expressions. -/
def literalsOfAll : List Expr → List Value
  | [] => []
  | e :: es => e.literals ++ literalsOfAll es

/-- The literals in members. -/
def literalsOfMembers : List (String × Expr) → List Value
  | [] => []
  | (_, e) :: ms => e.literals ++ literalsOfMembers ms

end

/-- Expressions can be written if each one can. -/
@[simp] lemma allWritable_iff (es : List Expr) :
    allWritable es = true ↔ ∀ e ∈ es, e.isWritable = true := by
  induction es with
  | nil => simp [allWritable]
  | cons e es ih => simp [allWritable, ih]

/-- Members can be written if each one can. -/
@[simp] lemma membersWritable_iff (ms : List (String × Expr)) :
    membersWritable ms = true ↔ ∀ m ∈ ms, m.2.isWritable = true := by
  induction ms with
  | nil => simp [membersWritable]
  | cons m ms ih =>
    obtain ⟨x, e⟩ := m
    simp only [membersWritable, Bool.and_eq_true, ih, List.forall_mem_cons]

/-- A literal in expressions is one in some of them. -/
@[simp] lemma mem_literalsOfAll (es : List Expr) (v : Value) :
    v ∈ literalsOfAll es ↔ ∃ e ∈ es, v ∈ e.literals := by
  induction es with
  | nil => simp [literalsOfAll]
  | cons e es ih => simp [literalsOfAll, ih]

/-- A literal in members is one in some of them. -/
@[simp] lemma mem_literalsOfMembers (ms : List (String × Expr)) (v : Value) :
    v ∈ literalsOfMembers ms ↔ ∃ m ∈ ms, v ∈ m.2.literals := by
  induction ms with
  | nil => simp [literalsOfMembers]
  | cons m ms ih =>
    obtain ⟨x, e⟩ := m
    simp only [literalsOfMembers, List.mem_append, ih, List.exists_mem_cons_iff]

/-- The expression can be written, and each of its literals is written as a token for it. -/
structure Writable (e : Expr) : Prop where
  /-- The names and the operators are those of the language. -/
  names : e.isWritable = true
  /-- Each literal is written as a token for it. -/
  literals : ∀ v ∈ e.literals, Atom (.literal v) v.source

/-- An expression can be written as part of one that can. -/
lemma Writable.mono {e e' : Expr} (h : Writable e) (hnames : e'.isWritable = true)
    (hsub : ∀ v ∈ e'.literals, v ∈ e.literals) : Writable e' :=
  ⟨hnames, fun v hv => h.literals v (hsub v hv)⟩

namespace Writable

/-- Each expression of a list can be written if the list can. -/
lemma of_list {es : List Expr} (hnames : allWritable es = true)
    (hliterals : ∀ v ∈ literalsOfAll es, Atom (.literal v) v.source) : ∀ e ∈ es, Writable e := by
  intro e he
  refine ⟨(allWritable_iff es).1 hnames e he, fun v hv => hliterals v ?_⟩
  exact (mem_literalsOfAll es v).2 ⟨e, he, hv⟩

variable {op x : String} {e a b c : Expr} {es : List Expr}

/-- The parts of an operand behind a sign. -/
lemma of_unary (h : Writable (.unary op e)) : op ∈ Operator.signs ∧ Writable e := by
  have hnames := h.names
  simp only [isWritable, Bool.and_eq_true, List.contains_iff_mem] at hnames
  exact ⟨hnames.1, h.mono hnames.2 fun v hv => hv⟩

/-- The parts of an operation. -/
lemma of_binary (h : Writable (.binary op a b)) :
    op ∈ Operator.levels.flatten ∧ Writable a ∧ Writable b := by
  have hnames := h.names
  simp only [isWritable, Bool.and_eq_true, List.contains_iff_mem] at hnames
  exact ⟨hnames.1.1, h.mono hnames.1.2 fun v hv => by simp [Expr.literals, hv],
    h.mono hnames.2 fun v hv => by simp [Expr.literals, hv]⟩

/-- The members of an object. -/
lemma of_object {ms : List (String × Expr)} (h : Writable (.object ms)) :
    ∀ m ∈ ms, Writable m.2 := by
  intro m hm
  refine h.mono ((membersWritable_iff ms).1 h.names m hm) fun v hv => ?_
  exact (mem_literalsOfMembers ms v).2 ⟨m, hm, hv⟩

/-- The parts of an access to a member. -/
lemma of_member (h : Writable (.member e x)) : Writable e ∧ IsName x := by
  have hnames := h.names
  simp only [isWritable, Bool.and_eq_true] at hnames
  exact ⟨h.mono hnames.1 fun v hv => hv, hnames.2⟩

/-- The parts of an access to an element. -/
lemma of_index {k : Expr} (h : Writable (.index e k)) : Writable e ∧ Writable k := by
  have hnames := h.names
  simp only [isWritable, Bool.and_eq_true] at hnames
  exact ⟨h.mono hnames.1 fun v hv => by simp [Expr.literals, hv],
    h.mono hnames.2 fun v hv => by simp [Expr.literals, hv]⟩

/-- The parts of a function. -/
lemma of_lambda {ps : List String} (h : Writable (.lambda ps e)) :
    (∀ x ∈ ps, IsName x) ∧ Writable e := by
  have hnames := h.names
  simp only [isWritable, Bool.and_eq_true, List.all_eq_true] at hnames
  exact ⟨hnames.1, h.mono hnames.2 fun v hv => hv⟩

/-- The parts of a call. -/
lemma of_call (h : Writable (.call e es)) : Writable e ∧ ∀ e' ∈ es, Writable e' := by
  have hnames := h.names
  have hliterals := h.literals
  simp only [isWritable, Bool.and_eq_true] at hnames
  simp only [Expr.literals, List.forall_mem_append] at hliterals
  exact ⟨⟨hnames.1, hliterals.1⟩, of_list hnames.2 hliterals.2⟩

/-- The parts of a choice. -/
lemma of_conditional (h : Writable (.conditional a b c)) :
    Writable a ∧ Writable b ∧ Writable c := by
  have hnames := h.names
  have hliterals := h.literals
  simp only [isWritable, Bool.and_eq_true] at hnames
  simp only [Expr.literals, List.forall_mem_append] at hliterals
  exact ⟨⟨hnames.1.1, hliterals.1.1⟩, ⟨hnames.1.2, hliterals.1.2⟩, ⟨hnames.2, hliterals.2⟩⟩

end Writable

/-! ## Names and texts -/

/-- A written character of a string literal stands for itself. -/
lemma quotedText_escapeChar (c : Char) {s t : List Char} (h : QuotedText '"' s t) :
    QuotedText '"' (Value.escapeChar c ++ s) (c :: t) := by
  unfold Value.escapeChar
  split_ifs with hquote hslash hline htab hreturn
  · subst hquote
    exact .escaped (.other (by decide) (by decide) (by decide) (by decide)) h
  · subst hslash
    exact .escaped (.other (by decide) (by decide) (by decide) (by decide)) h
  · subst hline
    exact .escaped .lineFeed h
  · subst htab
    exact .escaped .tab h
  · subst hreturn
    exact .escaped .carriageReturn h
  · exact .plain hquote hslash h

/-- A text between double quotes, with its escapes, is a literal of the text. -/
lemma stringLiteral_quoted (x : String) : StringLiteral x (Value.quoted x) := by
  refine ⟨'"', x.toList.flatMap Value.escapeChar, .inl rfl, ?_, rfl⟩
  induction x.toList with
  | nil => exact .nil
  | cons c s ih =>
    rw [List.flatMap_cons]
    exact quotedText_escapeChar c ih

/-- The written name of a member is a name of the member. -/
lemma key_memberName (x : String) : Key x (memberName x) := by
  unfold memberName
  split_ifs with hx
  · exact .word hx
  · exact .string (stringLiteral_quoted x)

/-- A space before the first item stands before the list. -/
lemma commaList_space (s : List Char) (ts : List (List Char)) :
    commaList ((' ' :: s) :: ts) = ' ' :: commaList (s :: ts) := by
  cases ts with
  | nil => simp
  | cons t ts => simp [commaList_cons_cons]

/-- **A written list is a list of the grammar**: the space behind a comma is the gap before the next
item.

**Proof sketch.** Induction on the items behind the first one; the next item takes the space. -/
lemma exists_commaList {α : Type} {P : α → List Char → Prop} (hgap : ∀ a t, P a t → P a (' ' :: t))
    (ps : List (α × List Char)) (p : α × List Char) (hp : P p.1 p.2) (hps : ∀ q ∈ ps, P q.1 q.2) :
    ∃ qs : List (α × List Char), qs.map Prod.fst = (p :: ps).map Prod.fst ∧
      (∀ q ∈ qs, P q.1 q.2) ∧ CommaList (qs.map Prod.snd) (commaList ((p :: ps).map Prod.snd)) := by
  induction ps generalizing p with
  | nil => exact ⟨[p], rfl, by simpa using hp, by simpa using CommaList.last p.2⟩
  | cons q ps ih =>
    obtain ⟨qs, hfst, hqs, hlist⟩ := ih (q.1, ' ' :: q.2) (hgap _ _ (hps q (by simp)))
      fun q' hq' => hps q' (by simp [hq'])
    refine ⟨p :: qs, by simpa using hfst, ?_, ?_⟩
    · intro q' hq'
      rcases List.mem_cons.1 hq' with rfl | hq'
      · exact hp
      · exact hqs q' hq'
    · rw [List.map_cons, commaList_space] at hlist
      simpa [commaList_cons_cons] using CommaList.cons p.2 isGap_nil hlist

/-- Names stay names behind a gap. -/
lemma names_cons_space {xs : List String} {s : List Char} (h : Names xs s) :
    Names xs (' ' :: s) := by
  cases h with
  | last hg hx => exact .last (isGap_space.append hg) hx
  | cons hg hx hh hs => exact .cons (isGap_space.append hg) hx hh hs

/-- Written names are names with commas between them. -/
lemma names_commaList (x : String) (xs : List String) (hx : IsName x) (hxs : ∀ y ∈ xs, IsName y) :
    Names (x :: xs) (commaList ((x :: xs).map String.toList)) := by
  induction xs generalizing x with
  | nil => simpa using Names.last isGap_nil hx
  | cons y xs ih =>
    have htail := names_cons_space (ih y (hxs y (by simp)) fun z hz => hxs z (by simp [hz]))
    simpa [commaList_cons_cons] using Names.cons isGap_nil hx isGap_nil htail

/-- The written parameters of a function are its parameters. -/
lemma parameters_parameterList {ps : List String} (h : ∀ x ∈ ps, IsName x) :
    Parameters ps (parameterList ps) := by
  match ps with
  | [] => exact .none isGap_nil isGap_nil
  | [x] => exact .single isGap_nil (h x (by simp))
  | x :: y :: xs =>
    simpa [parameterList] using Parameters.names isGap_nil
      (names_commaList x (y :: xs) (h x (by simp)) fun z hz => h z (by simp [hz])) isGap_nil

/-! ## Kinds of phrases -/

/-- The tightest kind of phrase for a form of expression. -/
def tightest : Expr → Phrase
  | .binary op a b => .chain (Operator.precedence op - 1) (.binary op a b)
  | .unary op e => .signed (.unary op e)
  | .conditional a b c => .expr (.conditional a b c)
  | .lambda ps e => .expr (.lambda ps e)
  | .assign x e => .expr (.assign x e)
  | e => .applied e

section Kinds

variable {e : Expr} {s : List Char}

/-- An applied phrase is a chain of every level. -/
lemma chain_of_applied {n : Nat} (h : Derives (.applied e) s) : Derives (.chain n e) s :=
  .operand (.unsigned h)

/-- An expression that needs no parentheses as a receiver is one in its tightest phrase. -/
lemma applied_of_tightest (h : Derives e.tightest s) (hopen : e.isOpenReceiver = false) :
    Derives (.applied e) s := by
  cases e with
  | literal | «variable» | group | object | array | member | index | call => exact h
  | unary | binary | assign | lambda | conditional => simp [isOpenReceiver, isOpenOperand] at hopen

/-- An expression that needs no parentheses as an operand is one in its tightest phrase. -/
lemma signed_of_tightest (h : Derives e.tightest s) (hopen : e.isOpenOperand = false) :
    Derives (.signed e) s := by
  cases e with
  | literal | «variable» | group | object | array | member | index | call => exact .unsigned h
  | unary => exact h
  | binary | assign | lambda | conditional => simp [isOpenOperand] at hopen

/-- An expression that needs no parentheses to the right of an operator is a chain of the tighter
levels. -/
lemma chain_of_tightest {n : Nat} (h : Derives e.tightest s) (hopen : e.isOpenRight n = false) :
    Derives (.chain n e) s := by
  cases e with
  | literal | «variable» | group | object | array | member | index | call =>
    exact chain_of_applied h
  | unary => exact .operand h
  | binary op a b =>
    have hlt : n < Operator.precedence op := by simpa [isOpenRight] using hopen
    exact h.chain_mono (by omega)
  | assign | lambda | conditional => simp [isOpenRight, isOpenOperand] at hopen

/-- To the left of an operator the parentheses are those of the level before to the right. -/
lemma isOpenLeft_succ (e : Expr) (n : Nat) : e.isOpenLeft (n + 1) = e.isOpenRight n := by
  cases e with
  | binary op a b => simp [isOpenLeft, isOpenRight]
  | _ => rfl

/-- An expression that needs no parentheses as a test is a chain. -/
lemma chain_of_isOpenTest (h : Derives e.tightest s) (hopen : e.isOpenTest = false)
    (hassign : ∀ x a, e ≠ .assign x a) : Derives (.chain 0 e) s := by
  cases e with
  | literal | «variable» | group | object | array | member | index | call =>
    exact chain_of_applied h
  | unary => exact .operand h
  | binary op a b => exact h.chain_mono (Nat.zero_le _)
  | assign x a => exact absurd rfl (hassign x a)
  | lambda | conditional => simp [isOpenTest] at hopen

/-- Every written form is an expression. -/
lemma expr_of_tightest (h : Derives e.tightest s) : Derives (.expr e) s := by
  cases e with
  | literal | «variable» | group | object | array | member | index | call =>
    exact .chain (chain_of_applied h)
  | unary => exact .chain (.operand h)
  | binary op a b => exact .chain (h.chain_mono (Nat.zero_le _))
  | assign | lambda | conditional => exact h

/-- **An operand in its parentheses** is a phrase of the kind that is asked for, if it is one
without parentheses where none are written. -/
lemma derives_enclosed {kind : Expr → Phrase} {needed : Bool}
    (hkind : ∀ {e s}, Derives (.applied e) s → Derives (kind e) s) (he : Derives e.tightest s)
    (h : needed = false → Derives (kind e) s) :
    Derives (kind (grouped needed e)) (enclosed needed s) := by
  cases needed with
  | false => exact h rfl
  | true =>
    have hitem : ∀ p ∈ [(e, s)], Derives (.expr p.1) p.2 := by simpa using expr_of_tightest he
    refine hkind (.primary ?_)
    simpa [grouped, enclosed] using Derives.group isGap_nil hitem (CommaList.last s) isGap_nil

end Kinds

/-- How tightly an operator binds. -/
lemma precedence_of_mem {n : Nat} {op : String} (h : op ∈ infixOperators n) :
    Operator.precedence op = n + 1 := by
  unfold infixOperators at h
  split at h <;> simp only [List.mem_cons, List.not_mem_nil, or_false] at h
  · exact h ▸ by decide
  · exact h ▸ by decide
  · rcases h with rfl | rfl | rfl | rfl <;> decide
  · rcases h with rfl | rfl | rfl | rfl <;> decide
  · rcases h with rfl | rfl <;> decide
  · rcases h with rfl | rfl | rfl <;> decide

/-- The operators of the language are those of its levels. -/
lemma mem_flatten_levels_iff {op : String} :
    op ∈ Operator.levels.flatten ↔ ∃ n, op ∈ infixOperators n := by
  constructor
  · intro h
    obtain ⟨ops, hops, hop⟩ := List.mem_flatten.1 h
    obtain ⟨n, hn, rfl⟩ := List.mem_iff_getElem.1 hops
    refine ⟨n, mem_levels_iff.1 ?_⟩
    rwa [List.getD_eq_getElem _ _ hn]
  · rintro ⟨n, h⟩
    have hop := mem_levels_iff.2 h
    rcases Nat.lt_or_ge n Operator.levels.length with hn | hn
    · rw [List.getD_eq_getElem _ _ hn] at hop
      exact List.mem_flatten.2 ⟨_, List.getElem_mem hn, hop⟩
    · rw [List.getD_eq_default _ _ hn] at hop
      exact absurd hop List.not_mem_nil

/-! ## The text of an expression -/

/-- The items of a written list are derived, each behind the space before it. -/
lemma exists_commaList_sources {es : List Expr}
    (h : ∀ e ∈ es, Derives e.parenthesized.tightest e.source) :
    ∃ qs : List (Expr × List Char), qs.map Prod.fst = parenthesizedAll es ∧
      (∀ q ∈ qs, Derives (.expr q.1) q.2) ∧
      CommaList (qs.map Prod.snd) (commaList (sources es)) := by
  cases es with
  | nil => exact ⟨[], rfl, by simp, .nil⟩
  | cons e es =>
    obtain ⟨qs, hfst, hqs, hlist⟩ := exists_commaList (P := fun e t => Derives (.expr e) t)
      (fun a t ht => ht.gap_append isGap_space) (es.map fun e => (e.parenthesized, e.source))
      (e.parenthesized, e.source) (expr_of_tightest (h e (by simp))) (by
        intro q hq
        obtain ⟨e', he', rfl⟩ := List.mem_map.1 hq
        exact expr_of_tightest (h e' (by simp [he'])))
    refine ⟨qs, ?_, hqs, ?_⟩
    · rw [hfst, parenthesizedAll_eq_map]
      simp
    · rw [sources_eq_map]
      simpa [Function.comp_def] using hlist

/-- The members of a written object are derived, each behind the space before it. -/
lemma exists_commaList_memberSources {m : String × Expr} {ms : List (String × Expr)}
    (h : ∀ m' ∈ m :: ms, Derives m'.2.parenthesized.tightest m'.2.source) :
    ∃ qs : List ((String × Expr) × List Char),
      qs.map Prod.fst = parenthesizedMembers (m :: ms) ∧
      (∀ q ∈ qs, Derives (.member q.1.1 q.1.2) q.2) ∧
      CommaList (qs.map Prod.snd) (' ' :: commaList (memberSources (m :: ms))) := by
  have hmember : ∀ m' ∈ m :: ms,
      Derives (.member m'.1 m'.2.parenthesized) (memberSource m') := by
    intro m' hm'
    have hvalue := (expr_of_tightest (h m' hm')).gap_append isGap_space
    simpa [memberSource] using Derives.named isGap_nil (key_memberName m'.1) isGap_nil hvalue
  obtain ⟨qs, hfst, hqs, hlist⟩ := exists_commaList
    (P := fun (m : String × Expr) t => Derives (.member m.1 m.2) t)
    (fun a t ht => ht.gap_append isGap_space)
    (ms.map fun m => ((m.1, m.2.parenthesized), memberSource m))
    ((m.1, m.2.parenthesized), ' ' :: memberSource m)
    ((hmember m (by simp)).gap_append isGap_space) (by
      intro q hq
      obtain ⟨m', hm', rfl⟩ := List.mem_map.1 hq
      exact hmember m' (by simp [hm']))
  refine ⟨qs, ?_, hqs, ?_⟩
  · rw [hfst, parenthesizedMembers_eq_map]
    simp
  · rw [memberSources_eq_map, List.map_cons, ← commaList_space]
    simpa [Function.comp_def] using hlist

section Operands

variable {e : Expr} (h : Derives e.parenthesized.tightest e.source)

include h

/-- A receiver in its parentheses is derived. -/
lemma derives_receiver :
    Derives (.applied (grouped e.isOpenReceiver e.parenthesized))
      (enclosed e.isOpenReceiver e.source) :=
  derives_enclosed id h fun hneeded =>
    applied_of_tightest h ((isOpen_parenthesized e).2.1.trans hneeded)

/-- An operand behind a sign in its parentheses is derived. -/
lemma derives_operand :
    Derives (.signed (grouped e.isOpenOperand e.parenthesized))
      (enclosed e.isOpenOperand e.source) :=
  derives_enclosed .unsigned h fun hneeded =>
    signed_of_tightest h ((isOpen_parenthesized e).1.trans hneeded)

/-- An operand to the left of an operator in its parentheses is derived. -/
lemma derives_left (n : Nat) :
    Derives (.chain n (grouped (e.isOpenLeft (n + 1)) e.parenthesized))
      (enclosed (e.isOpenLeft (n + 1)) e.source) := by
  refine derives_enclosed chain_of_applied h fun hneeded => chain_of_tightest h ?_
  rw [← isOpenLeft_succ, (isOpen_parenthesized e).2.2.2.1, hneeded]

/-- An operand to the right of an operator in its parentheses is derived. -/
lemma derives_right (n : Nat) :
    Derives (.chain n (grouped (e.isOpenRight n) e.parenthesized))
      (enclosed (e.isOpenRight n) e.source) := by
  refine derives_enclosed chain_of_applied h fun hneeded => chain_of_tightest h ?_
  rw [(isOpen_parenthesized e).2.2.2.2, hneeded]

/-- The test of a choice in its parentheses is derived. -/
lemma derives_test (hwritable : e.isWritable = true) :
    Derives (.chain 0 (grouped e.isOpenTest e.parenthesized))
      (enclosed e.isOpenTest e.source) := by
  refine derives_enclosed chain_of_applied h fun hneeded => chain_of_isOpenTest h ?_ ?_
  · rw [(isOpen_parenthesized e).2.2.1, hneeded]
  · intro x e' hassign
    cases e with
    | assign => simp [isWritable] at hwritable
    | _ => simp [parenthesized] at hassign

end Operands

/-- **The text of an expression is derived**, as the tightest kind of phrase, with the tree that has
a group for each pair of parentheses which the writing adds.

**Proof sketch.** Induction over the expression, one form at a time: an operand in its parentheses
is a phrase of the kind that its place asks for, and the spaces that are written are gaps. -/
lemma derives_source {e : Expr} (h : Writable e) : Derives e.parenthesized.tightest e.source := by
  induction e using inductionOn with
  | literal v =>
    simpa [parenthesized, source, tightest] using
      Derives.primary (.atom isGap_nil (h.literals v (by simp [literals])))
  | «variable» x =>
    have hnames := h.names
    simp only [isWritable, Bool.and_eq_true, Bool.not_eq_true', List.contains_eq_mem,
      decide_eq_false_iff_not, List.mem_map, not_exists, not_and] at hnames
    refine .primary (.atom isGap_nil (.variable hnames.1 fun v hv => ?_))
    exact hnames.2 (x, v) hv rfl
  | unary op e ih =>
    obtain ⟨hop, he⟩ := h.of_unary
    exact .sign hop isGap_nil (derives_operand (ih he))
  | binary op a b iha ihb =>
    obtain ⟨hop, ha, hb⟩ := h.of_binary
    obtain ⟨n, hn⟩ := mem_flatten_levels_iff.1 hop
    have hleft := derives_left (iha ha) n
    have hright := derives_right (ihb hb) (n + 1)
    simp only [parenthesized, source, tightest, precedence_of_mem hn, Nat.add_sub_cancel]
    simpa using
      Derives.operation (Nat.le_refl n) hn hleft isGap_space (hright.gap_append isGap_space)
  | group es ih =>
    have hes := Writable.of_list h.names h.literals
    obtain ⟨qs, hfst, hqs, hlist⟩ := exists_commaList_sources fun e he => ih e he (hes e he)
    simp only [parenthesized, source, tightest, ← hfst]
    simpa using Derives.primary (.group isGap_nil hqs hlist isGap_nil)
  | assign x e ih => simpa [isWritable] using h.names
  | object ms ih =>
    cases ms with
    | nil =>
      have hnone : ∀ q ∈ ([] : List ((String × Expr) × List Char)),
          Derives (.member q.1.1 q.1.2) q.2 := by simp
      exact .primary (.object isGap_nil hnone .nil isGap_nil)
    | cons m ms =>
      obtain ⟨qs, hfst, hqs, hlist⟩ := exists_commaList_memberSources fun m' hm' =>
        ih m' hm' (h.of_object m' hm')
      simp only [parenthesized, source, tightest, ← hfst]
      simpa using Derives.primary (.object isGap_nil hqs hlist isGap_space)
  | array es ih =>
    have hes := Writable.of_list h.names h.literals
    obtain ⟨qs, hfst, hqs, hlist⟩ := exists_commaList_sources fun e he => ih e he (hes e he)
    simp only [parenthesized, source, tightest, ← hfst]
    simpa using Derives.primary (.array isGap_nil hqs hlist isGap_nil)
  | member e x ih =>
    obtain ⟨he, hx⟩ := h.of_member
    have he := derives_receiver (ih he)
    simpa [parenthesized, source, tightest] using Derives.access he isGap_nil isGap_nil hx
  | index e k ihe ihk =>
    obtain ⟨he, hk⟩ := h.of_index
    have he := derives_receiver (ihe he)
    have hk := expr_of_tightest (ihk hk)
    simpa [parenthesized, source, tightest] using Derives.index he isGap_nil hk isGap_nil
  | lambda ps e ih =>
    obtain ⟨hps, he⟩ := h.of_lambda
    have he := expr_of_tightest (ih he)
    simpa [parenthesized, source, tightest] using
      Derives.function (parameters_parameterList hps) isGap_space (he.gap_append isGap_space)
  | call e es ihe ihes =>
    obtain ⟨he, hes⟩ := h.of_call
    have he := derives_receiver (ihe he)
    obtain ⟨qs, hfst, hqs, hlist⟩ := exists_commaList_sources fun e' he' =>
      ihes e' he' (hes e' he')
    simp only [parenthesized, source, tightest, ← hfst]
    simpa using Derives.call he isGap_nil hqs hlist isGap_nil
  | conditional a b c iha ihb ihc =>
    obtain ⟨ha, hb, hc⟩ := h.of_conditional
    have htest := derives_test (iha ha) ha.names
    have hb := expr_of_tightest (ihb hb)
    have hc := expr_of_tightest (ihc hc)
    simpa [parenthesized, source, tightest] using Derives.choice htest isGap_space
      (hb.gap_append isGap_space) isGap_space (hc.gap_append isGap_space)

end LambdaQuery.Expr
