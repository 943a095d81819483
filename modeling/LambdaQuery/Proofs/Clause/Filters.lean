import LambdaQuery.Proofs.Clause.Outermost
import LambdaQuery.Proofs.Expr.RoundTrip

/-!
# Reading filters back from their clauses

A filter is a function of one parameter whose body has only paths from the parameter, literals,
signs, operators and groups of one.  Its clause has words for the operators, no parentheses but
those of the groups and no parameter.  Still, the source of the filter can be read back from the
clause, up to the name of the parameter and up to operators that share a word.  An expression that
was read needs no parentheses, so its source stands for no other expression; hence filters that
differ have different clauses.

## Main definitions

* `LambdaQuery.Expr.IsFilter` — the bodies of filters.
* `LambdaQuery.Expr.Alike` — two bodies are equal up to the parameter and up to operators that share
  a word.
* `LambdaQuery.Expr.standard` — the body with a standard parameter and standard operators.
* `LambdaQuery.Clause.decode` — the source that is read back from a clause.

## Main results

* `LambdaQuery.Expr.IsFilter.exists_text` — reading back gives the source of the standard body.
* `LambdaQuery.Expr.IsFilter.standard_eq_of_text_eq` — filters of one text have one standard body.
* `LambdaQuery.compileSource_eq_iff_alike` — two filters have the same clause exactly if they are
  alike.
-/

set_option autoImplicit false

namespace LambdaQuery

open Grammar

/-! ## Filters -/

namespace Expr

/-- The names that mean something else in a clause than a member. -/
def reservedNames : List String := ["length", "true", "false", "null"]

/-- One or more members in a row, from the parameter `p` on. -/
inductive IsPath (p : String) : Expr → Prop where
  | first {x : String} : x ∉ reservedNames → IsPath p (.member (.variable p) x)
  | next {e : Expr} {x : String} : IsPath p e → x ∉ reservedNames → IsPath p (.member e x)

/-- The body of a filter with the parameter `p`. -/
inductive IsFilter (p : String) : Expr → Prop where
  | null : IsFilter p (.literal .null)
  | bool (b : Bool) : IsFilter p (.literal (.bool b))
  | int (n : Int64) : IsFilter p (.literal (.int n))
  | string (s : String) : IsFilter p (.literal (.string s))
  | path {e : Expr} : IsPath p e → IsFilter p e
  | sign {op : String} {e : Expr} : op ∈ ["-", "+"] → IsFilter p e → IsFilter p (.unary op e)
  | group {e : Expr} : IsFilter p e → IsFilter p (.group [e])
  | operation {op : String} {a b : Expr} :
      IsFilter p a → IsFilter p b → IsFilter p (.binary op a b)

/-- The operator, with `==` for `===` and `!=` for `!==`. -/
def standardOperator (op : String) : String :=
  if op = "===" then "==" else if op = "!==" then "!=" else op

/-- Two bodies are equal up to their parameters `p` and `q` and up to the operators `===` and `!==`,
which count as `==` and `!=`. -/
inductive Alike (p q : String) : Expr → Expr → Prop where
  | literal (v : Value) : Alike p q (.literal v) (.literal v)
  | parameter : Alike p q (.variable p) (.variable q)
  | member {e e' : Expr} {x : String} : Alike p q e e' → Alike p q (.member e x) (.member e' x)
  | sign {op : String} {e e' : Expr} : Alike p q e e' → Alike p q (.unary op e) (.unary op e')
  | group {e e' : Expr} : Alike p q e e' → Alike p q (.group [e]) (.group [e'])
  | operation {op op' : String} {a a' b b' : Expr} : standardOperator op = standardOperator op' →
      Alike p q a a' → Alike p q b b' → Alike p q (.binary op a b) (.binary op' a' b')

/-! ## Standard bodies -/

mutual

/-- The body with `x` for its parameter and with standard operators. -/
def standard : Expr → Expr
  | .literal v => .literal v
  | .variable _ => .variable "x"
  | .unary op e => .unary op e.standard
  | .binary op a b => .binary (standardOperator op) a.standard b.standard
  | .group es => .group (standardAll es)
  | .member e x => .member e.standard x
  | e => e

/-- The bodies in standard form. -/
def standardAll : List Expr → List Expr
  | [] => []
  | e :: es => e.standard :: standardAll es

end

/-- What does not tell `===` from `==` and `!==` from `!=` is the same for the standard operator. -/
lemma apply_standardOperator {α : Type} (f : String → α) (hequal : f "==" = f "===")
    (hdiffer : f "!=" = f "!==") (op : String) : f (standardOperator op) = f op := by
  unfold standardOperator
  split_ifs with h h'
  · rw [h, hequal]
  · rw [h', hdiffer]
  · rfl

/-- A standard operator binds as tightly as the operator. -/
lemma precedence_standardOperator (op : String) :
    Operator.precedence (standardOperator op) = Operator.precedence op :=
  apply_standardOperator Operator.precedence (by decide) (by decide) op

/-- A standard operator has the word of the operator. -/
lemma infixWord_standardOperator (op : String) :
    Vocabulary.infixWord (standardOperator op) = Vocabulary.infixWord op :=
  apply_standardOperator Vocabulary.infixWord (by decide) (by decide) op

/-- A standard operator is one of the language if the operator is. -/
lemma standardOperator_mem_levels {op : String} (h : op ∈ Operator.levels.flatten) :
    standardOperator op ∈ Operator.levels.flatten := by
  rw [← List.contains_iff_mem] at h ⊢
  rwa [apply_standardOperator Operator.levels.flatten.contains (by decide) (by decide)]

/-- A standard body needs parentheses where the body does. -/
lemma isOpen_standard (e : Expr) :
    e.standard.isOpenOperand = e.isOpenOperand ∧
    e.standard.isOpenReceiver = e.isOpenReceiver ∧
    (∀ n, e.standard.isOpenLeft n = e.isOpenLeft n) ∧
    ∀ n, e.standard.isOpenRight n = e.isOpenRight n := by
  cases e with
  | binary op a b =>
    refine ⟨rfl, rfl, fun n => ?_, fun n => ?_⟩
    · rw [standard, isOpenLeft, isOpenLeft, precedence_standardOperator]
    · rw [standard, isOpenRight, isOpenRight, precedence_standardOperator]
  | _ => exact ⟨rfl, rfl, fun _ => rfl, fun _ => rfl⟩

variable {p q : String} {e e' : Expr}

/-- The standard form of a canonical path is canonical. -/
lemma IsPath.canonical_standard (h : IsPath p e) (hcanonical : Canonical e) :
    Canonical e.standard := by
  induction h with
  | first _ =>
    have hvariable : Canonical (.variable "x") := ⟨by decide, by simp [Expr.literals], rfl⟩
    exact canonical_member_iff.2 ⟨(canonical_member_iff.1 hcanonical).1, hvariable, rfl⟩
  | @next e x _ _ ih =>
    obtain ⟨hx, he, hopen⟩ := canonical_member_iff.1 hcanonical
    exact canonical_member_iff.2 ⟨hx, ih he, (isOpen_standard e).2.1.trans hopen⟩

/-- **The standard form of a canonical body is canonical**: operators are exchanged within their
level, so no operand needs parentheses that it did not need before. -/
lemma IsFilter.canonical_standard (h : IsFilter p e) (hcanonical : Canonical e) :
    Canonical e.standard := by
  induction h with
  | null | bool | int | string => exact hcanonical
  | path he => exact he.canonical_standard hcanonical
  | @sign op e _ _ ih =>
    obtain ⟨hop, he, hopen⟩ := canonical_unary_iff.1 hcanonical
    exact canonical_unary_iff.2 ⟨hop, ih he, (isOpen_standard e).1.trans hopen⟩
  | group _ ih => exact canonical_group_iff.2 (ih (canonical_group_iff.1 hcanonical))
  | @operation op a b _ _ iha ihb =>
    obtain ⟨hop, ⟨ha, hleft⟩, hb, hright⟩ := canonical_binary_iff.1 hcanonical
    refine canonical_binary_iff.2 ⟨standardOperator_mem_levels hop, ⟨iha ha, ?_⟩, ihb hb, ?_⟩
    · rw [precedence_standardOperator, (isOpen_standard a).2.2.1, hleft]
    · rw [precedence_standardOperator, (isOpen_standard b).2.2.2, hright]

end Expr

/-! ## Reading back -/

namespace Clause

/-- Where reading back stands in a clause. -/
inductive Place where
  /-- Before an operand. -/
  | operand
  /-- Behind the start of an operand. -/
  | behind
  /-- In the word of an operator. -/
  | operator
  /-- In a string. -/
  | string

/-- The word is the name of a member: it begins like a name and is no literal. -/
def isMemberWord (w : List Char) : Bool :=
  Identifier.isIdentifier w && decide (String.ofList w ∉ ["true", "false", "null"])

/-- The first operator with the word. -/
def operatorOf (w : List Char) : List Char :=
  ((Vocabulary.infixWords.find? fun entry => entry.2.toList == w).map fun entry =>
    entry.1.toList).getD []

/-- **The source that is read back** from a clause: a name before which no path stands is a member
of the parameter `x`, the steps of a path are members again, the words of operators become
operators, and strings are escaped. -/
def decode : Place → List Char → List Char
  | _, [] => []
  | .operand, c :: s =>
    if c = '(' ∨ c = '-' ∨ c = '+' then c :: decode .operand s
    else if c = '"' then c :: decode .string s
    -- the whole word tells a member from a literal
    else if isMemberWord ((c :: s).takeWhile Identifier.isPart) then
      'x' :: '.' :: c :: decode .behind s
    else c :: decode .behind s
  | .behind, c :: s =>
    if c = '/' then '.' :: decode .behind s
    else if c = ' ' then ' ' :: operatorOf (s.takeWhile Identifier.isPart) ++ decode .operator s
    else c :: decode .behind s
  | .operator, c :: s => if c = ' ' then c :: decode .operand s else decode .operator s
  -- two quotes are one of the text, a single one is the end
  | .string, '"' :: '"' :: s => '\\' :: '"' :: decode .string s
  | .string, '"' :: s => '"' :: decode .behind s
  | .string, c :: s => Value.escapeChar c ++ decode .string s

/-- An operand can end here: no word and no string goes on. -/
def EndsOperand (s : List Char) : Prop :=
  ∀ c ∈ s.head?, Identifier.isPart c = false ∧ c ≠ '"'

/-- An operand can end before a character that is neither one of a word nor a quote. -/
lemma endsOperand_cons {c : Char} (hpart : Identifier.isPart c = false) (hquote : c ≠ '"')
    (s : List Char) : EndsOperand (c :: s) := by
  simpa [EndsOperand] using ⟨hpart, hquote⟩

/-- A character of a word is no other character. -/
lemma ne_of_isPart_of_eq_false {c d : Char} (hc : Identifier.isPart c = true)
    (hd : Identifier.isPart d = false) : c ≠ d :=
  ne_of_apply_ne Identifier.isPart (by simp [hc, hd])

/-- A word behind the start of an operand is copied. -/
lemma decode_behind_append {w : List Char} (hw : ∀ c ∈ w, Identifier.isPart c = true)
    (r : List Char) : decode .behind (w ++ r) = w ++ decode .behind r := by
  induction w with
  | nil => rfl
  | cons c w ih =>
    rw [List.forall_mem_cons] at hw
    have hslash : c ≠ '/' := ne_of_isPart_of_eq_false hw.1 (by decide)
    have hspace : c ≠ ' ' := ne_of_isPart_of_eq_false hw.1 (by decide)
    rw [List.cons_append, decode, if_neg hslash, if_neg hspace, ih hw.2, List.cons_append]

/-- A word at the start of an operand is copied, behind the parameter if it is a member. -/
lemma decode_operand_append {w r : List Char} (hne : w ≠ [])
    (hw : ∀ c ∈ w, Identifier.isPart c = true) (hr : EndsOperand r) :
    decode .operand (w ++ r) =
      (if isMemberWord w then ['x', '.'] else []) ++ w ++ decode .behind r := by
  have htake : (w ++ r).takeWhile Identifier.isPart = w :=
    (Scan.span_append hw fun c hc => (hr c hc).1).1
  obtain ⟨c, w, rfl⟩ := List.exists_cons_of_ne_nil hne
  rw [List.forall_mem_cons] at hw
  have hbracket : ¬(c = '(' ∨ c = '-' ∨ c = '+') := by
    have hne : ∀ d, Identifier.isPart d = false → c ≠ d :=
      fun d hd => ne_of_isPart_of_eq_false hw.1 hd
    simp [hne '(' (by decide), hne '-' (by decide), hne '+' (by decide)]
  have hquote : c ≠ '"' := ne_of_isPart_of_eq_false hw.1 (by decide)
  have hbehind := decode_behind_append hw.2 r
  rw [List.cons_append] at htake ⊢
  rw [decode, if_neg hbracket, if_neg hquote, htake, hbehind]
  split_ifs <;> rfl

/-- A sign is copied. -/
lemma decode_operand_sign {op : String} (h : op ∈ ["-", "+"]) (s : List Char) :
    decode .operand ((Vocabulary.signWord op).toList ++ s) = op.toList ++ decode .operand s := by
  simp only [List.mem_cons, List.not_mem_nil, or_false] at h
  rcases h with rfl | rfl
  · change decode .operand ('-' :: s) = _
    rw [decode, if_pos (by decide)]
    rfl
  · change decode .operand ('+' :: s) = _
    rw [decode, if_pos (by decide)]
    rfl

/-- The word of an operator is passed over. -/
lemma decode_operator_append {w : List Char} (hw : ∀ c ∈ w, Identifier.isPart c = true)
    (r : List Char) : decode .operator (w ++ ' ' :: r) = ' ' :: decode .operand r := by
  induction w with
  | nil => simp [decode]
  | cons c w ih =>
    rw [List.forall_mem_cons] at hw
    have hspace : c ≠ ' ' := ne_of_isPart_of_eq_false hw.1 (by decide)
    rw [List.cons_append, decode, if_neg hspace, ih hw.2]

/-- A word between spaces is read back as its operator. -/
lemma decode_behind_operator {w : List Char} (hw : ∀ c ∈ w, Identifier.isPart c = true)
    (r : List Char) :
    decode .behind (' ' :: (w ++ ' ' :: r)) = ' ' :: operatorOf w ++ ' ' :: decode .operand r := by
  have hspace : ∀ c ∈ (' ' :: r).head?, Identifier.isPart c = false := by
    rintro c ⟨⟩
    decide
  have htake : (w ++ ' ' :: r).takeWhile Identifier.isPart = w := (Scan.span_append hw hspace).1
  rw [decode, if_neg (by decide), if_pos rfl, htake, decode_operator_append hw]

/-- The text of a string is escaped again. -/
lemma decode_string_append (s : List Char) {r : List Char} (hr : EndsOperand r) :
    decode .string (s.flatMap (fun c => if c = '"' then ['"', '"'] else [c]) ++ '"' :: r) =
      s.flatMap Value.escapeChar ++ '"' :: decode .behind r := by
  induction s with
  | nil =>
    cases r with
    | nil => rfl
    | cons c r =>
      have hquote : c ≠ '"' := (hr c rfl).2
      simp [decode, hquote]
  | cons c s ih =>
    by_cases hquote : c = '"'
    · subst hquote
      simp [decode, ih, Value.escapeChar]
    · simp [decode, ih, hquote]

/-- A member that is not reserved adds a step to a path. -/
lemma accessText_of_not_mem {x : String} (hx : x ∉ Expr.reservedNames) (owner : List Char) :
    accessText ⟨[], false⟩ owner x = pathText owner x.toList := by
  have hlength : x ≠ "length" := fun h => hx (by simp [h, Expr.reservedNames])
  simp [accessText, hlength, memberText]

/-- A name that is not reserved is the name of a member. -/
lemma isMemberWord_of_not_mem {x : String} (hname : IsName x) (hx : x ∉ Expr.reservedNames) :
    isMemberWord x.toList = true := by
  simp only [Expr.reservedNames, List.mem_cons, List.not_mem_nil, or_false, not_or] at hx
  have hname : Identifier.isIdentifier x.toList = true := hname
  simp [isMemberWord, hname, hx]

/-- A number is no member. -/
lemma isMemberWord_natural (n : Nat) : isMemberWord (Text.natural n) = false := by
  obtain ⟨c, w, hn⟩ := List.exists_cons_of_ne_nil (Text.natural_ne_nil n)
  have hdigit : c.isDigit = true := Text.isDigit_of_mem_natural (n := n) (by simp [hn])
  have hstart : Identifier.isStart c = false := by
    by_contra h
    rw [isDigit_of_isStart (by simpa using h)] at hdigit
    contradiction
  simp [isMemberWord, hn, Identifier.isIdentifier, hstart]

/-- The word of an operator is a word, and the standard operator is found by it. -/
lemma operatorOf_infixWord {op : String} (h : op ∈ Operator.levels.flatten) :
    (Vocabulary.infixWord op).toList.all Identifier.isPart = true ∧
      operatorOf (Vocabulary.infixWord op).toList = (Expr.standardOperator op).toList := by
  revert op
  decide

end Clause

namespace Expr

open Clause

variable {p q : String} {e e' : Expr}

/-- The source of the standard body is read back from the text, whatever stands behind it. -/
def ReadsBack (e : Expr) (t : List Char) : Prop :=
  ∀ r, EndsOperand r → decode .operand (t ++ r) = e.standard.source ++ decode .behind r

/-- A word that is no member is read back as it is. -/
lemma readsBack_word {w : List Char} (hne : w ≠ []) (hw : w.all Identifier.isPart = true)
    (hmember : isMemberWord w = false) (hsource : e.standard.source = w) : ReadsBack e w := by
  intro r hr
  rw [decode_operand_append hne (List.all_eq_true.1 hw) hr, hmember, hsource]
  rfl

/-- A path is read back from its text. -/
lemma IsPath.exists_text (h : IsPath p e) (hcanonical : Canonical e) :
    ∃ t, t ≠ [] ∧ e.text ⟨[], false⟩ [p] false = .ok t ∧ ReadsBack e t := by
  induction h with
  | @first x hx =>
    have hname : IsName x := (canonical_member_iff.1 hcanonical).1
    have htext : (member (.variable p) x).text ⟨[], false⟩ [p] false = .ok x.toList := by
      simp only [text, pure_bind, accessText_of_not_mem hx]
      simp [variableText, pathText, pure, Except.pure]
    refine ⟨x.toList, hname.toList_ne_nil, htext, fun r hr => ?_⟩
    rw [decode_operand_append hname.toList_ne_nil hname.isPart_of_mem hr,
      isMemberWord_of_not_mem hname hx]
    rfl
  | @next e x _ hx ih =>
    obtain ⟨hname, he, hopen⟩ := canonical_member_iff.1 hcanonical
    obtain ⟨t, hne, ht, hback⟩ := ih he
    refine ⟨t ++ '/' :: x.toList, by simp, ?_, fun r hr => ?_⟩
    · rw [text, ht]
      simp [accessText_of_not_mem hx, pathText, hne, bind, Except.bind, pure, Except.pure]
    · rw [List.append_assoc, List.cons_append,
        hback _ (endsOperand_cons (by decide) (by decide) _), decode, if_pos rfl,
        decode_behind_append hname.isPart_of_mem, standard, source, (isOpen_standard e).2.1, hopen]
      simp [enclosed]

/-- **A body is read back from its text**: there is a text, and the source of the standard body is
read back from it.

**Proof sketch.** Induction over the body.  The text of an operand ends before a space, a closing
parenthesis or the step of a path, so it is clear where the words and the strings in it end, and
whether a word is an operator or an operand follows from what stands before it. -/
theorem IsFilter.exists_text (h : IsFilter p e) (hcanonical : Canonical e) :
    ∃ t, e.text ⟨[], false⟩ [p] false = .ok t ∧ ReadsBack e t := by
  induction h with
  -- a literal other than a string is one word, written as in the source
  | null => exact ⟨_, rfl, readsBack_word (by decide) (by decide) (by decide) rfl⟩
  | bool b =>
    refine ⟨_, rfl, ?_⟩
    cases b with
    | false => exact readsBack_word (by decide) (by decide) (by decide) rfl
    | true => exact readsBack_word (by decide) (by decide) (by decide) rfl
  | int n =>
    -- a number that was read has no sign, so its text consists of digits
    have hn : 0 ≤ n.toInt := by
      simpa [Value.isUnsigned] using hcanonical.literals (.int n) (by simp [Expr.literals])
    obtain ⟨k, hk⟩ := Int.eq_ofNat_of_zero_le hn
    have hliteral : (Value.int n).literal = Text.natural k := by
      change Text.integer n.toInt = _
      rw [hk]
      rfl
    refine ⟨_, rfl, ?_⟩
    rw [hliteral]
    exact readsBack_word (Text.natural_ne_nil k)
      (List.all_eq_true.2 fun c hc => isPart_of_isDigit (Text.isDigit_of_mem_natural hc))
      (isMemberWord_natural k) hliteral
  | string s =>
    refine ⟨_, rfl, fun r hr => ?_⟩
    have hstring := decode_string_append s.toList hr
    change decode .operand ('"' :: _ ++ ['"'] ++ r) = '"' :: _ ++ ['"'] ++ _
    simp [decode, hstring]
  | path he =>
    obtain ⟨t, -, ht, hback⟩ := he.exists_text hcanonical
    exact ⟨t, ht, hback⟩
  | @sign op e hop _ ih =>
    obtain ⟨-, he, hopen⟩ := canonical_unary_iff.1 hcanonical
    obtain ⟨t, ht, hback⟩ := ih he
    refine ⟨(Vocabulary.signWord op).toList ++ t, by rw [text, ht]; rfl, fun r hr => ?_⟩
    rw [List.append_assoc, decode_operand_sign hop, hback r hr, standard, source,
      (isOpen_standard e).1, hopen, List.append_assoc]
    rfl
  | @group e _ ih =>
    obtain ⟨t, ht, hback⟩ := ih (canonical_group_iff.1 hcanonical)
    refine ⟨_, by rw [text_group_singleton, ht]; rfl, fun r hr => ?_⟩
    rw [List.append_assoc, List.cons_append, decode, if_pos (by decide), List.singleton_append,
      hback _ (endsOperand_cons (by decide) (by decide) r), decode, if_neg (by decide),
      if_neg (by decide), standard, standardAll, standardAll, source_group_singleton]
    simp
  | @operation op a b _ _ iha ihb =>
    obtain ⟨hop, ⟨ha, hleft⟩, hb, hright⟩ := canonical_binary_iff.1 hcanonical
    obtain ⟨s, hs, hbacks⟩ := iha ha
    obtain ⟨t, ht, hbackt⟩ := ihb hb
    obtain ⟨hword, hoperator⟩ := operatorOf_infixWord hop
    refine ⟨s ++ ' ' :: (Vocabulary.infixWord op).toList ++ ' ' :: t, ?_, fun r hr => ?_⟩
    · rw [text, hs, Bool.false_and, ht]
      rfl
    · -- the left operand ends at the space, the word at the next one, the right operand before r
      have hspace := endsOperand_cons (c := ' ') (by decide) (by decide)
      rw [List.append_assoc, List.append_assoc, List.cons_append, hbacks _ (hspace _),
        List.cons_append, decode_behind_operator (List.all_eq_true.1 hword), hoperator, hbackt r hr,
        standard, source, precedence_standardOperator, (isOpen_standard a).2.2.1,
        (isOpen_standard b).2.2.2, hleft, hright]
      simp [enclosed]

/-! ## Filters of one clause -/

/-- There are no literals in a path. -/
lemma IsPath.literals_standard (h : IsPath p e) : e.standard.literals = [] := by
  induction h with
  | first => rfl
  | next _ _ ih => exact ih

/-- There are no floating-point numbers in a body. -/
lemma IsFilter.ne_float (h : IsFilter p e) : ∀ v ∈ e.standard.literals, ∀ x, v ≠ .float x := by
  induction h with
  | null | bool | int | string => simp [standard, Expr.literals]
  | path he => simp [he.literals_standard]
  | sign _ _ ih => exact ih
  | group _ ih => simpa [standard, standardAll, Expr.literals, literalsOfAll] using ih
  | operation _ _ iha ihb =>
    simp only [standard, Expr.literals, List.forall_mem_append]
    exact ⟨iha, ihb⟩

/-- The source of the standard form of a canonical body is read as that form. -/
lemma IsFilter.parse_print_standard (h : IsFilter p e) (hcanonical : Canonical e) :
    parse e.standard.print = .ok e.standard := by
  have hstandard := h.canonical_standard hcanonical
  have hwritable : Writable e.standard := by
    refine ⟨hstandard.names, fun v hv => ?_⟩
    exact Value.atom_source (hstandard.literals v hv) fun x hx => absurd hx (h.ne_float v hv x)
  rw [parse_print_of_writable hwritable, hstandard.groups]

/-- **Bodies of one text have one standard form**, since its source is read back from the text and
is the source of no other expression. -/
theorem IsFilter.standard_eq_of_text_eq (h : IsFilter p e) (h' : IsFilter q e')
    (hcanonical : Canonical e) (hcanonical' : Canonical e')
    (htext : e.text ⟨[], false⟩ [p] false = e'.text ⟨[], false⟩ [q] false) :
    e.standard = e'.standard := by
  obtain ⟨t, ht, hback⟩ := h.exists_text hcanonical
  obtain ⟨t', ht', hback'⟩ := h'.exists_text hcanonical'
  obtain rfl : t = t' := by
    rw [ht, ht'] at htext
    injection htext
  have hends : EndsOperand [] := by simp [EndsOperand]
  have hsource : e.standard.source = e'.standard.source := by
    simpa [decode] using (hback [] hends).symm.trans (hback' [] hends)
  have hread := h.parse_print_standard hcanonical
  rw [print, hsource, ← print, h'.parse_print_standard hcanonical'] at hread
  injection hread with hread
  exact hread.symm

/-- Paths of one standard form are alike. -/
lemma IsPath.alike_of_standard_eq (h : IsPath p e) (h' : IsPath q e')
    (heq : e.standard = e'.standard) : Alike p q e e' := by
  induction h generalizing e' with
  | first _ =>
    cases h' with
    | first _ =>
      simp only [standard, Expr.member.injEq, true_and] at heq
      subst heq
      exact .member .parameter
    | next he' _ => cases he' <;> simp [standard] at heq
  | next he _ ih =>
    cases h' with
    | first _ => cases he <;> simp [standard] at heq
    | next he' _ =>
      simp only [standard, Expr.member.injEq] at heq
      obtain ⟨heq, rfl⟩ := heq
      exact .member (ih he' heq)

/-- Bodies of one standard form are alike. -/
lemma IsFilter.alike_of_standard_eq (h : IsFilter p e) (h' : IsFilter q e')
    (heq : e.standard = e'.standard) : Alike p q e e' := by
  induction h generalizing e' with
  | null | bool | int | string =>
    cases h' with
    | null | bool | int | string =>
      have heq : Expr.literal _ = Expr.literal _ := heq
      rw [← heq]
      exact .literal _
    | path he' => cases he' <;> simp [standard] at heq
    | _ => simp [standard] at heq
  | path he =>
    cases h' with
    | path he' => exact he.alike_of_standard_eq he' heq
    | _ => cases he <;> simp [standard] at heq
  | sign _ _ ih =>
    cases h' with
    | sign _ he' =>
      simp only [standard, Expr.unary.injEq] at heq
      obtain ⟨rfl, heq⟩ := heq
      exact .sign (ih he' heq)
    | path he' => cases he' <;> simp [standard] at heq
    | _ => simp [standard] at heq
  | group _ ih =>
    cases h' with
    | group he' =>
      simp only [standard, standardAll, Expr.group.injEq, List.cons.injEq, and_true] at heq
      exact .group (ih he' heq)
    | path he' => cases he' <;> simp [standard] at heq
    | _ => simp [standard] at heq
  | operation _ _ iha ihb =>
    cases h' with
    | operation ha' hb' =>
      simp only [standard, Expr.binary.injEq] at heq
      exact .operation heq.1 (iha ha' heq.2.1) (ihb hb' heq.2.2)
    | path he' => cases he' <;> simp [standard] at heq
    | _ => simp [standard] at heq

/-- Bodies that are alike have the same text. -/
lemma Alike.text_eq (h : Alike p q e e') (ctx : Context) :
    e.text ctx [p] false = e'.text ctx [q] false := by
  induction h with
  | literal v => rfl
  | parameter => simp [text, variableText]
  | member _ ih => simp only [text, ih]
  | sign _ ih => simp only [text, ih]
  | group _ ih => simp only [text, texts, ih]
  | @operation op op' _ _ _ _ hop _ _ iha ihb =>
    have hword : Vocabulary.infixWord op = Vocabulary.infixWord op' := by
      rw [← infixWord_standardOperator op, hop, infixWord_standardOperator]
    simp only [text, Bool.false_and, iha, ihb, hword]

end Expr

/-- The clause of a source text that is read as a function of one parameter is the text of its
body. -/
lemma compileSource_of_lambda {source p : String} {e : Expr} {t : List Char}
    (h : parse source = .ok (.lambda [p] e)) (ht : e.text ⟨[], false⟩ [p] false = .ok t) :
    compileSource source [] false = .ok (String.ofList t) := by
  have htext : (Expr.lambda [p] e).text ⟨[], false⟩ [] true = .ok t := ht
  simp only [compileSource, h, Expr.clause_eq, htext]
  rfl

/-- **Filters that differ have different clauses**: two source texts of filters have clauses, and
the clauses are equal exactly if the filters are equal up to their parameters and up to the
operators `===` and `!==`, which count as `==` and `!=`. -/
theorem compileSource_eq_iff_alike (source source' p q : String) (e e' : Expr)
    (h : parse source = .ok (.lambda [p] e)) (h' : parse source' = .ok (.lambda [q] e'))
    (hfilter : Expr.IsFilter p e) (hfilter' : Expr.IsFilter q e') :
    ∃ text text', compileSource source [] false = .ok text ∧
      compileSource source' [] false = .ok text' ∧ (text = text' ↔ Expr.Alike p q e e') := by
  have hcanonical : e.Canonical :=
    Expr.canonical_of_lambda (Expr.canonical_of_derives (derives_of_parse h))
  have hcanonical' : e'.Canonical :=
    Expr.canonical_of_lambda (Expr.canonical_of_derives (derives_of_parse h'))
  obtain ⟨t, ht, -⟩ := hfilter.exists_text hcanonical
  obtain ⟨t', ht', -⟩ := hfilter'.exists_text hcanonical'
  refine ⟨_, _, compileSource_of_lambda h ht, compileSource_of_lambda h' ht', ?_⟩
  rw [String.ofList_inj]
  constructor
  · rintro rfl
    have heq := hfilter.standard_eq_of_text_eq hfilter' hcanonical hcanonical' (ht.trans ht'.symm)
    exact hfilter.alike_of_standard_eq hfilter' heq
  · intro halike
    have htext := halike.text_eq ⟨[], false⟩
    rw [ht, ht'] at htext
    injection htext

/-- Two filters that differ in the parameter and in an operator only. -/
theorem compileSource_eq_iff_alike_equal :
    ∃ text text', compileSource "c => -(c.a) === 2" [] false = .ok text ∧
      compileSource "d => -(d.a) == 2" [] false = .ok text' ∧
      (text = text' ↔ Expr.Alike "c" "d"
        (.binary "===" (.unary "-" (.group [.member (.variable "c") "a"])) (.literal (.int 2)))
        (.binary "==" (.unary "-" (.group [.member (.variable "d") "a"]))
          (.literal (.int 2)))) := by
  have hwritable : ∀ {e : Expr}, e.isWritable = true → e.literals = [.int 2] → e.Writable := by
    intro e hnames hliterals
    refine ⟨hnames, fun v hv => Value.atom_source_of_isPlain ?_⟩
    rw [hliterals, List.mem_singleton] at hv
    rw [hv]
    decide
  have hfilter : ∀ p op : String, Expr.IsFilter p
      (.binary op (.unary "-" (.group [.member (.variable p) "a"])) (.literal (.int 2))) :=
    fun p op => .operation (.sign (by decide) (.group (.path (.first (by decide))))) (.int 2)
  exact compileSource_eq_iff_alike (Expr.print (.lambda ["c"]
      (.binary "===" (.unary "-" (.group [.member (.variable "c") "a"])) (.literal (.int 2)))))
    (Expr.print (.lambda ["d"]
      (.binary "==" (.unary "-" (.group [.member (.variable "d") "a"])) (.literal (.int 2)))))
    "c" "d" _ _ (Expr.parse_print_of_writable (hwritable (by decide) rfl))
    (Expr.parse_print_of_writable (hwritable (by decide) rfl))
    (hfilter "c" "===") (hfilter "d" "==")

end LambdaQuery
