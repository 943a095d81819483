import LambdaQuery.Proofs.Grammar.Soundness

/-!
# What follows a phrase

A phrase is read as a whole if what follows it cannot belong to it.  Three conditions on the text
that follows are enough: it can follow a token, a chain of operators of some level, or an
expression.  The first two are needed because a piece of a phrase is read before it is known what
the phrase goes on with.

## Main definitions

* `LambdaQuery.Grammar.EndsToken`, `LambdaQuery.Grammar.EndsChain`, `LambdaQuery.Grammar.EndsExpr`
  — what can follow.

## Main results

* `LambdaQuery.Grammar.endsChain_of_operator` — an operator can follow the chains of the next level.
* `LambdaQuery.Grammar.eq_none_of_head` — where no phrase begins, none is read.
* `LambdaQuery.Grammar.identifier_append`, `LambdaQuery.Grammar.digits_append`,
  `LambdaQuery.Grammar.stringLiteral_append` — a token is read as a whole.
-/

set_option autoImplicit false

namespace LambdaQuery.Grammar

open Scan LambdaQuery.Expr

/-! ## What can follow -/

/-- How tightly the operators bind that begin with the character: their level, counted from one,
and zero if there are none. -/
def infixStrength (c : Char) : Nat :=
  if c = '|' then 1 else if c = '&' then 2 else if c = '=' ∨ c = '!' then 3
  else if c = '<' ∨ c = '>' then 4 else if c = '+' ∨ c = '-' then 5
  else if c = '*' ∨ c = '/' ∨ c = '%' then 6 else 0

/-- No operator binds more tightly than those of the last level. -/
lemma infixStrength_le (c : Char) : infixStrength c ≤ 6 := by
  unfold infixStrength
  split_ifs <;> omega

/-- The text can follow a token: it goes on with no name and no number. -/
def EndsToken (s : List Char) : Prop :=
  (∀ c ∈ s.head?, Identifier.isPart c = false) ∧ ∀ d r, s = '.' :: d :: r → d.isDigit = false

/-- The text can follow a chain of the level: its first token applies to nothing and is no operator
of the level or of a tighter one. -/
def EndsChain (level : Nat) (s : List Char) : Prop :=
  ∀ c ∈ (skipGap s).head?, Identifier.isPart c = false ∧ c ≠ '.' ∧ c ≠ '(' ∧ c ≠ '[' ∧
    infixStrength c ≤ level

/-- The text can follow an expression: it is at its end or its first token closes something. -/
def EndsExpr (s : List Char) : Prop :=
  ∀ c ∈ (skipGap s).head?, c ∈ [')', ']', '\x7d', ',', ':']

/-- What can follow a chain can follow a chain of a tighter level. -/
lemma EndsChain.mono {m n : Nat} (hmn : m ≤ n) {s : List Char} (h : EndsChain m s) :
    EndsChain n s := by
  intro c hc
  obtain ⟨h₁, h₂, h₃, h₄, h₅⟩ := h c hc
  exact ⟨h₁, h₂, h₃, h₄, h₅.trans hmn⟩

/-- What can follow an expression can follow a chain. -/
lemma EndsExpr.endsChain {s : List Char} (h : EndsExpr s) : EndsChain 0 s := by
  intro c hc
  have := h c hc
  simp only [List.mem_cons, List.not_mem_nil, or_false] at this
  rcases this with rfl | rfl | rfl | rfl | rfl <;> decide

/-- A character of a gap belongs to no name. -/
lemma isPart_of_isGap {c : Char} (h : Text.isGap c = true) : Identifier.isPart c = false := by
  simp only [Text.isGap, Bool.or_eq_true, beq_iff_eq] at h
  rcases h with ((rfl | rfl) | rfl) | rfl <;> decide

/-- A character of a name or a number is none of a gap, no bracket and no quote. -/
lemma ne_of_isPart {c : Char} (h : Identifier.isPart c = true) :
    Text.isGap c = false ∧ c ≠ '(' ∧ c ≠ '[' ∧ c ≠ '\x7b' ∧ c ≠ '"' ∧ c ≠ '\'' := by
  refine ⟨?_, ?_, ?_, ?_, ?_, ?_⟩
  · cases hgap : Text.isGap c with
    | false => rfl
    | true =>
      rw [isPart_of_isGap hgap] at h
      contradiction
  all_goals
    rintro rfl
    exact absurd h (by decide)

/-- No name begins with a digit. -/
lemma isDigit_of_isStart {c : Char} (h : Identifier.isStart c = true) : c.isDigit = false := by
  cases hd : c.isDigit with
  | false => rfl
  | true =>
    obtain ⟨hupper, hlower⟩ : c.isUpper = false ∧ c.isLower = false := by
      simp only [Char.isDigit, Char.isUpper, Char.isLower, Bool.and_eq_true, decide_eq_true_eq,
        Bool.and_eq_false_iff, decide_eq_false_iff_not, UInt32.le_iff_toNat_le, ge_iff_le] at hd ⊢
      have h9 : '9'.val.toNat = 57 := rfl
      have hA : 'A'.val.toNat = 65 := rfl
      have ha : 'a'.val.toNat = 97 := rfl
      omega
    have h₁ : c ≠ '_' := by rintro rfl; exact absurd hd (by decide)
    have h₂ : c ≠ '$' := by rintro rfl; exact absurd hd (by decide)
    simp [Identifier.isStart, Char.isAlpha, hupper, hlower, h₁, h₂] at h

/-- A text can follow a token if its first token does. -/
lemma endsToken_of_head {s : List Char}
    (h : ∀ c ∈ (skipGap s).head?, Identifier.isPart c = false ∧ c ≠ '.') : EndsToken s := by
  constructor
  · intro c hc
    rcases head?_cases s hc with hgap | hc
    · exact isPart_of_isGap hgap
    · exact (h c hc).1
  · rintro d r rfl
    exact absurd rfl (h '.' (by simp [skipGap_cons (show Text.isGap '.' = false by decide)])).2

/-- What can follow a chain can follow a token. -/
lemma EndsChain.endsToken {n : Nat} {s : List Char} (h : EndsChain n s) : EndsToken s :=
  endsToken_of_head fun c hc => ⟨(h c hc).1, (h c hc).2.1⟩

/-- The first token of a text behind a gap. -/
lemma head?_skipGap_append {g : List Char} (hg : IsGap g) {c : Char} (hc : Text.isGap c = false)
    (s : List Char) : (skipGap (g ++ c :: s)).head? = some c := by
  rw [skipGap_append hg, skipGap_cons hc, List.head?_cons]

/-- A token that begins like no name and is no point can follow a token. -/
lemma endsToken_of_cons {g : List Char} (hg : IsGap g) {c : Char} (hc : Text.isGap c = false)
    (h : Identifier.isPart c = false ∧ c ≠ '.') (s : List Char) : EndsToken (g ++ c :: s) := by
  refine endsToken_of_head fun d hd => ?_
  rw [head?_skipGap_append hg hc, Option.mem_def, Option.some.injEq] at hd
  exact hd ▸ h

/-- A token that cannot belong to a chain can follow it. -/
lemma endsChain_of_cons {n : Nat} {g : List Char} (hg : IsGap g) {c : Char}
    (hc : Text.isGap c = false) (h : Identifier.isPart c = false ∧ c ≠ '.' ∧ c ≠ '(' ∧ c ≠ '[' ∧
      infixStrength c ≤ n) (s : List Char) : EndsChain n (g ++ c :: s) := by
  intro d hd
  rw [head?_skipGap_append hg hc, Option.mem_def, Option.some.injEq] at hd
  exact hd ▸ h

/-- A token that closes something can follow an expression. -/
lemma endsExpr_of_cons {g : List Char} (hg : IsGap g) {c : Char}
    (h : c ∈ [')', ']', '\x7d', ',', ':']) (s : List Char) : EndsExpr (g ++ c :: s) := by
  have hc : Text.isGap c = false := by
    simp only [List.mem_cons, List.not_mem_nil, or_false] at h
    rcases h with rfl | rfl | rfl | rfl | rfl <;> decide
  intro d hd
  rw [head?_skipGap_append hg hc, Option.mem_def, Option.some.injEq] at hd
  exact hd ▸ h

/-- What ends an item of a list can follow an expression. -/
lemma endsExpr_of_endsItem {closing : Char} {s : List Char} (h : EndsItem closing s)
    (hc : closing ∈ [')', ']', '\x7d', ',', ':']) : EndsExpr s := by
  intro d hd
  rcases h d hd with rfl | rfl
  · decide
  · exact hc

/-- An operator begins with a character that tells its level. -/
lemma exists_of_mem_infixOperators {n : Nat} {op : String} (h : op ∈ infixOperators n) :
    ∃ c t, op.toList = c :: t ∧ infixStrength c = n + 1 ∧ Text.isGap c = false ∧
      Identifier.isPart c = false ∧ c ≠ '.' ∧ c ≠ '(' ∧ c ≠ '[' ∧
      (c = '=' → t.head? = some '=') := by
  unfold infixOperators at h
  split at h <;> simp only [List.mem_cons, List.not_mem_nil, or_false] at h
  · subst h; exact ⟨'|', ['|'], by decide⟩
  · subst h; exact ⟨'&', ['&'], by decide⟩
  · rcases h with rfl | rfl | rfl | rfl
    · exact ⟨'=', ['='], by decide⟩
    · exact ⟨'=', ['=', '='], by decide⟩
    · exact ⟨'!', ['='], by decide⟩
    · exact ⟨'!', ['=', '='], by decide⟩
  · rcases h with rfl | rfl | rfl | rfl
    · exact ⟨'<', [], by decide⟩
    · exact ⟨'<', ['='], by decide⟩
    · exact ⟨'>', [], by decide⟩
    · exact ⟨'>', ['='], by decide⟩
  · rcases h with rfl | rfl
    · exact ⟨'+', [], by decide⟩
    · exact ⟨'-', [], by decide⟩
  · rcases h with rfl | rfl | rfl
    · exact ⟨'*', [], by decide⟩
    · exact ⟨'/', [], by decide⟩
    · exact ⟨'%', [], by decide⟩

/-- There are no operators beyond the last level. -/
lemma lt_of_mem_infixOperators {n : Nat} {op : String} (h : op ∈ infixOperators n) : n < 6 := by
  obtain ⟨c, -, -, hc, -⟩ := exists_of_mem_infixOperators h
  have := infixStrength_le c
  omega

/-- An operator can follow the chains of the next level. -/
lemma endsChain_of_operator {n : Nat} {op : String} (h : op ∈ infixOperators n) {g : List Char}
    (hg : IsGap g) (s : List Char) : EndsChain (n + 1) (g ++ (op.toList ++ s)) := by
  obtain ⟨c, t, hop, hs, hgap, h₁, h₂, h₃, h₄, -⟩ := exists_of_mem_infixOperators h
  rw [hop, List.cons_append]
  exact endsChain_of_cons hg hgap ⟨h₁, h₂, h₃, h₄, hs.le⟩ _

/-- The beginning of a phrase is the next character. -/
lemma Starts.head {s : List Char} (h : Starts s) :
    ∃ c ∈ (skipGap s).head?, isPhraseStart c = true := by
  obtain ⟨g, c, t, hg, hc, rfl⟩ := h
  have hgap := isGap_of_isPhraseStart hc
  exact ⟨c, by rw [head?_skipGap_append hg hgap]; rfl, hc⟩

/-- A text that begins with no character for a phrase is not read by a scan of phrases. -/
lemma eq_none_of_head {α : Type} {scan : Scan α} {P : α → List Char → Prop} (h : Finds scan P)
    (hP : ∀ a t, P a t → Starts t) {g : List Char} (hg : IsGap g) {c : Char}
    (hc : Text.isGap c = false) (hstart : isPhraseStart c = false) (s : List Char) :
    scan (g ++ c :: s) = none := by
  cases hs : scan (g ++ c :: s) with
  | none => rfl
  | some ar =>
    obtain ⟨t, ht, ha⟩ := h hs
    obtain ⟨d, hd, hstart'⟩ := ((hP _ t ha).append ar.2).head
    rw [← ht, head?_skipGap_append hg hc, Option.mem_def, Option.some.injEq] at hd
    rw [← hd, hstart] at hstart'
    contradiction

/-! ## Tokens -/

/-- A name is read. -/
lemma identifier_append {x : String} (hx : IsName x) {rest : List Char}
    (hrest : ∀ c ∈ rest.head?, Identifier.isPart c = false) :
    identifier (x.toList ++ rest) = some (x, rest) := by
  obtain ⟨c, s, hxs, hc, hs⟩ := hx.exists_eq
  obtain ⟨htake, hdrop⟩ := span_append hs hrest
  rw [hxs, List.cons_append]
  simp only [identifier, hc, if_true, htake, hdrop, Option.some.injEq, Prod.mk.injEq, and_true]
  rw [← hxs, String.ofList_toList]

/-- No name is read where none begins. -/
lemma identifier_eq_none {s : List Char} (h : ∀ c ∈ s.head?, Identifier.isStart c = false) :
    identifier s = none := by
  cases s with
  | nil => rfl
  | cons c s => simp [identifier, h c rfl]

/-- A run of digits is read. -/
lemma digits_append {ds : List Char} (hds : IsNumeral ds) {rest : List Char}
    (hrest : ∀ c ∈ rest.head?, c.isDigit = false) : digits (ds ++ rest) = some (ds, rest) :=
  runOf_append hds.1 hds.2 hrest

/-- No digits are read where none begin. -/
lemma digits_eq_none {s : List Char} (h : ∀ c ∈ s.head?, c.isDigit = false) : digits s = none :=
  runOf_eq_none h

/-- What can follow a token begins with no digit. -/
lemma EndsToken.not_digit {s : List Char} (h : EndsToken s) : ∀ c ∈ s.head?, c.isDigit = false := by
  intro c hc
  cases hd : c.isDigit with
  | false => rfl
  | true =>
    have := h.1 c hc
    rw [isPart_of_isDigit hd] at this
    contradiction

/-- A whole number is read as no decimal. -/
lemma decimal_eq_none {ds : List Char} (hds : IsNumeral ds) {rest : List Char}
    (hrest : EndsToken rest) : decimal (ds ++ rest) = none := by
  simp only [decimal, digits_append hds hrest.not_digit, bind, Option.bind_some]
  cases rest with
  | nil => rfl
  | cons c rest =>
    by_cases hc : c = '.'
    · subst hc
      have hnone : digits rest = none := by
        refine digits_eq_none fun d hd => ?_
        cases rest with
        | nil => simp at hd
        | cons d' rest =>
          obtain rfl : d' = d := by simpa using hd
          exact hrest.2 d' rest rfl
      simp [hnone]
    · simp [hc]

/-- No number is read where no digit stands. -/
lemma number_eq_none {s : List Char} (h : ∀ c ∈ s.head?, c.isDigit = false) :
    decimal s = none ∧ wholeNumber s = none := by
  have hdigits := digits_eq_none h
  exact ⟨by simp [decimal, hdigits], by simp [wholeNumber, hdigits]⟩

/-- A quoted text is read up to the closing quote.

**Proof sketch.** Induction on the quoted text.  Behind a character there is at least the closing
quote, so the reader sees two characters at every step. -/
lemma quotedText_append {quote : Char} (hquote : quote ≠ '\\') {s cs : List Char}
    (h : QuotedText quote s cs) (rest : List Char) :
    quotedText quote (s ++ quote :: rest) = some (cs, rest) := by
  induction h with
  | nil => cases rest <;> simp [quotedText]
  | @plain c s cs hq hb _ ih =>
    cases hs : s ++ quote :: rest with
    | nil => simp at hs
    | cons d u =>
      rw [List.cons_append, hs]
      simp only [quotedText, hq, hb, if_false]
      rw [← hs, ih]
      rfl
  | @escaped c d s cs hcd _ ih =>
    have hd : unescape c = d := by
      cases hcd with
      | lineFeed => rfl
      | tab => rfl
      | carriageReturn => rfl
      | nul => rfl
      | other hn ht hr h0 => simp [unescape, hn, ht, hr, h0]
    simp only [List.cons_append, quotedText, hquote.symm, if_false, if_true, ih, hd,
      Option.map_some]

/-- A string literal is read. -/
lemma stringLiteral_append {x : String} {s : List Char} (h : StringLiteral x s)
    (rest : List Char) : stringLiteral (s ++ rest) = some (x, rest) := by
  obtain ⟨quote, t, hq, ht, rfl⟩ := h
  have hquote : quote ≠ '\\' := by rcases hq with rfl | rfl <;> decide
  have hread : quotedString quote (quote :: (t ++ quote :: rest)) = some (x, rest) := by
    simp [quotedString, quotedText_append hquote ht]
  rw [show quote :: t ++ [quote] ++ rest = quote :: (t ++ quote :: rest) by simp, stringLiteral]
  rcases hq with rfl | rfl
  · rw [hread]
    rfl
  · rw [hread]
    rfl

/-- No string literal is read where no quote stands. -/
lemma stringLiteral_eq_none {s : List Char} (h : ∀ c ∈ s.head?, c ≠ '"' ∧ c ≠ '\'') :
    stringLiteral s = none := by
  have hnone : ∀ quote, (∀ c ∈ s.head?, c ≠ quote) → quotedString quote s = none := by
    intro quote hq
    simp [quotedString, after?_eq_none_of_head hq]
  simp [stringLiteral, hnone '"' fun c hc => (h c hc).1, hnone '\'' fun c hc => (h c hc).2]

/-- No list is read where its opening bracket does not stand. -/
lemma bracketed_eq_none {α : Type} {opening closing : Char} {item : Scan α} {s : List Char}
    (h : ∀ c ∈ s.head?, c ≠ opening) : bracketed opening closing item s = none := by
  simp [bracketed, after?_eq_none_of_head h]

/-- No list is read where another character stands. -/
lemma bracketed_cons_eq_none {α : Type} {opening closing c : Char} {item : Scan α}
    (h : c ≠ opening) (s : List Char) : bracketed opening closing item (c :: s) = none :=
  bracketed_eq_none fun d hd => by
    obtain rfl : c = d := by simpa using hd
    exact h

end LambdaQuery.Grammar
