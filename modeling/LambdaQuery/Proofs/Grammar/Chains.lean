import LambdaQuery.Proofs.Grammar.Follow

/-!
# Chains are read

A chain that the grammar derives is read as a whole, with the tree of the derivation, provided that
what follows it cannot belong to it and that the expressions nested in it are read.

Operators of one level and suffixes group to the left, while the parser reads the first operand and
then repeats.  A phrase of this kind is therefore followed by more pieces of the same kind until the
last one, and the statements about them say what the repetition makes of the text that follows.

## Main definitions

* `LambdaQuery.Grammar.Reads` — the scan reads all expressions up to a length.
* `LambdaQuery.Grammar.ReadsChain`, `LambdaQuery.Grammar.Continues` — a text is read as a chain, or
  as the beginning of one.

## Main results

* `LambdaQuery.Grammar.bracketed_expr` — a list of expressions in brackets is read.
* `LambdaQuery.Grammar.readsPhrase_of_derives` — the phrases that make up a chain are read.
-/

set_option autoImplicit false

namespace LambdaQuery.Grammar

open Scan LambdaQuery.Expr

/-! ## Primary expressions -/

/-- The scan reads all expressions up to a length. -/
def Reads (sub : Scan Expr) (n : Nat) : Prop :=
  ∀ ⦃e t⦄, Derives (.expr e) t → t.length ≤ n → ∀ rest, EndsExpr rest →
    sub (t ++ rest) = some (e, rest)

section Primary

variable {sub : Scan Expr}

/-- The alternatives of a primary expression that begin with no bracket. -/
lemma primary_of_no_bracket {g s : List Char} (hg : IsGap g)
    (hs : ∀ c ∈ s.head?, Text.isGap c = false ∧ c ≠ '(' ∧ c ≠ '[' ∧ c ≠ '\x7b') (hne : s ≠ []) :
    primary sub (g ++ s) =
      ((decimal s).map (Prod.map .literal id) <|> (wholeNumber s).map (Prod.map .literal id)
        <|> (stringLiteral s).map (Prod.map (fun t => .literal (.string t)) id)
        <|> (identifier s).map (Prod.map ofWord id)) := by
  obtain ⟨c, u, rfl⟩ := List.exists_cons_of_ne_nil hne
  obtain ⟨hgap, h₁, h₂, h₃⟩ := hs c rfl
  simp only [primary, skipGap_append hg, skipGap_cons hgap, bracketed_cons_eq_none h₁,
    bracketed_cons_eq_none h₂, bracketed_cons_eq_none h₃, Option.map_none]
  rfl

/-- A word is read, with its meaning. -/
lemma primary_word {g rest : List Char} {x : String} (hg : IsGap g) (hx : IsName x)
    (hrest : EndsToken rest) : primary sub (g ++ (x.toList ++ rest)) = some (ofWord x, rest) := by
  have hread := identifier_append hx hrest.1
  obtain ⟨c, u, hxs, hc, -⟩ := hx.exists_eq
  obtain ⟨hgap, h₁, h₂, h₃, h₄, h₅⟩ := ne_of_isPart (isPart_of_isStart hc)
  have hhead : ∀ d ∈ (x.toList ++ rest).head?, d = c := by
    intro d hd
    rw [hxs, List.cons_append, List.head?_cons, Option.mem_def, Option.some.injEq] at hd
    exact hd.symm
  obtain ⟨hdec, hwhole⟩ := number_eq_none fun d hd => hhead d hd ▸ isDigit_of_isStart hc
  rw [primary_of_no_bracket hg (fun d hd => hhead d hd ▸ ⟨hgap, h₁, h₂, h₃⟩) (by simp [hxs]), hdec,
    hwhole, stringLiteral_eq_none fun d hd => hhead d hd ▸ ⟨h₄, h₅⟩, hread]
  rfl

/-- The meaning of a word that is no literal is a variable. -/
lemma ofWord_of_not_mem_keywords {x : String} (h : ∀ v, (x, v) ∉ keywords) :
    ofWord x = .variable x := by
  have h₁ : x ≠ "true" := by rintro rfl; exact h (.bool true) (by simp [keywords])
  have h₂ : x ≠ "false" := by rintro rfl; exact h (.bool false) (by simp [keywords])
  have h₃ : x ≠ "null" := by rintro rfl; exact h .null (by simp [keywords])
  have h₄ : x ≠ "undefined" := by rintro rfl; exact h .null (by simp [keywords])
  simp [ofWord, h₁, h₂, h₃, h₄]

/-- A token that is an expression by itself is read. -/
lemma primary_atom {g s rest : List Char} {e : Expr} (hg : IsGap g) (h : Atom e s)
    (hrest : EndsToken rest) : primary sub (g ++ s ++ rest) = some (e, rest) := by
  have hnumeral : ∀ {ds : List Char}, IsNumeral ds → ∀ r, ∀ c ∈ (ds ++ r).head?,
      Text.isGap c = false ∧ c ≠ '(' ∧ c ≠ '[' ∧ c ≠ '\x7b' := by
    intro ds hds r c hc
    obtain ⟨d, u, rfl⟩ := List.exists_cons_of_ne_nil hds.1
    obtain rfl : d = c := by simpa using hc
    obtain ⟨hgap, h₁, h₂, h₃, -⟩ := ne_of_isPart (isPart_of_isDigit (hds.2 d (by simp)))
    exact ⟨hgap, h₁, h₂, h₃⟩
  rw [List.append_assoc]
  cases h with
  | @whole ds hds hlt =>
    have hread : wholeNumber (s ++ rest) =
        some (.int (Int64.ofNat (Text.numberOfDigits s)), rest) := by
      simp only [wholeNumber, digits_append hds hrest.not_digit, bind, Option.bind_some, pure]
      exact if_pos hlt
    rw [primary_of_no_bracket hg (hnumeral hds rest) (by simp [hds.1]), decimal_eq_none hds hrest,
      hread]
    rfl
  | @decimal ws ds hws hds =>
    have hwhole : digits (ws ++ '.' :: (ds ++ rest)) = some (ws, '.' :: (ds ++ rest)) :=
      digits_append hws (by simp)
    have hread : decimal (ws ++ '.' :: (ds ++ rest)) =
        some (.float (Binary64.ofDecimal ws ds), rest) := by
      simp [decimal, hwhole, digits_append hds hrest.not_digit]
    rw [List.append_assoc, List.cons_append, primary_of_no_bracket hg (hnumeral hws _) (by simp),
      hread]
    rfl
  | @string x s hs =>
    have hread := stringLiteral_append hs rest
    obtain ⟨quote, t, hq, -, rfl⟩ := hs
    have hhead : ∀ c ∈ (quote :: t ++ [quote] ++ rest).head?, c = quote := by
      intro c hc
      simpa using hc.symm
    obtain ⟨h₁, h₂, h₃, h₄, h₅⟩ : Text.isGap quote = false ∧ quote ≠ '(' ∧ quote ≠ '[' ∧
        quote ≠ '\x7b' ∧ quote.isDigit = false := by
      rcases hq with rfl | rfl <;> decide
    obtain ⟨hdec, hwhole⟩ := number_eq_none fun d hd => hhead d hd ▸ h₅
    rw [primary_of_no_bracket hg (fun c hc => hhead c hc ▸ ⟨h₁, h₂, h₃, h₄⟩) (by simp), hdec,
      hwhole, hread]
    rfl
  | @keyword w v hw =>
    rw [primary_word hg (isName_of_mem_keywords hw) hrest]
    simp only [keywords, List.mem_cons, Prod.mk.injEq, List.not_mem_nil, or_false] at hw
    rcases hw with ⟨rfl, rfl⟩ | ⟨rfl, rfl⟩ | ⟨rfl, rfl⟩ | ⟨rfl, rfl⟩ <;> rfl
  | @«variable» x hx hkey => rw [primary_word hg hx hrest, ofWord_of_not_mem_keywords hkey]

/-- No primary expression is read where a sign stands. -/
lemma primary_eq_none_of_sign {s : List Char} {op : String} {r : List Char}
    (h : sign s = some (op, r)) : primary sub s = none := by
  obtain ⟨_, rfl, hop, g, hg, rfl⟩ := finds_sign h
  simp only [Operator.signs, List.mem_cons, List.not_mem_nil, or_false] at hop
  obtain ⟨c, hc, h₁, h₂, h₃, h₄, h₅⟩ : ∃ c, op.toList = [c] ∧
      (Text.isGap c = false ∧ c ≠ '(' ∧ c ≠ '[' ∧ c ≠ '\x7b') ∧ c.isDigit = false ∧
      c ≠ '"' ∧ c ≠ '\'' ∧ Identifier.isStart c = false := by
    rcases hop with rfl | rfl | rfl
    · exact ⟨'!', by decide⟩
    · exact ⟨'-', by decide⟩
    · exact ⟨'+', by decide⟩
  have hhead : ∀ d ∈ (op.toList ++ r).head?, d = c := by
    intro d hd
    simpa [hc] using hd.symm
  obtain ⟨hdec, hwhole⟩ := number_eq_none fun d hd => hhead d hd ▸ h₂
  rw [List.append_assoc, primary_of_no_bracket hg (fun d hd => hhead d hd ▸ h₁) (by simp [hc]),
    hdec, hwhole, stringLiteral_eq_none fun d hd => hhead d hd ▸ ⟨h₃, h₄⟩,
    identifier_eq_none fun d hd => hhead d hd ▸ h₅]
  rfl

end Primary

section Productions

variable {sub : Scan Expr} (hsub : Finds sub fun e t => Derives (.expr e) t) {n : Nat}
  (hread : Reads sub n)

include hsub in
/-- A scan of expressions shortens its text. -/
lemma shortens_expr : Shortens sub := hsub.shortens fun _ _ h => h.ne_nil

include hsub hread in
/-- A list of expressions in brackets is read. -/
lemma bracketed_expr (opening : Char) {closing : Char} (hc : closing = ')' ∨ closing = ']')
    {ps : List (Expr × List Char)} {t h : List Char} (hps : ∀ p ∈ ps, Derives (.expr p.1) p.2)
    (ht : CommaList (ps.map Prod.snd) t) (hh : IsGap h) (hlen : t.length ≤ n) (rest : List Char) :
    bracketed opening closing sub (opening :: (t ++ (h ++ closing :: rest))) =
      some (ps.map Prod.fst, rest) := by
  have hgap : Text.isGap closing = false := by rcases hc with rfl | rfl <;> decide
  have hcomma : closing ≠ ',' := by rcases hc with rfl | rfl <;> decide
  have hmem : closing ∈ [')', ']', '\x7d', ',', ':'] := by rcases hc with rfl | rfl <;> decide
  have hnone : sub (h ++ closing :: rest) = none :=
    eq_none_of_head hsub (fun _ _ h => h.starts) hh hgap
      (by rcases hc with rfl | rfl <;> decide) rest
  have hitems : ∀ p ∈ ps, ∀ r, EndsItem closing r → sub (p.2 ++ r) = some (p.1, r) := by
    intro p hp r hr
    have := ht.length_le p.2 (List.mem_map_of_mem hp)
    exact hread (hps p hp) (by omega) r (endsExpr_of_endsItem hr hmem)
  simpa using bracketed_append (shortens_expr hsub) hgap hcomma hh hnone opening ht hitems

include hread in
/-- A member of an object is read. -/
lemma namedMember_append {x : String} {e : Expr} {t : List Char} (h : Derives (.member x e) t)
    (hlen : t.length ≤ n + 1) {rest : List Char} (hrest : EndsExpr rest) :
    namedMember sub (t ++ rest) = some ((x, e), rest) := by
  cases h with
  | @named _ _ g k h s hg hk hh he =>
    have hgap : Text.isGap ':' = false := by decide
    have hends : EndsToken (h ++ ':' :: (s ++ rest)) :=
      endsToken_of_cons hh hgap (by decide) _
    have hkey : skipGap (k ++ (h ++ ':' :: (s ++ rest))) = k ++ (h ++ ':' :: (s ++ rest)) ∧
        (identifier (k ++ (h ++ ':' :: (s ++ rest))) <|>
          stringLiteral (k ++ (h ++ ':' :: (s ++ rest)))) =
            some (x, h ++ ':' :: (s ++ rest)) := by
      cases hk with
      | word hx =>
        obtain ⟨c, u, hxs, hc, -⟩ := hx.exists_eq
        refine ⟨?_, by rw [identifier_append hx hends.1]; rfl⟩
        rw [hxs, List.cons_append, skipGap_cons (ne_of_isPart (isPart_of_isStart hc)).1]
      | string hs =>
        have hstring := stringLiteral_append hs (h ++ ':' :: (s ++ rest))
        obtain ⟨quote, u, hq, -, rfl⟩ := hs
        have hnone : identifier (quote :: u ++ [quote] ++ (h ++ ':' :: (s ++ rest))) = none := by
          refine identifier_eq_none fun c hc => ?_
          obtain rfl : quote = c := by simpa using hc
          rcases hq with rfl | rfl <;> decide
        refine ⟨?_, by rw [hnone, hstring]; rfl⟩
        simp only [List.cons_append]
        exact skipGap_cons (by rcases hq with rfl | rfl <;> decide) _
    have hcolon : token [':'] (h ++ ':' :: (s ++ rest)) = some (s ++ rest) := by
      simpa using token_append hh hgap [] (s ++ rest)
    have hvalue : sub (s ++ rest) = some (e, rest) := by
      refine hread he ?_ rest hrest
      simp only [List.length_append, List.length_cons] at hlen
      omega
    rw [show g ++ k ++ h ++ ':' :: s ++ rest = g ++ (k ++ (h ++ ':' :: (s ++ rest))) by simp]
    simp only [namedMember, skipGap_append hg, hkey.1, hkey.2, bind, Option.bind_some, hcolon,
      hvalue, pure]

include hsub hread in
/-- A primary expression is read. -/
lemma primary_append {e : Expr} {t : List Char} (h : Derives (.primary e) t)
    (hlen : t.length ≤ n + 1) {rest : List Char} (hrest : EndsToken rest) :
    primary sub (t ++ rest) = some (e, rest) := by
  cases h with
  | @group ps g u h hg hps hu hh =>
    have hlist := bracketed_expr hsub hread '(' (.inl rfl) hps hu hh (by
      simp only [List.length_append, List.length_cons] at hlen
      omega) rest
    rw [show g ++ '(' :: u ++ h ++ [')'] ++ rest = g ++ '(' :: (u ++ (h ++ ')' :: rest)) by simp]
    simp only [primary, skipGap_append hg, skipGap_cons (show Text.isGap '(' = false by decide),
      hlist]
    rfl
  | @array ps g u h hg hps hu hh =>
    have hlist := bracketed_expr hsub hread '[' (.inr rfl) hps hu hh (by
      simp only [List.length_append, List.length_cons] at hlen
      omega) rest
    rw [show g ++ '[' :: u ++ h ++ [']'] ++ rest = g ++ '[' :: (u ++ (h ++ ']' :: rest)) by simp]
    simp only [primary, skipGap_append hg, skipGap_cons (show Text.isGap '[' = false by decide),
      bracketed_cons_eq_none (show '[' ≠ '(' by decide), hlist]
    rfl
  | @object ps g u h hg hps hu hh =>
    have hgap : Text.isGap '\x7d' = false := by decide
    have hmembers : Finds (namedMember sub) fun m t => Derives (.member m.1 m.2) t :=
      finds_namedMember hsub
    have hnone : namedMember sub (h ++ '\x7d' :: rest) = none :=
      eq_none_of_head hmembers (fun _ _ h => h.starts) hh hgap (by decide) rest
    have hitems : ∀ p ∈ ps, ∀ r, EndsItem '\x7d' r →
        namedMember sub (p.2 ++ r) = some (p.1, r) := by
      intro p hp r hr
      have := hu.length_le p.2 (List.mem_map_of_mem hp)
      refine namedMember_append hread (hps p hp) ?_ (endsExpr_of_endsItem hr (by decide))
      simp only [List.length_append, List.length_cons] at hlen
      omega
    have hlist := bracketed_append (hmembers.shortens fun _ _ h => h.ne_nil) hgap (by decide) hh
      hnone '\x7b' hu hitems
    rw [show g ++ '\x7b' :: u ++ h ++ ['\x7d'] ++ rest =
      g ++ '\x7b' :: u ++ h ++ '\x7d' :: rest by simp, List.append_assoc, List.append_assoc]
    rw [List.append_assoc] at hlist
    simp only [primary, skipGap_append hg, List.cons_append,
      skipGap_cons (show Text.isGap '\x7b' = false by decide),
      bracketed_cons_eq_none (show '\x7b' ≠ '(' by decide),
      bracketed_cons_eq_none (show '\x7b' ≠ '[' by decide)]
    rw [← List.cons_append, hlist]
    rfl
  | atom hg ha => exact primary_atom hg ha hrest

/-! ## What applies to an expression -/

/-- A point and the name of a member can follow a token. -/
lemma endsToken_access {g h : List Char} {x : String} (hg : IsGap g) (hh : IsGap h) (hx : IsName x)
    (s : List Char) : EndsToken (g ++ '.' :: (h ++ (x.toList ++ s))) := by
  cases g with
  | cons c g =>
    have hc : Text.isGap c = true := hg c (by simp)
    refine ⟨fun d hd => ?_, fun d r hd => ?_⟩
    · obtain rfl : c = d := by simpa using hd
      exact isPart_of_isGap hc
    · obtain ⟨rfl, -⟩ := List.cons.inj hd
      exact absurd hc (by decide)
  | nil =>
    refine ⟨by simp [show Identifier.isPart '.' = false by decide], fun d r hd => ?_⟩
    obtain ⟨-, hd⟩ := List.cons.inj hd
    obtain ⟨c, u, hxs, hc, -⟩ := hx.exists_eq
    cases h with
    | nil =>
      rw [hxs] at hd
      obtain ⟨rfl, -⟩ := List.cons.inj hd
      exact isDigit_of_isStart hc
    | cons b h =>
      obtain ⟨rfl, -⟩ := List.cons.inj hd
      have hb := isPart_of_isGap (hh b (by simp))
      cases hdigit : b.isDigit with
      | false => rfl
      | true =>
        rw [isPart_of_isDigit hdigit] at hb
        contradiction

/-- The access to a member is read. -/
lemma suffix_access {g h : List Char} {x : String} (hg : IsGap g) (hh : IsGap h) (hx : IsName x)
    {rest : List Char} (hrest : EndsToken rest) :
    suffix sub (g ++ '.' :: (h ++ (x.toList ++ rest))) = some (.member x, rest) := by
  have hskip : skipGap (h ++ (x.toList ++ rest)) = x.toList ++ rest := by
    obtain ⟨c, u, hxs, hc, -⟩ := hx.exists_eq
    rw [skipGap_append hh, hxs, List.cons_append,
      skipGap_cons (ne_of_isPart (isPart_of_isStart hc)).1]
  have hmember : memberSuffix ('.' :: (h ++ (x.toList ++ rest))) = some (.member x, rest) := by
    simp only [memberSuffix, after?_singleton_cons, if_true, bind, Option.bind_some, hskip,
      identifier_append hx hrest.1, pure]
  simp only [suffix, skipGap_append hg, skipGap_cons (show Text.isGap '.' = false by decide),
    hmember]
  rfl

include hsub hread in
/-- A call is read. -/
lemma suffix_call {ps : List (Expr × List Char)} {g t h : List Char} (hg : IsGap g)
    (hps : ∀ p ∈ ps, Derives (.expr p.1) p.2) (ht : CommaList (ps.map Prod.snd) t) (hh : IsGap h)
    (hlen : t.length ≤ n) (rest : List Char) :
    suffix sub (g ++ '(' :: (t ++ (h ++ ')' :: rest))) = some (.call (ps.map Prod.fst), rest) := by
  have hmember : memberSuffix ('(' :: (t ++ (h ++ ')' :: rest))) = none := by
    simp [memberSuffix, after?_singleton_cons]
  simp only [suffix, skipGap_append hg, skipGap_cons (show Text.isGap '(' = false by decide),
    hmember, bracketed_expr hsub hread '(' (.inl rfl) hps ht hh hlen rest]
  rfl

include hread in
/-- The access to an element is read. -/
lemma suffix_index {k : Expr} {g t h : List Char} (hg : IsGap g) (ht : Derives (.expr k) t)
    (hh : IsGap h) (hlen : t.length ≤ n) (rest : List Char) :
    suffix sub (g ++ '[' :: (t ++ (h ++ ']' :: rest))) = some (.index k, rest) := by
  have hmember : memberSuffix ('[' :: (t ++ (h ++ ']' :: rest))) = none := by
    simp [memberSuffix, after?_singleton_cons]
  have hclose : token [']'] (h ++ ']' :: rest) = some rest := by
    simpa using token_append hh (show Text.isGap ']' = false by decide) [] rest
  have hkey : sub (t ++ (h ++ ']' :: rest)) = some (k, h ++ ']' :: rest) :=
    hread ht hlen _ (endsExpr_of_cons hh (by decide) rest)
  have hindex : indexSuffix sub ('[' :: (t ++ (h ++ ']' :: rest))) = some (.index k, rest) := by
    simp only [indexSuffix, after?_singleton_cons, if_true, bind, Option.bind_some, hkey, hclose,
      pure]
  simp only [suffix, skipGap_append hg, skipGap_cons (show Text.isGap '[' = false by decide),
    hmember, bracketed_cons_eq_none (show '[' ≠ '(' by decide), hindex]
  rfl

/-- Nothing applies to an expression behind its chain. -/
lemma suffix_eq_none {level : Nat} {s : List Char} (h : EndsChain level s) :
    suffix sub s = none := by
  have hmember : memberSuffix (skipGap s) = none := by
    simp [memberSuffix, after?_eq_none_of_head fun c hc => (h c hc).2.1]
  have hindex : indexSuffix sub (skipGap s) = none := by
    simp [indexSuffix, after?_eq_none_of_head fun c hc => (h c hc).2.2.2.1]
  simp only [suffix, hmember, hindex, bracketed_eq_none fun c hc => (h c hc).2.2.1]
  rfl

include hsub in
/-- A scan of suffixes shortens its text. -/
lemma shortens_suffix : Shortens (suffix sub) :=
  (finds_suffix hsub).shortens fun _ _ h => h.1

/-! ## Signs -/

/-- A sign is read. -/
lemma sign_append {op : String} (hop : op ∈ Operator.signs) {g : List Char} (hg : IsGap g)
    (s : List Char) : sign (g ++ (op.toList ++ s)) = some (op, s) := by
  simp only [Operator.signs, List.mem_cons, List.not_mem_nil, or_false] at hop
  rcases hop with rfl | rfl | rfl <;>
    simp [sign, skipGap_append hg, skipGap_cons, oneOf, Operator.signs, Text.isGap]

/-- A scan of signs shortens its text. -/
lemma shortens_sign : Shortens sign := by
  refine finds_sign.shortens fun op t ht => ?_
  obtain ⟨hop, g, -, rfl⟩ := ht
  simp only [Operator.signs, List.mem_cons, List.not_mem_nil, or_false] at hop
  rcases hop with rfl | rfl | rfl <;> simp

/-- An operand behind a sign. -/
lemma signed_of_sign {s r : List Char} {op : String} (h : sign s = some (op, r)) :
    signed sub s = (signed sub r).map (Prod.map (.unary op) id) := by
  simp only [signed, many_of_some shortens_sign h, bind]
  cases applied sub (many sign r).2 with
  | none => rfl
  | some er => rfl

/-- An operand behind no sign. -/
lemma signed_of_applied {s r : List Char} {e : Expr} (h : applied sub s = some (e, r)) :
    signed sub s = some (e, r) := by
  have hnone : sign s = none := by
    cases hs : sign s with
    | none => rfl
    | some opr =>
      obtain ⟨op, r'⟩ := opr
      simp [applied, primary_eq_none_of_sign hs] at h
  simp only [signed, many_of_none hnone, h, bind, Option.bind_some, pure, List.foldr_nil]

/-! ## Chains of operators -/

/-- An operator and its operand shorten the text if the operand does. -/
lemma shortens_operation {ops : List String} {operand : Scan Expr} (h : Shortens operand) :
    Shortens (Expr.operation ops operand) := by
  intro s oe r hoe
  simp only [Expr.operation, bind, Option.bind_eq_some_iff] at hoe
  obtain ⟨⟨op, s₁⟩, hop, ⟨e, s₂⟩, he, hoe⟩ := hoe
  simp only [pure, Option.some.injEq, Prod.mk.injEq] at hoe
  obtain ⟨-, rfl⟩ := hoe
  obtain ⟨-, hs⟩ := exists_of_oneOf hop
  have hgap := length_skipGap_le s
  have hlt : s₂.length < s₁.length := h he
  rw [hs, List.length_append] at hgap
  omega

/-- A phrase begins with no equality sign, so the operator before it is not read too long. -/
lemma Starts.ne_equals {s : List Char} (h : Starts s) : ∀ c ∈ s.head?, c ≠ '=' := by
  rintro c hc rfl
  obtain ⟨d, hd, hstart⟩ := h.head
  rcases head?_cases s hc with hgap | hc
  · exact absurd hgap (by decide)
  · obtain rfl : '=' = d := Option.mem_unique hc hd
    exact absurd hstart (by decide)

/-- An operator is read, the longest one that stands there. -/
lemma oneOf_append {k : Nat} {op : String} (hop : op ∈ infixOperators k) {s : List Char}
    (hs : ∀ c ∈ s.head?, c ≠ '=') :
    oneOf (Operator.levels.getD k []) (op.toList ++ s) = some (op, s) := by
  have hlonger : ∀ t, after? ('=' :: t) s = none := fun t => after?_eq_none_of_head hs
  unfold infixOperators at hop
  split at hop <;> simp only [List.mem_cons, List.not_mem_nil, or_false] at hop
  · subst hop
    simp [oneOf, Operator.levels, after?]
  · subst hop
    simp [oneOf, Operator.levels, after?]
  · rcases hop with rfl | rfl | rfl | rfl <;> simp [oneOf, Operator.levels, after?, hlonger]
  · rcases hop with rfl | rfl | rfl | rfl <;> simp [oneOf, Operator.levels, after?, hlonger]
  · rcases hop with rfl | rfl <;> simp [oneOf, Operator.levels]
  · rcases hop with rfl | rfl | rfl <;> simp [oneOf, Operator.levels]

/-- No operation of a level is read behind a chain of that level. -/
lemma operation_eq_none {k : Nat} {operand : Scan Expr} {s : List Char} (h : EndsChain k s) :
    operation (Operator.levels.getD k []) operand s = none := by
  have hnone : oneOf (Operator.levels.getD k []) (skipGap s) = none := by
    refine oneOf_eq_none fun op hop => ?_
    obtain ⟨c, t, hct, hc, -⟩ := exists_of_mem_infixOperators (mem_levels_iff.1 hop)
    refine ⟨c, t, hct, ?_⟩
    rintro d hd rfl
    have := (h d hd).2.2.2.2
    omega
  simp only [operation, hnone, bind, Option.bind_none]

/-- The operations of the level that are read from a text. -/
def operations (sub : Scan Expr) (k : Nat) (s : List Char) : List (String × Expr) × List Char :=
  many (operation (Operator.levels.getD k []) (operands sub (k + 1))) s

/-- The text is read as a chain of the level, if what follows can follow one. -/
def ReadsChain (sub : Scan Expr) (k : Nat) (e : Expr) (t : List Char) : Prop :=
  ∀ rest, EndsChain k rest → operands sub k (t ++ rest) = some (e, rest)

/-- The text is read as the beginning of a chain of the level: what follows can follow a chain of
the next level, and the operations that are read from it apply to the expression. -/
def Continues (sub : Scan Expr) (k : Nat) (e : Expr) (t : List Char) : Prop :=
  ∀ rest, EndsChain (k + 1) rest → operands sub k (t ++ rest) =
    some ((operations sub k rest).1.foldl (fun a o => .binary o.1 a o.2) e,
      (operations sub k rest).2)

/-- A chain of the next level is the first operand of a chain. -/
lemma ReadsChain.continues {k : Nat} {e : Expr} {t : List Char} (h : ReadsChain sub (k + 1) e t) :
    Continues sub k e t := by
  intro rest hrest
  rw [operands_eq]
  simp only [Expr.chain, h rest hrest, bind, Option.bind_some, pure]
  rfl

/-- The beginning of a chain is a chain if no operation follows. -/
lemma Continues.readsChain {k : Nat} {e : Expr} {t : List Char} (h : Continues sub k e t) :
    ReadsChain sub k e t := by
  intro rest hrest
  have hnone : operations sub k rest = ([], rest) := many_of_none (operation_eq_none hrest)
  rw [h rest (hrest.mono (Nat.le_succ k)), hnone]
  rfl

/-- What begins a chain of a level begins one of every looser level.

**Proof sketch.** One level at a time: what begins a chain is a chain where no operation follows,
and a chain is an operand of the level before. -/
lemma Continues.mono {m k : Nat} (hmk : m ≤ k) {e : Expr} {t : List Char}
    (h : Continues sub k e t) : Continues sub m e t := by
  induction k, hmk using Nat.le_induction with
  | base => exact h
  | succ k _ ih => exact ih h.readsChain.continues

/-- An operand with signs begins a chain of every level. -/
lemma continues_of_signed {e : Expr} {t : List Char}
    (h : ∀ rest, EndsChain 6 rest → signed sub (t ++ rest) = some (e, rest)) (m : Nat) :
    Continues sub m e t := by
  have hlast : ReadsChain sub (m + 5 + 1) e t := by
    intro rest hrest
    have hsigned : operands sub (m + 5 + 1) = signed sub := by simp [operands, Operator.levels]
    rw [hsigned]
    refine h rest fun c hc => ?_
    obtain ⟨h₁, h₂, h₃, h₄, -⟩ := hrest c hc
    exact ⟨h₁, h₂, h₃, h₄, infixStrength_le c⟩
  exact hlast.continues.mono (by omega)

include hsub in
/-- One more operation goes on with a chain. -/
lemma Continues.operation {k : Nat} {op : String} {a b : Expr} {s g t : List Char}
    (hop : op ∈ infixOperators k) (ha : Continues sub k a s) (hg : IsGap g)
    (hb : ReadsChain sub (k + 1) b t) (ht : Starts t) :
    Continues sub k (.binary op a b) (s ++ g ++ op.toList ++ t) := by
  intro rest hrest
  have hk := lt_of_mem_infixOperators hop
  have hskip : skipGap (g ++ (op.toList ++ (t ++ rest))) = op.toList ++ (t ++ rest) := by
    obtain ⟨c, u, hcu, -, hgap, -⟩ := exists_of_mem_infixOperators hop
    rw [skipGap_append hg, hcu, List.cons_append, skipGap_cons hgap]
  have hpiece : Expr.operation (Operator.levels.getD k []) (operands sub (k + 1))
      (g ++ (op.toList ++ (t ++ rest))) = some ((op, b), rest) := by
    simp only [Expr.operation, hskip, oneOf_append hop (ht.append rest).ne_equals, hb rest hrest,
      bind, Option.bind_some, pure]
  have hshort : Shortens (Expr.operation (Operator.levels.getD k []) (operands sub (k + 1))) :=
    shortens_operation ((finds_operands hsub (by omega)).shortens fun _ _ h => h.ne_nil)
  rw [show s ++ g ++ op.toList ++ t ++ rest = s ++ (g ++ (op.toList ++ (t ++ rest))) by simp,
    ha _ (endsChain_of_operator hop hg _), operations, many_of_some hshort hpiece]
  rfl

/-! ## Chains are read -/

/-- What the parser does with the text of a phrase that is part of a chain. -/
def ReadsPhrase (sub : Scan Expr) : Phrase → List Char → Prop
  | .chain level e, t => Continues sub level e t
  | .signed e, t => ∀ rest, EndsChain 6 rest → signed sub (t ++ rest) = some (e, rest)
  | .applied e, t => ∀ rest, EndsToken rest → applied sub (t ++ rest) =
      some ((many (suffix sub) rest).1.foldl Suffix.apply e, (many (suffix sub) rest).2)
  | .primary e, t => ∀ rest, EndsToken rest → primary sub (t ++ rest) = some (e, rest)
  | .expr _, _ => True
  | .member _ _, _ => True

include hsub in
/-- One more suffix applies to an expression. -/
lemma ReadsPhrase.applied_append {e : Expr} {s u : List Char} {p : Suffix}
    (he : ReadsPhrase sub (.applied e) s)
    (hu : ∀ rest, EndsToken rest →
      EndsToken (u ++ rest) ∧ suffix sub (u ++ rest) = some (p, rest)) :
    ReadsPhrase sub (.applied (p.apply e)) (s ++ u) := by
  intro rest hrest
  obtain ⟨hend, hp⟩ := hu rest hrest
  rw [List.append_assoc, he (u ++ rest) hend, many_of_some (shortens_suffix hsub) hp]
  rfl

include hsub hread in
/-- **A chain is read up to where it ends.**

**Proof sketch.** Induction on the derivation, one rule at a time; the expressions nested in
brackets are shorter than the text and are read by assumption. -/
lemma readsPhrase_of_derives {p : Phrase} {t : List Char} (h : Derives p t)
    (hlen : t.length ≤ n + 1) : ReadsPhrase sub p t := by
  induction h with
  | function _ _ _ _ => trivial
  | choice _ _ _ _ _ _ _ _ => trivial
  | chain _ _ => trivial
  | @operation m k op a b s g t hmk hop _ hg ht iha ihb =>
    simp only [List.length_append] at hlen
    have ha : Continues sub k a s := iha (by omega)
    have hb : Continues sub (k + 1) b t := ihb (by omega)
    exact (Continues.operation hsub hop ha hg hb.readsChain ht.starts).mono hmk
  | @operand m e s _ ih => exact continues_of_signed (ih hlen) m
  | @sign op e g s hop hg _ ih =>
    simp only [List.length_append] at hlen
    intro rest hrest
    rw [List.append_assoc, List.append_assoc, signed_of_sign (sign_append hop hg _),
      ih (by omega) rest hrest]
    rfl
  | unsigned _ ih =>
    intro rest hrest
    refine signed_of_applied ?_
    rw [ih hlen rest hrest.endsToken, many_of_none (suffix_eq_none hrest)]
    rfl
  | @access e x s g h _ hg hh hx ih =>
    simp only [List.length_append, List.length_cons] at hlen
    rw [List.append_assoc, List.append_assoc]
    refine (ih (by omega)).applied_append hsub (p := .member x) fun rest hrest => ?_
    rw [show g ++ ('.' :: h ++ x.toList) ++ rest = g ++ '.' :: (h ++ (x.toList ++ rest)) by simp]
    exact ⟨endsToken_access hg hh hx rest, suffix_access hg hh hx hrest⟩
  | @call e ps s g t h _ hg hps ht hh ih _ =>
    simp only [List.length_append, List.length_cons] at hlen
    rw [show s ++ g ++ '(' :: t ++ h ++ [')'] = s ++ (g ++ '(' :: (t ++ (h ++ [')']))) by simp]
    refine (ih (by omega)).applied_append hsub (p := .call (ps.map Prod.fst)) fun rest _ => ?_
    rw [show g ++ '(' :: (t ++ (h ++ [')'])) ++ rest = g ++ '(' :: (t ++ (h ++ ')' :: rest)) by
      simp]
    exact ⟨endsToken_of_cons hg (by decide) (by decide) _,
      suffix_call hsub hread hg hps ht hh (by omega) rest⟩
  | @index e k s g t h _ hg ht hh ih _ =>
    simp only [List.length_append, List.length_cons] at hlen
    rw [show s ++ g ++ '[' :: t ++ h ++ [']'] = s ++ (g ++ '[' :: (t ++ (h ++ [']']))) by simp]
    refine (ih (by omega)).applied_append hsub (p := .index k) fun rest _ => ?_
    rw [show g ++ '[' :: (t ++ (h ++ [']'])) ++ rest = g ++ '[' :: (t ++ (h ++ ']' :: rest)) by
      simp]
    exact ⟨endsToken_of_cons hg (by decide) (by decide) _,
      suffix_index hread hg ht hh (by omega) rest⟩
  | primary _ ih =>
    intro rest hrest
    simp only [applied, ih hlen rest hrest, bind, Option.bind_some, pure]
  | group hg hps ht hh _ =>
    exact fun rest hrest => primary_append hsub hread (.group hg hps ht hh) hlen hrest
  | array hg hps ht hh _ =>
    exact fun rest hrest => primary_append hsub hread (.array hg hps ht hh) hlen hrest
  | object hg hps ht hh _ =>
    exact fun rest hrest => primary_append hsub hread (.object hg hps ht hh) hlen hrest
  | atom hg ha => exact fun rest hrest => primary_atom hg ha hrest
  | named _ _ _ _ _ => trivial

include hsub hread in
/-- A chain of the loosest level is read, also without the gap before it. -/
lemma chains_skipGap_append {e : Expr} {t : List Char} (h : Derives (.chain 0 e) t)
    (hlen : t.length ≤ n + 1) {rest : List Char} (hrest : EndsChain 0 rest) :
    chains sub (skipGap (t ++ rest)) = some (e, rest) := by
  have hlen' : (skipGap t).length ≤ n + 1 := (List.dropWhile_suffix _).length_le.trans hlen
  rw [h.starts.skipGap_append]
  exact Continues.readsChain (readsPhrase_of_derives hsub hread h.without_gap hlen') rest hrest

end Productions

end LambdaQuery.Grammar
