import LambdaQuery.Expr.Parser
import LambdaQuery.Proofs.Grammar.Basic

/-!
# What is read is derived

Every production of the parser reads a text that the grammar derives with the tree the production
returns.  The productions take the scan of nested expressions as an argument; each is treated under
the hypothesis that this scan reads expressions of the grammar, and the recursion follows by
induction on its budget.

## Main results

* `LambdaQuery.Grammar.finds_nested` — one round of the recursion.
* `LambdaQuery.Grammar.finds_scanWithin`, `LambdaQuery.Grammar.finds_scan` — the whole recursion.
-/

set_option autoImplicit false

namespace LambdaQuery.Grammar

open Scan LambdaQuery.Expr

/-! ## Names and literals -/

/-- A name that is read is a name. -/
lemma finds_identifier : Finds identifier fun x t => IsName x ∧ t = x.toList := by
  intro s x r h
  cases s with
  | nil => simp [identifier] at h
  | cons c s =>
    simp only [identifier] at h
    split at h
    · next hc =>
      simp only [Option.some.injEq, Prod.mk.injEq] at h
      obtain ⟨rfl, rfl⟩ := h
      refine ⟨c :: s.takeWhile Identifier.isPart, ?_, ?_, ?_⟩
      · simp [List.takeWhile_append_dropWhile]
      · simp only [IsName, String.toList_ofList, Identifier.isIdentifier, hc, Bool.true_and,
          List.all_eq_true]
        exact fun d hd => List.mem_takeWhile_imp hd
      · simp
    · contradiction

/-- A run of digits that is read is one. -/
lemma finds_digits : Finds digits fun ds t => IsNumeral ds ∧ t = ds := by
  intro s ds r h
  simp only [digits, runOf] at h
  split at h
  · contradiction
  · next hne =>
    simp only [Option.some.injEq, Prod.mk.injEq] at h
    obtain ⟨rfl, rfl⟩ := h
    refine ⟨s.takeWhile Char.isDigit, (List.takeWhile_append_dropWhile).symm, ⟨?_, ?_⟩, rfl⟩
    · exact hne
    · exact fun d hd => List.mem_takeWhile_imp hd

/-- A decimal that is read is a token of the grammar. -/
lemma finds_decimal : Finds decimal fun v t => Atom (.literal v) t := by
  intro s v r h
  simp only [decimal, bind, Option.bind_eq_some_iff] at h
  obtain ⟨⟨ws, s₁⟩, hws, s₂, hs₂, ⟨ds, s₃⟩, hds, h⟩ := h
  simp only [pure, Option.some.injEq, Prod.mk.injEq] at h
  obtain ⟨rfl, rfl⟩ := h
  obtain ⟨_, rfl, hw, rfl⟩ := finds_digits hws
  obtain rfl := after?_eq_some_iff.1 hs₂
  obtain ⟨_, rfl, hd, rfl⟩ := finds_digits hds
  exact ⟨_, by simp, Atom.decimal hw hd⟩

/-- A whole number that is read is a token of the grammar. -/
lemma finds_wholeNumber : Finds wholeNumber fun v t => Atom (.literal v) t := by
  intro s v r h
  simp only [wholeNumber, bind, Option.bind_eq_some_iff] at h
  obtain ⟨⟨ds, s₁⟩, hds, h⟩ := h
  obtain ⟨_, rfl, hd, rfl⟩ := finds_digits hds
  split at h
  · next hlt =>
    simp only [pure, Option.some.injEq, Prod.mk.injEq] at h
    obtain ⟨rfl, rfl⟩ := h
    exact ⟨_, rfl, Atom.whole hd hlt⟩
  · contradiction

/-- The character that an escape is read as. -/
lemma escape_unescape (c : Char) : Escape c (unescape c) := by
  unfold unescape
  split_ifs with hn ht hr h0
  · exact hn ▸ .lineFeed
  · exact ht ▸ .tab
  · exact hr ▸ .carriageReturn
  · exact h0 ▸ .nul
  · exact .other hn ht hr h0

/-- What is read up to a closing quote is a quoted text.

**Proof sketch.** Induction along the recursion of the reader, which takes one character or an
escape at a time. -/
lemma exists_of_quotedText {quote : Char} {s cs r : List Char}
    (h : quotedText quote s = some (cs, r)) :
    ∃ t, QuotedText quote t cs ∧ s = t ++ quote :: r := by
  induction s using quotedText.induct quote generalizing cs with
  | case1 => simp [quotedText] at h
  | case2 =>
    simp only [quotedText, if_true, Option.some.injEq, Prod.mk.injEq] at h
    obtain ⟨rfl, rfl⟩ := h
    exact ⟨[], .nil, rfl⟩
  | case3 c hc => simp [quotedText, hc] at h
  | case4 d s =>
    simp only [quotedText, if_true, Option.some.injEq, Prod.mk.injEq] at h
    obtain ⟨rfl, rfl⟩ := h
    exact ⟨[], .nil, rfl⟩
  | case5 d s hq ih =>
    simp only [quotedText, hq, if_false, if_true] at h
    obtain ⟨⟨cs', r'⟩, hcs, h⟩ := Option.map_eq_some_iff.1 h
    simp only [Prod.mk.injEq] at h
    obtain ⟨rfl, rfl⟩ := h
    obtain ⟨t, ht, rfl⟩ := ih hcs
    exact ⟨'\\' :: d :: t, .escaped (escape_unescape d) ht, rfl⟩
  | case6 c d s hq hb ih =>
    simp only [quotedText, hq, hb, if_false] at h
    obtain ⟨⟨cs', r'⟩, hcs, h⟩ := Option.map_eq_some_iff.1 h
    simp only [Prod.mk.injEq] at h
    obtain ⟨rfl, rfl⟩ := h
    obtain ⟨t, ht, hs⟩ := ih hcs
    exact ⟨c :: t, .plain hq hb ht, by rw [hs]; rfl⟩

/-- A string literal that is read is one. -/
lemma finds_stringLiteral : Finds stringLiteral StringLiteral := by
  have hquoted : ∀ quote, quote = '"' ∨ quote = '\'' →
      Finds (quotedString quote) StringLiteral := by
    intro quote hq s x r h
    simp only [quotedString, bind, Option.bind_eq_some_iff] at h
    obtain ⟨s₁, hs₁, ⟨cs, s₂⟩, hcs, h⟩ := h
    simp only [pure, Option.some.injEq, Prod.mk.injEq] at h
    obtain ⟨rfl, rfl⟩ := h
    obtain rfl := after?_eq_some_iff.1 hs₁
    obtain ⟨t, ht, rfl⟩ := exists_of_quotedText hcs
    exact ⟨quote :: t ++ [quote], by simp, quote, t, hq, by simpa using ht, rfl⟩
  exact (hquoted '"' (.inl rfl)).orElse (hquoted '\'' (.inr rfl))

/-- A word is a token of the grammar, with the meaning of the word as its tree. -/
lemma atom_ofWord {x : String} (hx : IsName x) : Atom (ofWord x) x.toList := by
  unfold ofWord
  split_ifs with ht hf hn
  · exact ht ▸ .keyword (by simp [keywords])
  · exact hf ▸ .keyword (by simp [keywords])
  · rcases hn with rfl | rfl
    · exact .keyword (by simp [keywords])
    · exact .keyword (by simp [keywords])
  · refine .variable hx fun v hv => ?_
    simp only [keywords, List.mem_cons, Prod.mk.injEq, List.not_mem_nil, or_false] at hv
    tauto

/-! ## Levels of operators -/

/-- The scan of chains of operators of the level or of tighter ones. -/
def operands (sub : Scan Expr) (level : Nat) : Scan Expr :=
  (Operator.levels.drop level).foldr chain (signed sub)

/-- A chain of a level has chains of the next level as its operands.  Beyond the last level there
are no operators, so a chain there is its first operand. -/
lemma operands_eq (sub : Scan Expr) (level : Nat) :
    operands sub level = chain (Operator.levels.getD level []) (operands sub (level + 1)) := by
  match level with
  | 0 | 1 | 2 | 3 | 4 | 5 => rfl
  | n + 6 =>
    have hops : Operator.levels.getD (n + 6) [] = [] := rfl
    have hsigned : ∀ k, operands sub (k + 6) = signed sub := fun k => by
      simp [operands, Operator.levels]
    have hmany : ∀ r, many (operation [] (signed sub)) r = ([], r) := by
      intro r
      cases r with
      | nil => rfl
      | cons c r => rfl
    funext s
    rw [hops, hsigned n, hsigned (n + 1)]
    simp only [Expr.chain, hmany]
    cases signed sub s with
    | none => rfl
    | some p => rfl

/-- The operators that are read at a level are those of the grammar. -/
lemma mem_levels_iff {level : Nat} {op : String} :
    op ∈ Operator.levels.getD level [] ↔ op ∈ infixOperators level := by
  match level with
  | 0 | 1 | 4 | 5 => exact Iff.rfl
  | 2 | 3 =>
    simp only [Operator.levels, infixOperators, List.getD_cons_succ, List.getD_cons_zero,
      List.mem_cons, List.not_mem_nil, or_false]
    tauto
  | n + 6 => exact Iff.rfl

/-! ## Productions -/

section Productions

variable {sub : Scan Expr} (hsub : Finds sub fun e t => Derives (.expr e) t)

include hsub

/-- A member of an object that is read is derived. -/
lemma finds_namedMember : Finds (namedMember sub) fun m t => Derives (.member m.1 m.2) t := by
  intro s m r h
  simp only [namedMember, bind, Option.bind_eq_some_iff] at h
  obtain ⟨⟨x, s₁⟩, hx, s₂, hs₂, ⟨e, s₃⟩, he, h⟩ := h
  simp only [pure, Option.some.injEq, Prod.mk.injEq] at h
  obtain ⟨rfl, rfl⟩ := h
  have hkey : Finds (fun s => identifier s <|> stringLiteral s) Key := by
    refine Finds.orElse (fun s x r h => ?_) (fun s x r h => ?_)
    · obtain ⟨t, ht, hx, rfl⟩ := finds_identifier h
      exact ⟨_, ht, .word hx⟩
    · obtain ⟨t, ht, hx⟩ := finds_stringLiteral h
      exact ⟨t, ht, .string hx⟩
  obtain ⟨g, hg, hs⟩ := exists_isGap_append_skipGap s
  obtain ⟨k, hk, hkey⟩ := hkey hx
  obtain ⟨g', hg', rfl⟩ := exists_of_token hs₂
  obtain ⟨t, rfl, ht⟩ := hsub he
  refine ⟨g ++ k ++ g' ++ ':' :: t, ?_, .named hg hkey hg' ht⟩
  rw [hs, hk]
  simp

/-- A bracketed list of expressions that is read is one, whatever phrase it is part of. -/
lemma finds_bracketed_expr {opening closing : Char} {Q : List Expr → List Char → Prop}
    (hQ : ∀ (ps : List (Expr × List Char)) (t g : List Char),
      (∀ p ∈ ps, Derives (.expr p.1) p.2) → CommaList (ps.map Prod.snd) t → IsGap g →
      Q (ps.map Prod.fst) (opening :: t ++ g ++ [closing])) :
    Finds (bracketed opening closing sub) Q := by
  intro s es r h
  obtain ⟨ps, t, g, rfl, hps, ht, hg, rfl⟩ := exists_of_bracketed hsub h
  exact ⟨opening :: t ++ g ++ [closing], by simp, hQ ps t g hps ht hg⟩

/-- A primary expression that is read is derived. -/
lemma finds_primary : Finds (primary sub) fun e t => Derives (.primary e) t := by
  have hgroup : Finds (bracketed '(' ')' sub) fun es t =>
      ∀ g, IsGap g → Derives (.primary (.group es)) (g ++ t) :=
    finds_bracketed_expr hsub fun ps t h hps ht hh g hg => by
      simpa using Derives.group hg hps ht hh
  have harray : Finds (bracketed '[' ']' sub) fun es t =>
      ∀ g, IsGap g → Derives (.primary (.array es)) (g ++ t) :=
    finds_bracketed_expr hsub fun ps t h hps ht hh g hg => by
      simpa using Derives.array hg hps ht hh
  have hobject : Finds (bracketed '\x7b' '\x7d' (namedMember sub)) fun ms t =>
      ∀ g, IsGap g → Derives (.primary (.object ms)) (g ++ t) := by
    intro s ms r h
    obtain ⟨ps, t, g', rfl, hps, ht, hg', rfl⟩ := exists_of_bracketed (finds_namedMember hsub) h
    exact ⟨'\x7b' :: t ++ g' ++ ['\x7d'], by simp,
      fun g hg => by simpa using Derives.object hg hps ht hg'⟩
  have hword : Finds identifier fun x t =>
      ∀ g, IsGap g → Derives (.primary (ofWord x)) (g ++ t) := by
    intro s x r h
    obtain ⟨t, ht, hx, rfl⟩ := finds_identifier h
    exact ⟨_, ht, fun g hg => .atom hg (atom_ofWord hx)⟩
  exact Finds.skipGap (P := fun e t => ∀ g, IsGap g → Derives (.primary e) (g ++ t))
    (Finds.orElse (hgroup.map fun _ _ h => h)
      (Finds.orElse (harray.map fun _ _ h => h)
        (Finds.orElse (hobject.map fun _ _ h => h)
          (Finds.orElse (finds_decimal.map fun _ _ h g hg => .atom hg h)
            (Finds.orElse (finds_wholeNumber.map fun _ _ h g hg => .atom hg h)
              (Finds.orElse (finds_stringLiteral.map fun _ _ h g hg => .atom hg (.string h))
                (hword.map fun _ _ h => h)))))))
    fun g e t hg h => h g hg

/-- A suffix that is read extends whatever phrase it applies to.

**Proof sketch.** The three forms of a suffix, each behind a gap. -/
lemma finds_suffix : Finds (suffix sub) fun (p : Suffix) u => u ≠ [] ∧
    ∀ e t, Derives (.applied e) t → Derives (.applied (p.apply e)) (t ++ u) := by
  have hmember : Finds memberSuffix fun (p : Suffix) u => ∀ g, IsGap g → g ++ u ≠ [] ∧
      ∀ e t, Derives (.applied e) t → Derives (.applied (p.apply e)) (t ++ (g ++ u)) := by
    intro s p r h
    simp only [memberSuffix, bind, Option.bind_eq_some_iff] at h
    obtain ⟨s₁, hs₁, ⟨x, s₂⟩, hx, h⟩ := h
    simp only [pure, Option.some.injEq, Prod.mk.injEq] at h
    obtain ⟨rfl, rfl⟩ := h
    obtain rfl := after?_eq_some_iff.1 hs₁
    obtain ⟨g', hg', hs₁⟩ := exists_isGap_append_skipGap s₁
    obtain ⟨_, hxs, hname, rfl⟩ := finds_identifier hx
    refine ⟨'.' :: g' ++ x.toList, by rw [hs₁, hxs]; simp, fun g hg => ⟨by simp, fun e t he => ?_⟩⟩
    simpa [Suffix.apply] using Derives.access he hg hg' hname
  have hcall : Finds (fun s => (bracketed '(' ')' sub s).map (Prod.map Suffix.call id))
      fun (p : Suffix) u => ∀ g, IsGap g → g ++ u ≠ [] ∧
        ∀ e t, Derives (.applied e) t → Derives (.applied (p.apply e)) (t ++ (g ++ u)) := by
    refine (finds_bracketed_expr hsub fun ps u h hps hu hh g hg => ⟨?_, fun e t he => ?_⟩).map
      fun _ _ h => h
    · simp
    · simpa [Suffix.apply] using Derives.call he hg hps hu hh
  have hindex : Finds (indexSuffix sub) fun (p : Suffix) u => ∀ g, IsGap g → g ++ u ≠ [] ∧
      ∀ e t, Derives (.applied e) t → Derives (.applied (p.apply e)) (t ++ (g ++ u)) := by
    intro s p r h
    simp only [indexSuffix, bind, Option.bind_eq_some_iff] at h
    obtain ⟨s₁, hs₁, ⟨k, s₂⟩, hk, s₃, hs₃, h⟩ := h
    simp only [pure, Option.some.injEq, Prod.mk.injEq] at h
    obtain ⟨rfl, rfl⟩ := h
    obtain rfl := after?_eq_some_iff.1 hs₁
    obtain ⟨t', rfl, ht'⟩ := hsub hk
    obtain ⟨g', hg', rfl⟩ := exists_of_token hs₃
    refine ⟨'[' :: t' ++ g' ++ [']'], by simp, fun g hg => ⟨by simp, fun e t he => ?_⟩⟩
    simpa [Suffix.apply] using Derives.index he hg ht' hg'
  exact Finds.skipGap (P := fun (p : Suffix) u => ∀ g, IsGap g → g ++ u ≠ [] ∧
        ∀ e t, Derives (.applied e) t → Derives (.applied (p.apply e)) (t ++ (g ++ u)))
      (Finds.orElse hmember (Finds.orElse hcall hindex))
      fun g p u hg h => h g hg

/-- A primary expression with suffixes that is read is derived. -/
lemma finds_applied : Finds (applied sub) fun e t => Derives (.applied e) t := by
  intro s e r h
  simp only [applied, bind, Option.bind_eq_some_iff] at h
  obtain ⟨⟨e₀, s₁⟩, he₀, h⟩ := h
  simp only [pure, Option.some.injEq, Prod.mk.injEq] at h
  obtain ⟨rfl, rfl⟩ := h
  obtain ⟨t, rfl, ht⟩ := finds_primary hsub he₀
  obtain ⟨u, hu, hP⟩ := exists_of_manyWithin (P := fun e t => Derives (.applied e) t)
    (f := Suffix.apply) (fun {e t} _ _ _ he hp => by
      obtain ⟨u, hu, -, happly⟩ := finds_suffix hsub hp
      exact ⟨u, hu, happly e t he⟩) s₁ (.primary ht)
    (r := (many (suffix sub) s₁).2) rfl
  refine ⟨t ++ u, ?_, hP⟩
  rw [List.append_assoc, ← hu]

omit hsub in
/-- A sign that is read is one of the grammar. -/
lemma finds_sign :
    Finds sign fun op t => op ∈ Operator.signs ∧ ∃ g, IsGap g ∧ t = g ++ op.toList := by
  refine Finds.skipGap (P := fun op t => op ∈ Operator.signs ∧ t = op.toList) ?_ ?_
  · intro s op r h
    obtain ⟨hop, rfl⟩ := exists_of_oneOf h
    exact ⟨op.toList, rfl, hop, rfl⟩
  · rintro g op t hg ⟨hop, rfl⟩
    exact ⟨hop, g, hg, rfl⟩

/-- An operand with signs that is read is derived.

**Proof sketch.** Induction on the budget of the repetition of signs: the signs stand before the
operand, the first one outermost. -/
lemma finds_signed : Finds (signed sub) fun e t => Derives (.signed e) t := by
  have hmany : ∀ budget s, ∀ e r,
      (applied sub (manyWithin sign budget s).2) = some (e, r) →
      ∃ t, s = t ++ r ∧ Derives (.signed ((manyWithin sign budget s).1.foldr .unary e)) t := by
    intro budget
    induction budget with
    | nil =>
      intro s e r h
      obtain ⟨t, ht, he⟩ := finds_applied hsub h
      exact ⟨t, ht, .unsigned he⟩
    | cons c budget ih =>
      intro s e r h
      cases hsign : sign s with
      | none =>
        simp only [manyWithin, hsign] at h ⊢
        obtain ⟨t, ht, he⟩ := finds_applied hsub h
        exact ⟨t, ht, .unsigned he⟩
      | some opr =>
        obtain ⟨op, s'⟩ := opr
        simp only [manyWithin, hsign] at h ⊢
        obtain ⟨_, rfl, hop, g, hg, rfl⟩ := finds_sign hsign
        obtain ⟨t, rfl, ht⟩ := ih s' e r h
        exact ⟨g ++ op.toList ++ t, by simp, .sign hop hg ht⟩
  intro s e r h
  simp only [signed, bind, Option.bind_eq_some_iff] at h
  obtain ⟨⟨e₀, s₁⟩, he₀, h⟩ := h
  simp only [pure, Option.some.injEq, Prod.mk.injEq] at h
  obtain ⟨rfl, rfl⟩ := h
  exact hmany s s e₀ s₁ he₀

omit hsub in
/-- A chain of one level that is read is derived, if the operands are chains of the next level. -/
lemma finds_chain {level : Nat} {ops : List String} {operand : Scan Expr}
    (hops : ∀ op ∈ ops, op ∈ infixOperators level)
    (hoperand : Finds operand fun e t => Derives (.chain (level + 1) e) t) :
    Finds (chain ops operand) fun e t => Derives (.chain level e) t := by
  intro s e r h
  simp only [Expr.chain, bind, Option.bind_eq_some_iff] at h
  obtain ⟨⟨first, s₁⟩, hfirst, h⟩ := h
  simp only [pure, Option.some.injEq, Prod.mk.injEq] at h
  obtain ⟨rfl, rfl⟩ := h
  obtain ⟨t, rfl, ht⟩ := hoperand hfirst
  have hstep : ∀ {b t s p r}, Derives (.chain level b) t →
      operation ops operand s = some (p, r) →
      ∃ u, s = u ++ r ∧ Derives (.chain level (.binary p.1 b p.2)) (t ++ u) := by
    intro b t s p r hb hp
    simp only [operation, bind, Option.bind_eq_some_iff] at hp
    obtain ⟨⟨op, s₂⟩, hop, ⟨e, s₃⟩, he, hp⟩ := hp
    simp only [pure, Option.some.injEq, Prod.mk.injEq] at hp
    obtain ⟨rfl, rfl⟩ := hp
    obtain ⟨g, hg, hs⟩ := exists_isGap_append_skipGap s
    obtain ⟨hmem, hs₂⟩ := exists_of_oneOf hop
    obtain ⟨u, rfl, hu⟩ := hoperand he
    refine ⟨g ++ op.toList ++ u, by rw [hs, hs₂]; simp, ?_⟩
    simpa using Derives.operation (Nat.le_refl level) (hops op hmem) hb hg hu
  obtain ⟨u, hu, hP⟩ := exists_of_manyWithin (P := fun e t => Derives (.chain level e) t)
    (f := fun left o => .binary o.1 left o.2) hstep s₁ (ht.chain_mono (Nat.le_succ level))
    (r := (many (operation ops operand) s₁).2) rfl
  refine ⟨t ++ u, ?_, hP⟩
  rw [List.append_assoc, ← hu]

/-- A chain of the level or of tighter ones that is read is derived.

**Proof sketch.** Induction on the number of tighter levels; beyond the last one there are only
operands with signs. -/
lemma finds_operands {level : Nat} (hlevel : level ≤ 6) :
    Finds (operands sub level) fun e t => Derives (.chain level e) t := by
  obtain ⟨d, hd⟩ : ∃ d, level + d = 6 := ⟨6 - level, by omega⟩
  induction d generalizing level with
  | zero =>
    obtain rfl : level = 6 := by omega
    intro s e r h
    obtain ⟨t, ht, he⟩ := finds_signed hsub h
    exact ⟨t, ht, .operand he⟩
  | succ d ih =>
    rw [operands_eq]
    exact finds_chain (fun op => mem_levels_iff.1) (ih (by omega) (by omega))

/-- A chain or a choice that is read is an expression. -/
lemma finds_choice : Finds (choice sub) fun e t => Derives (.expr e) t := by
  intro s e r h
  simp only [choice, bind, Option.bind_eq_some_iff] at h
  obtain ⟨⟨a, s₁⟩, ha, h⟩ := h
  obtain ⟨t, rfl, ht⟩ := finds_operands hsub (Nat.zero_le 6) ha
  split at h
  · next b c s₂ hbranches =>
    simp only [pure, Option.some.injEq, Prod.mk.injEq] at h
    obtain ⟨rfl, rfl⟩ := h
    simp only [branches, bind, Option.bind_eq_some_iff] at hbranches
    obtain ⟨s₃, hs₃, ⟨b', s₄⟩, hb, s₅, hs₅, ⟨c', s₆⟩, hc, hbranches⟩ := hbranches
    simp only [pure, Option.some.injEq, Prod.mk.injEq] at hbranches
    obtain ⟨⟨rfl, rfl⟩, rfl⟩ := hbranches
    obtain ⟨g, hg, rfl⟩ := exists_of_token hs₃
    obtain ⟨u, rfl, hu⟩ := hsub hb
    obtain ⟨g', hg', rfl⟩ := exists_of_token hs₅
    obtain ⟨v, rfl, hv⟩ := hsub hc
    exact ⟨t ++ g ++ '?' :: u ++ g' ++ ':' :: v, by simp, .choice ht hg hu hg' hv⟩
  · simp only [pure, Option.some.injEq, Prod.mk.injEq] at h
    obtain ⟨rfl, rfl⟩ := h
    exact ⟨t, rfl, .chain ht⟩

omit hsub in
/-- Names behind a first one continue a list of names. -/
lemma exists_of_many_nextParameter (budget : List Char) {s r : List Char} {xs : List String}
    (h : manyWithin nextParameter budget s = (xs, r)) :
    ∃ u, s = u ++ r ∧ ∀ x g, IsGap g → IsName x → Names (x :: xs) (g ++ x.toList ++ u) := by
  induction budget generalizing s xs with
  | nil =>
    simp only [manyWithin, Prod.mk.injEq] at h
    obtain ⟨rfl, rfl⟩ := h
    exact ⟨[], rfl, fun x g hg hx => by simpa using Names.last hg hx⟩
  | cons c budget ih =>
    simp only [manyWithin] at h
    split at h
    · simp only [Prod.mk.injEq] at h
      obtain ⟨rfl, rfl⟩ := h
      exact ⟨[], rfl, fun x g hg hx => by simpa using Names.last hg hx⟩
    · next y s' hy =>
      simp only [Prod.mk.injEq] at h
      obtain ⟨rfl, rfl⟩ := h
      simp only [nextParameter, bind, Option.bind_eq_some_iff] at hy
      obtain ⟨s₁, hs₁, hy⟩ := hy
      obtain ⟨g₁, hg₁, rfl⟩ := exists_of_token hs₁
      obtain ⟨g₂, hg₂, hs₁⟩ := exists_isGap_append_skipGap s₁
      obtain ⟨_, hys, hname, rfl⟩ := finds_identifier hy
      obtain ⟨u, hu, hnames⟩ := ih rfl
      refine ⟨g₁ ++ ',' :: (g₂ ++ y.toList ++ u), ?_, fun x g hg hx => ?_⟩
      · rw [hs₁, hys]
        simpa using hu
      · simpa using Names.cons hg hx hg₁ (hnames y g₂ hg₂ hname)

omit hsub in
/-- The parameters of a function that are read are derived, also behind a gap. -/
lemma finds_parameters : Finds parameters fun ps t => ∀ g, IsGap g → Parameters ps (g ++ t) := by
  refine Finds.orElse (finds_identifier.map ?_) ?_
  · rintro x t ⟨hx, rfl⟩ g hg
    exact .single hg hx
  · intro s ps r h
    simp only [parenthesizedParameters, bind, Option.bind_eq_some_iff] at h
    obtain ⟨s₁, hs₁, s₂, hs₂, h⟩ := h
    simp only [pure, Option.some.injEq, Prod.mk.injEq] at h
    obtain ⟨rfl, rfl⟩ := h
    obtain rfl := after?_eq_some_iff.1 hs₁
    obtain ⟨g₁, hg₁, hs₁⟩ := exists_isGap_append_skipGap s₁
    obtain ⟨g₂, hg₂, hend⟩ := exists_of_token hs₂
    cases hx : identifier (skipGap s₁) with
    | none =>
      simp only [hx] at hend ⊢
      refine ⟨'(' :: (g₁ ++ g₂) ++ [')'], ?_, fun g hg => ?_⟩
      · rw [hs₁, hend]
        simp
      · simpa using Parameters.none hg (hg₁.append hg₂)
    | some xr =>
      obtain ⟨x, s₃⟩ := xr
      simp only [hx] at hend ⊢
      obtain ⟨_, hxs, hname, rfl⟩ := finds_identifier hx
      obtain ⟨u, hu, hnames⟩ := exists_of_many_nextParameter s₃ (r := (many nextParameter s₃).2) rfl
      refine ⟨'(' :: (g₁ ++ x.toList ++ u) ++ g₂ ++ [')'], ?_, fun g hg => ?_⟩
      · rw [hs₁, hxs, hu, hend]
        simp
      · simpa [many] using Parameters.names hg (hnames x g₁ hg₁ hname) hg₂

/-- **One round of the recursion**: an expression that is read is derived if the ones nested in it
are. -/
lemma finds_nested : Finds (nested sub) fun e t => Derives (.expr e) t := by
  refine Finds.skipGap (P := fun e t => ∀ g, IsGap g → Derives (.expr e) (g ++ t))
    (Finds.orElse ?_ ?_) (fun g e t hg h => h g hg)
  · intro s e r h
    simp only [function, bind, Option.bind_eq_some_iff] at h
    obtain ⟨⟨ps, s₁⟩, hps, s₂, hs₂, ⟨e', s₃⟩, he, h⟩ := h
    simp only [pure, Option.some.injEq, Prod.mk.injEq] at h
    obtain ⟨rfl, rfl⟩ := h
    obtain ⟨t, rfl, ht⟩ := finds_parameters hps
    obtain ⟨g', hg', rfl⟩ := exists_of_token hs₂
    obtain ⟨u, rfl, hu⟩ := hsub he
    refine ⟨t ++ g' ++ '=' :: '>' :: u, by simp, fun g hg => ?_⟩
    simpa using Derives.function (ht g hg) hg' hu
  · intro s e r h
    obtain ⟨t, ht, he⟩ := finds_choice hsub h
    exact ⟨t, ht, fun g hg => he.gap_append hg⟩

end Productions

/-! ## The recursion -/

/-- **What is read within a budget is derived.** -/
lemma finds_scanWithin (budget : List Char) :
    Finds (scanWithin budget) fun e t => Derives (.expr e) t := by
  induction budget with
  | nil =>
    intro s e r h
    simp [scanWithin] at h
  | cons c budget ih => exact finds_nested ih

/-- **What is read is derived**: an expression that is read from the start of a text is one of the
grammar, with the tree that is returned. -/
lemma finds_scan : Finds scan fun e t => Derives (.expr e) t := fun s _ _ h =>
  finds_scanWithin s h

end LambdaQuery.Grammar
