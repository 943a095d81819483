import LambdaQuery.Expr.Basic
import LambdaQuery.Identifier
import LambdaQuery.Operator
import LambdaQuery.Proofs.Scan

/-!
# The grammar of expressions

Which texts are expressions, and of which tree.  A phrase derives a text by any of the rules for
it: there is no order among the rules, and a piece of a phrase may be as short or as long as its
own rules allow.  A gap may stand before every token and nowhere inside one, so the text of a
phrase begins with the gap before its first token.

## Main definitions

* `LambdaQuery.Grammar.Atom` — the tokens that are expressions by themselves.
* `LambdaQuery.Grammar.Phrase` — the kinds of phrases, with the tree each stands for.
* `LambdaQuery.Grammar.Derives` — the rules.

## Main results

* `LambdaQuery.Grammar.Derives.startsAs` — how a phrase can begin.
* `LambdaQuery.Grammar.Derives.gap_append`, `LambdaQuery.Grammar.Derives.without_gap` — the gap
  before a phrase does not matter.
-/

set_option autoImplicit false

namespace LambdaQuery.Grammar

open Scan (IsGap CommaList)

/-! ## Tokens -/

/-- The operators between two operands at a level; the loosest level is the first. -/
def infixOperators : Nat → List String
  | 0 => ["||"]
  | 1 => ["&&"]
  | 2 => ["==", "===", "!=", "!=="]
  | 3 => ["<", "<=", ">", ">="]
  | 4 => ["+", "-"]
  | 5 => ["*", "/", "%"]
  | _ => []

/-- The words that are literals, with their values. -/
def keywords : List (String × Value) :=
  [("true", .bool true), ("false", .bool false), ("null", .null), ("undefined", .null)]

/-- The text is a name. -/
def IsName (x : String) : Prop := Identifier.isIdentifier x.toList = true

/-- The text is a run of digits. -/
def IsNumeral (s : List Char) : Prop := s ≠ [] ∧ ∀ c ∈ s, c.isDigit = true

/-- `Escape c d`: a backslash and `c` stand for `d`. -/
inductive Escape : Char → Char → Prop where
  | lineFeed : Escape 'n' '\n'
  | tab : Escape 't' '\t'
  | carriageReturn : Escape 'r' '\r'
  | nul : Escape '0' '\x00'
  | other {c : Char} : c ≠ 'n' → c ≠ 't' → c ≠ 'r' → c ≠ '0' → Escape c c

/-- `QuotedText quote s t`: between two quotes, `s` stands for `t`. -/
inductive QuotedText (quote : Char) : List Char → List Char → Prop where
  | nil : QuotedText quote [] []
  | plain {c : Char} {s t : List Char} :
      c ≠ quote → c ≠ '\\' → QuotedText quote s t → QuotedText quote (c :: s) (c :: t)
  | escaped {c d : Char} {s t : List Char} :
      Escape c d → QuotedText quote s t → QuotedText quote ('\\' :: c :: s) (d :: t)

/-- The text is a literal of the string `x`, in double or in single quotes. -/
def StringLiteral (x : String) (s : List Char) : Prop :=
  ∃ quote t, (quote = '"' ∨ quote = '\'') ∧ QuotedText quote t x.toList ∧ s = quote :: t ++ [quote]

/-- The tokens that are expressions by themselves. -/
inductive Atom : Expr → List Char → Prop where
  /-- A whole number that fits into 64 bits with a sign. -/
  | whole {ds : List Char} : IsNumeral ds → Text.numberOfDigits ds < 2 ^ 63 →
      Atom (.literal (.int (Int64.ofNat (Text.numberOfDigits ds)))) ds
  /-- A number with a decimal point. -/
  | decimal {ws ds : List Char} : IsNumeral ws → IsNumeral ds →
      Atom (.literal (.float (Binary64.ofDecimal ws ds))) (ws ++ '.' :: ds)
  /-- A string. -/
  | string {x : String} {s : List Char} : StringLiteral x s → Atom (.literal (.string x)) s
  /-- A word that is a literal. -/
  | keyword {w : String} {v : Value} : (w, v) ∈ keywords → Atom (.literal v) w.toList
  /-- Any other word. -/
  | variable {x : String} : IsName x → (∀ v, (x, v) ∉ keywords) → Atom (.variable x) x.toList

/-- The name of a member of an object, as a word or as a string. -/
inductive Key : String → List Char → Prop where
  | word {x : String} : IsName x → Key x x.toList
  | string {x : String} {s : List Char} : StringLiteral x s → Key x s

/-- One or more names with commas between them. -/
inductive Names : List String → List Char → Prop where
  | last {x : String} {g : List Char} : IsGap g → IsName x → Names [x] (g ++ x.toList)
  | cons {x : String} {xs : List String} {g h s : List Char} :
      IsGap g → IsName x → IsGap h → Names xs s → Names (x :: xs) (g ++ x.toList ++ h ++ ',' :: s)

/-- The parameters of a function: a name, or any number of names in parentheses. -/
inductive Parameters : List String → List Char → Prop where
  | single {x : String} {g : List Char} : IsGap g → IsName x → Parameters [x] (g ++ x.toList)
  | none {g h : List Char} : IsGap g → IsGap h → Parameters [] (g ++ '(' :: h ++ [')'])
  | names {xs : List String} {g s h : List Char} :
      IsGap g → Names xs s → IsGap h → Parameters xs (g ++ '(' :: s ++ h ++ [')'])

/-! ## Phrases -/

/-- The kinds of phrases, with the tree that a phrase stands for. -/
inductive Phrase where
  /-- Any expression. -/
  | expr (e : Expr)
  /-- Operands with operators of the level or of tighter ones between them. -/
  | chain (level : Nat) (e : Expr)
  /-- An operand behind any number of signs. -/
  | signed (e : Expr)
  /-- A primary expression and what applies to it. -/
  | applied (e : Expr)
  /-- An expression that is complete in itself. -/
  | primary (e : Expr)
  /-- A member of an object. -/
  | member (name : String) (e : Expr)

/-- The rules of the grammar: the phrase derives the text. -/
inductive Derives : Phrase → List Char → Prop where
  /-- `ps => e` -/
  | function {ps : List String} {e : Expr} {s g t : List Char} :
      Parameters ps s → IsGap g → Derives (.expr e) t →
      Derives (.expr (.lambda ps e)) (s ++ g ++ '=' :: '>' :: t)
  /-- `a ? b : c` -/
  | choice {a b c : Expr} {s g t h u : List Char} :
      Derives (.chain 0 a) s → IsGap g → Derives (.expr b) t → IsGap h → Derives (.expr c) u →
      Derives (.expr (.conditional a b c)) (s ++ g ++ '?' :: t ++ h ++ ':' :: u)
  /-- A chain is an expression. -/
  | chain {e : Expr} {s : List Char} : Derives (.chain 0 e) s → Derives (.expr e) s
  /-- `a op b`, grouped to the left -/
  | operation {m n : Nat} {op : String} {a b : Expr} {s g t : List Char} :
      m ≤ n → op ∈ infixOperators n →
      Derives (.chain n a) s → IsGap g → Derives (.chain (n + 1) b) t →
      Derives (.chain m (.binary op a b)) (s ++ g ++ op.toList ++ t)
  /-- An operand is a chain of any level. -/
  | operand {m : Nat} {e : Expr} {s : List Char} : Derives (.signed e) s → Derives (.chain m e) s
  /-- `op e` -/
  | sign {op : String} {e : Expr} {g s : List Char} :
      op ∈ Operator.signs → IsGap g → Derives (.signed e) s →
      Derives (.signed (.unary op e)) (g ++ op.toList ++ s)
  /-- There may be no signs. -/
  | unsigned {e : Expr} {s : List Char} : Derives (.applied e) s → Derives (.signed e) s
  /-- `e.x` -/
  | access {e : Expr} {x : String} {s g h : List Char} :
      Derives (.applied e) s → IsGap g → IsGap h → IsName x →
      Derives (.applied (.member e x)) (s ++ g ++ '.' :: h ++ x.toList)
  /-- `e(...)` -/
  | call {e : Expr} {ps : List (Expr × List Char)} {s g t h : List Char} :
      Derives (.applied e) s → IsGap g → (∀ p ∈ ps, Derives (.expr p.1) p.2) →
      CommaList (ps.map Prod.snd) t → IsGap h →
      Derives (.applied (.call e (ps.map Prod.fst))) (s ++ g ++ '(' :: t ++ h ++ [')'])
  /-- `e[k]` -/
  | index {e k : Expr} {s g t h : List Char} :
      Derives (.applied e) s → IsGap g → Derives (.expr k) t → IsGap h →
      Derives (.applied (.index e k)) (s ++ g ++ '[' :: t ++ h ++ [']'])
  /-- There may be nothing that applies. -/
  | primary {e : Expr} {s : List Char} : Derives (.primary e) s → Derives (.applied e) s
  /-- `(...)` -/
  | group {ps : List (Expr × List Char)} {g t h : List Char} :
      IsGap g → (∀ p ∈ ps, Derives (.expr p.1) p.2) → CommaList (ps.map Prod.snd) t → IsGap h →
      Derives (.primary (.group (ps.map Prod.fst))) (g ++ '(' :: t ++ h ++ [')'])
  /-- `[...]` -/
  | array {ps : List (Expr × List Char)} {g t h : List Char} :
      IsGap g → (∀ p ∈ ps, Derives (.expr p.1) p.2) → CommaList (ps.map Prod.snd) t → IsGap h →
      Derives (.primary (.array (ps.map Prod.fst))) (g ++ '[' :: t ++ h ++ [']'])
  /-- Members between braces. -/
  | object {ps : List ((String × Expr) × List Char)} {g t h : List Char} :
      IsGap g → (∀ p ∈ ps, Derives (.member p.1.1 p.1.2) p.2) → CommaList (ps.map Prod.snd) t →
      IsGap h → Derives (.primary (.object (ps.map Prod.fst))) (g ++ '\x7b' :: t ++ h ++ ['\x7d'])
  /-- A token. -/
  | atom {e : Expr} {g s : List Char} : IsGap g → Atom e s → Derives (.primary e) (g ++ s)
  /-- `x: e` -/
  | named {x : String} {e : Expr} {g k h s : List Char} :
      IsGap g → Key x k → IsGap h → Derives (.expr e) s →
      Derives (.member x e) (g ++ k ++ h ++ ':' :: s)

/-! ## How a phrase begins -/

/-- The character can be the first one of a phrase. -/
def isPhraseStart (c : Char) : Bool :=
  Identifier.isPart c || ['(', '[', '\x7b', '"', '\'', '!', '-', '+'].contains c

/-- A character of a name or a number can begin a phrase. -/
lemma isPhraseStart_of_isPart {c : Char} (h : Identifier.isPart c = true) :
    isPhraseStart c = true := by
  simp [isPhraseStart, h]

/-- A character that may begin a name may also go on with it. -/
lemma isPart_of_isStart {c : Char} (h : Identifier.isStart c = true) :
    Identifier.isPart c = true := by
  simp only [Identifier.isStart, Identifier.isPart, Char.isAlphanum, Bool.or_eq_true] at h ⊢
  tauto

/-- A digit may go on with a name. -/
lemma isPart_of_isDigit {c : Char} (h : c.isDigit = true) : Identifier.isPart c = true := by
  simp [Identifier.isPart, Char.isAlphanum, h]

/-- Where the characters of names and numbers lie. -/
lemma toNat_of_isPart {c : Char} (h : Identifier.isPart c = true) :
    33 ≤ c.toNat ∧ c.toNat ≤ 122 := by
  simp only [Identifier.isPart, Char.isAlphanum, Char.isAlpha, Char.isUpper, Char.isLower,
    Char.isDigit, Bool.or_eq_true, Bool.and_eq_true, decide_eq_true_eq, beq_iff_eq,
    UInt32.le_iff_toNat_le, ge_iff_le] at h
  change ((((65 ≤ c.toNat ∧ c.toNat ≤ 90) ∨ 97 ≤ c.toNat ∧ c.toNat ≤ 122) ∨
    48 ≤ c.toNat ∧ c.toNat ≤ 57) ∨ c = '_') ∨ c = '$' at h
  rcases h with (h | rfl) | rfl
  · omega
  · decide
  · decide

/-- The first token of the text stands behind a gap and begins like a phrase, and the text has the
form `P` behind any other gap too. -/
def StartsAs (P : List Char → Prop) (s : List Char) : Prop :=
  ∃ g c t, IsGap g ∧ isPhraseStart c = true ∧ s = g ++ c :: t ∧ ∀ g', IsGap g' → P (g' ++ c :: t)

/-- A text that goes on after a first piece starts like the piece. -/
lemma StartsAs.append {P Q : List Char → Prop} {s : List Char} (h : StartsAs P s) (r : List Char)
    (hQ : ∀ u, P u → Q (u ++ r)) : StartsAs Q (s ++ r) := by
  obtain ⟨g, c, t, hg, hc, rfl, hP⟩ := h
  refine ⟨g, c, t ++ r, hg, hc, by simp, fun g' hg' => ?_⟩
  simpa using hQ _ (hP g' hg')

/-- A token starts a text. -/
lemma startsAs_cons {P : List Char → Prop} {g t : List Char} {c : Char} (hg : IsGap g)
    (hc : isPhraseStart c = true) (hP : ∀ g', IsGap g' → P (g' ++ c :: t)) :
    StartsAs P (g ++ c :: t) :=
  ⟨g, c, t, hg, hc, rfl, hP⟩

/-- A name begins with a letter, `_` or `$`, and goes on with characters of a name. -/
lemma IsName.exists_eq {x : String} (h : IsName x) :
    ∃ c s, x.toList = c :: s ∧ Identifier.isStart c = true ∧
      ∀ d ∈ s, Identifier.isPart d = true := by
  unfold IsName at h
  cases hx : x.toList with
  | nil => simp [hx, Identifier.isIdentifier] at h
  | cons c s =>
    simp only [hx, Identifier.isIdentifier, Bool.and_eq_true, List.all_eq_true] at h
    exact ⟨c, s, rfl, h⟩

/-- A name is not empty. -/
lemma IsName.toList_ne_nil {x : String} (h : IsName x) : x.toList ≠ [] := by
  obtain ⟨c, s, hx, -⟩ := h.exists_eq
  simp [hx]

/-- The characters of a name. -/
lemma IsName.isPart_of_mem {x : String} (h : IsName x) :
    ∀ c ∈ x.toList, Identifier.isPart c = true := by
  obtain ⟨c, s, hx, hc, hs⟩ := h.exists_eq
  rw [hx, List.forall_mem_cons]
  exact ⟨isPart_of_isStart hc, hs⟩

/-- A name begins like a phrase. -/
lemma IsName.exists_cons {x : String} (h : IsName x) :
    ∃ c t, x.toList = c :: t ∧ isPhraseStart c = true := by
  obtain ⟨c, s, hx, hc, -⟩ := h.exists_eq
  exact ⟨c, s, hx, isPhraseStart_of_isPart (isPart_of_isStart hc)⟩

/-- A run of digits begins like a phrase. -/
lemma IsNumeral.exists_cons {s : List Char} (h : IsNumeral s) :
    ∃ c t, s = c :: t ∧ isPhraseStart c = true := by
  obtain ⟨c, t, rfl⟩ := List.exists_cons_of_ne_nil h.1
  exact ⟨c, t, rfl, isPhraseStart_of_isPart (isPart_of_isDigit (h.2 c (by simp)))⟩

/-- A string literal begins like a phrase. -/
lemma StringLiteral.exists_cons {x : String} {s : List Char} (h : StringLiteral x s) :
    ∃ c t, s = c :: t ∧ isPhraseStart c = true := by
  obtain ⟨quote, t, hq, -, rfl⟩ := h
  refine ⟨quote, t ++ [quote], rfl, ?_⟩
  rcases hq with rfl | rfl <;> decide

/-- The words that are literals are names. -/
lemma isName_of_mem_keywords {w : String} {v : Value} (h : (w, v) ∈ keywords) : IsName w := by
  simp only [keywords, List.mem_cons, Prod.mk.injEq, List.not_mem_nil, or_false] at h
  rcases h with ⟨rfl, -⟩ | ⟨rfl, -⟩ | ⟨rfl, -⟩ | ⟨rfl, -⟩ <;> (unfold IsName; decide)

/-- A token that is an expression begins like a phrase. -/
lemma Atom.exists_cons {e : Expr} {s : List Char} (h : Atom e s) :
    ∃ c t, s = c :: t ∧ isPhraseStart c = true := by
  cases h with
  | whole hd _ => exact hd.exists_cons
  | @decimal ws ds hw _ =>
    obtain ⟨c, t, rfl, hc⟩ := hw.exists_cons
    exact ⟨c, t ++ '.' :: ds, rfl, hc⟩
  | string hs => exact hs.exists_cons
  | keyword hw => exact (isName_of_mem_keywords hw).exists_cons
  | «variable» hx _ => exact hx.exists_cons

/-- The name of a member begins like a phrase. -/
lemma Key.exists_cons {x : String} {s : List Char} (h : Key x s) :
    ∃ c t, s = c :: t ∧ isPhraseStart c = true := by
  cases h with
  | word hx => exact hx.exists_cons
  | string hs => exact hs.exists_cons

/-- The parameters of a function begin like a phrase. -/
lemma Parameters.startsAs {ps : List String} {s : List Char} (h : Parameters ps s) :
    StartsAs (Parameters ps) s := by
  cases h with
  | single hg hx =>
    obtain ⟨c, t, ht, hc⟩ := hx.exists_cons
    rw [ht]
    exact startsAs_cons hg hc fun g' hg' => ht ▸ .single hg' hx
  | none hg hh =>
    rw [List.append_assoc, List.cons_append]
    exact startsAs_cons hg (by decide) fun g' hg' => by simpa using Parameters.none hg' hh
  | names hg hs hh =>
    rw [List.append_assoc, List.append_assoc, List.cons_append]
    exact startsAs_cons hg (by decide) fun g' hg' => by simpa using Parameters.names hg' hs hh

/-- **How a phrase begins**: with a gap, which can be exchanged for any other gap, and one of few
characters.

**Proof sketch.** Induction on the derivation.  The first piece of a phrase is a phrase itself, a
token, or a gap and a bracket. -/
lemma Derives.startsAs {p : Phrase} {s : List Char} (h : Derives p s) : StartsAs (Derives p) s := by
  induction h with
  | function hps hg he _ =>
    rw [List.append_assoc]
    exact hps.startsAs.append _ fun u hu => by simpa using Derives.function hu hg he
  | choice _ hg hb hh hc ih _ _ =>
    rw [List.append_assoc, List.append_assoc, List.append_assoc]
    exact ih.append _ fun u hu => by simpa using Derives.choice hu hg hb hh hc
  | chain _ ih => simpa using ih.append [] fun u hu => by simpa using Derives.chain hu
  | operation hm hop _ hg hb ih _ =>
    rw [List.append_assoc, List.append_assoc]
    exact ih.append _ fun u hu => by simpa using Derives.operation hm hop hu hg hb
  | operand _ ih => simpa using ih.append [] fun u hu => by simpa using Derives.operand hu
  | @sign op e g s hop hg he _ =>
    obtain ⟨c, hc, hstart⟩ : ∃ c, op.toList = [c] ∧ isPhraseStart c = true := by
      simp only [Operator.signs, List.mem_cons, List.not_mem_nil, or_false] at hop
      rcases hop with rfl | rfl | rfl
      · exact ⟨'!', by decide⟩
      · exact ⟨'-', by decide⟩
      · exact ⟨'+', by decide⟩
    rw [hc, List.append_assoc, List.singleton_append]
    exact startsAs_cons hg hstart fun g' hg' => by simpa [hc] using Derives.sign hop hg' he
  | unsigned _ ih => simpa using ih.append [] fun u hu => by simpa using Derives.unsigned hu
  | access _ hg hh hx ih =>
    rw [List.append_assoc, List.append_assoc]
    exact ih.append _ fun u hu => by simpa using Derives.access hu hg hh hx
  | call _ hg hps ht hh ih _ =>
    rw [List.append_assoc, List.append_assoc, List.append_assoc]
    exact ih.append _ fun u hu => by simpa using Derives.call hu hg hps ht hh
  | index _ hg hk hh ih _ =>
    rw [List.append_assoc, List.append_assoc, List.append_assoc]
    exact ih.append _ fun u hu => by simpa using Derives.index hu hg hk hh
  | primary _ ih => simpa using ih.append [] fun u hu => by simpa using Derives.primary hu
  | group hg hps ht hh _ =>
    rw [List.append_assoc, List.append_assoc, List.cons_append]
    exact startsAs_cons hg (by decide) fun g' hg' => by simpa using Derives.group hg' hps ht hh
  | array hg hps ht hh _ =>
    rw [List.append_assoc, List.append_assoc, List.cons_append]
    exact startsAs_cons hg (by decide) fun g' hg' => by simpa using Derives.array hg' hps ht hh
  | object hg hps ht hh _ =>
    rw [List.append_assoc, List.append_assoc, List.cons_append]
    exact startsAs_cons hg (by decide) fun g' hg' => by simpa using Derives.object hg' hps ht hh
  | atom hg ha =>
    obtain ⟨c, t, rfl, hc⟩ := ha.exists_cons
    exact startsAs_cons hg hc fun g' hg' => .atom hg' ha
  | named hg hk hh he _ =>
    obtain ⟨c, t, rfl, hc⟩ := hk.exists_cons
    rw [List.append_assoc, List.append_assoc, List.cons_append]
    exact startsAs_cons hg hc fun g' hg' => by simpa using Derives.named hg' hk hh he

/-- The text begins with a gap and a character that can be the first one of a phrase. -/
def Starts (s : List Char) : Prop := ∃ g c t, IsGap g ∧ isPhraseStart c = true ∧ s = g ++ c :: t

/-- What follows does not matter for the beginning of a text. -/
lemma Starts.append {s : List Char} (h : Starts s) (t : List Char) : Starts (s ++ t) := by
  obtain ⟨g, c, u, hg, hc, rfl⟩ := h
  exact ⟨g, c, u ++ t, hg, hc, by simp⟩

/-- A phrase begins with one of few characters. -/
lemma Derives.starts {p : Phrase} {s : List Char} (h : Derives p s) : Starts s := by
  obtain ⟨g, c, t, hg, hc, hs, -⟩ := h.startsAs
  exact ⟨g, c, t, hg, hc, hs⟩

/-- No phrase derives the empty text. -/
lemma Derives.ne_nil {p : Phrase} {s : List Char} (h : Derives p s) : s ≠ [] := by
  obtain ⟨g, c, t, -, -, rfl⟩ := h.starts
  simp

/-- A phrase stays one behind a gap. -/
lemma Derives.gap_append {p : Phrase} {s g : List Char} (hg : IsGap g) (h : Derives p s) :
    Derives p (g ++ s) := by
  obtain ⟨g', c, t, hg', -, rfl, hP⟩ := h.startsAs
  simpa using hP (g ++ g') (hg.append hg')

/-- A character of a gap begins no phrase. -/
lemma isGap_of_isPhraseStart {c : Char} (h : isPhraseStart c = true) : Text.isGap c = false := by
  cases hgap : Text.isGap c with
  | false => rfl
  | true =>
    simp only [Text.isGap, Bool.or_eq_true, beq_iff_eq] at hgap
    rcases hgap with ((rfl | rfl) | rfl) | rfl <;> exact absurd h (by decide)

/-- The gap before a phrase is skipped within it. -/
lemma Starts.skipGap_append {s : List Char} (h : Starts s) (r : List Char) :
    Scan.skipGap (s ++ r) = Scan.skipGap s ++ r := by
  obtain ⟨g, c, t, hg, hc, rfl⟩ := h
  have hgap := isGap_of_isPhraseStart hc
  rw [List.append_assoc, Scan.skipGap_append hg, Scan.skipGap_append hg, List.cons_append,
    Scan.skipGap_cons hgap, Scan.skipGap_cons hgap, List.cons_append]

/-- A phrase stays one without the gap before it. -/
lemma Derives.without_gap {p : Phrase} {s : List Char} (h : Derives p s) :
    Derives p (Scan.skipGap s) := by
  obtain ⟨g, c, t, hg, hc, rfl, hP⟩ := h.startsAs
  rw [Scan.skipGap_append hg, Scan.skipGap_cons (isGap_of_isPhraseStart hc)]
  exact hP [] Scan.isGap_nil

/-- A chain is one at every looser level. -/
lemma Derives.chain_mono {m n : Nat} {e : Expr} {s : List Char} (hmn : m ≤ n)
    (h : Derives (.chain n e) s) : Derives (.chain m e) s := by
  cases h with
  | operation hm hop ha hg hb => exact .operation (hmn.trans hm) hop ha hg hb
  | operand he => exact .operand he

end LambdaQuery.Grammar
