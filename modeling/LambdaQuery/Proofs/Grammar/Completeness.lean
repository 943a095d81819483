import LambdaQuery.Proofs.Grammar.Chains

/-!
# What is derived is read

A text that the grammar derives is read as a whole, with the tree of the derivation, provided that
what follows it cannot belong to it.

A function is tried before anything else, so besides reading functions it has to be shown that
nothing else begins like one.  Only a group can be mistaken for parameters, and what is read as
parameters is then a group of words.

## Main definitions

* `LambdaQuery.Grammar.NoArrow` — the parameters that a phrase begins with are followed by no arrow.

## Main results

* `LambdaQuery.Grammar.parameters_append` — the parameters of a function are read.
* `LambdaQuery.Grammar.noArrow_of_derives` — a chain does not begin like a function.
* `LambdaQuery.Grammar.reads_nested` — one round of the recursion.
* `LambdaQuery.Grammar.reads_scanWithin`, `LambdaQuery.Grammar.scan_append` — the whole recursion.
-/

set_option autoImplicit false

namespace LambdaQuery.Grammar

open Scan LambdaQuery.Expr

/-! ## Functions -/

/-- A further parameter is read. -/
lemma nextParameter_append {g h : List Char} {x : String} (hg : IsGap g) (hh : IsGap h)
    (hx : IsName x) {rest : List Char} (hrest : ∀ c ∈ rest.head?, Identifier.isPart c = false) :
    nextParameter (g ++ ',' :: (h ++ (x.toList ++ rest))) = some (x, rest) := by
  have hcomma : token [','] (g ++ ',' :: (h ++ (x.toList ++ rest))) =
      some (h ++ (x.toList ++ rest)) := by
    simpa using token_append hg (show Text.isGap ',' = false by decide) [] _
  have hskip : skipGap (h ++ (x.toList ++ rest)) = x.toList ++ rest := by
    obtain ⟨c, u, hxs, hc, -⟩ := hx.exists_eq
    rw [skipGap_append hh, hxs, List.cons_append,
      skipGap_cons (ne_of_isPart (isPart_of_isStart hc)).1]
  simp only [nextParameter, hcomma, bind, Option.bind_some, hskip, identifier_append hx hrest]

/-- A scan of further parameters shortens its text. -/
lemma shortens_nextParameter : Shortens nextParameter := by
  intro s x r h
  simp only [nextParameter, bind, Option.bind_eq_some_iff] at h
  obtain ⟨s₁, hs₁, hx⟩ := h
  have hle := finds_identifier.length_le hx
  have hgap := length_skipGap_le s₁
  have hlt := length_lt_of_token hs₁
  omega

/-- Names with commas between them are read up to the closing parenthesis. -/
lemma many_nextParameter_append {xs : List String} {s : List Char} (hs : Names xs s)
    {g h : List Char} (hg : IsGap g) (hh : IsGap h) (rest : List Char) :
    many nextParameter (g ++ ',' :: (s ++ (h ++ ')' :: rest))) = (xs, h ++ ')' :: rest) := by
  have hstop : ∀ c ∈ (h ++ ')' :: rest).head?, Identifier.isPart c = false :=
    (endsToken_of_cons hh (by decide) (by decide) rest).1
  have hnone : nextParameter (h ++ ')' :: rest) = none := by
    have hcomma : token [','] (h ++ ')' :: rest) = none := by
      refine token_eq_none fun d hd => ?_
      rw [head?_skipGap_append hh (by decide), Option.mem_def, Option.some.injEq] at hd
      exact hd ▸ by decide
    simp [nextParameter, hcomma]
  induction hs generalizing g with
  | @last x g' hg' hx =>
    rw [List.append_assoc,
      many_of_some shortens_nextParameter (nextParameter_append hg hg' hx hstop),
      many_of_none hnone]
  | @cons x xs g' h' s hg' hx hh' _ ih =>
    have hends : EndsToken (h' ++ ',' :: (s ++ (h ++ ')' :: rest))) :=
      endsToken_of_cons hh' (by decide) (by decide) _
    rw [show g' ++ x.toList ++ h' ++ ',' :: s ++ (h ++ ')' :: rest) =
        g' ++ (x.toList ++ (h' ++ ',' :: (s ++ (h ++ ')' :: rest)))) by simp,
      many_of_some shortens_nextParameter (nextParameter_append hg hg' hx hends.1), ih hh']

/-- The parameters of a function are read. -/
lemma parameters_append {ps : List String} {s : List Char} (h : Parameters ps s) {rest : List Char}
    (hrest : EndsToken rest) : parameters (skipGap (s ++ rest)) = some (ps, rest) := by
  have hparen : Text.isGap '(' = false := by decide
  have hclose : ∀ {h : List Char}, IsGap h → token [')'] (h ++ ')' :: rest) = some rest := by
    intro h hh
    simpa using token_append hh (show Text.isGap ')' = false by decide) [] rest
  have hopen : ∀ u, parameters ('(' :: u) = parenthesizedParameters ('(' :: u) := by
    intro u
    simp only [parameters, identifier_eq_none (s := '(' :: u) (by simp; decide)]
    rfl
  cases h with
  | @single x g hg hx =>
    obtain ⟨c, u, hxs, hc, -⟩ := hx.exists_eq
    have hskip : skipGap (x.toList ++ rest) = x.toList ++ rest := by
      rw [hxs, List.cons_append, skipGap_cons (ne_of_isPart (isPart_of_isStart hc)).1]
    rw [List.append_assoc, skipGap_append hg, hskip]
    simp only [parameters, identifier_append hx hrest.1]
    rfl
  | @none g h hg hh =>
    have hnone : identifier (skipGap (h ++ ')' :: rest)) = none := by
      refine identifier_eq_none fun c hc => ?_
      rw [head?_skipGap_append hh (by decide), Option.mem_def, Option.some.injEq] at hc
      exact hc ▸ by decide
    have hclose' : token [')'] (skipGap (h ++ ')' :: rest)) = some rest := by
      rw [skipGap_append hh]
      exact hclose (h := skipGap []) (by simp [skipGap])
    rw [show g ++ '(' :: h ++ [')'] ++ rest = g ++ '(' :: (h ++ ')' :: rest) by simp,
      skipGap_append hg, skipGap_cons hparen, hopen]
    simp only [parenthesizedParameters, after?_singleton_cons, if_true, bind, Option.bind_some,
      hnone, hclose', pure]
  | @names _ g s h hg hs hh =>
    have hmany := many_nextParameter_append hs isGap_nil hh rest
    rw [show g ++ '(' :: s ++ h ++ [')'] ++ rest = g ++ '(' :: (s ++ (h ++ ')' :: rest)) by simp,
      skipGap_append hg, skipGap_cons hparen, hopen]
    -- the first name is read like a further one behind a comma
    have hnext : nextParameter (',' :: (s ++ (h ++ ')' :: rest))) =
        identifier (skipGap (s ++ (h ++ ')' :: rest))) := by
      simp [nextParameter, token, skipGap_cons (show Text.isGap ',' = false by decide)]
    rw [List.nil_append] at hmany
    cases hfirst : identifier (skipGap (s ++ (h ++ ')' :: rest))) with
    | none =>
      rw [many_of_none (by rw [hnext, hfirst])] at hmany
      have hlen := congrArg (fun p => p.2.length) hmany
      simp only [List.length_cons, List.length_append] at hlen
      omega
    | some xr =>
      obtain ⟨x, r⟩ := xr
      rw [many_of_some shortens_nextParameter (by rw [hnext, hfirst]), Prod.mk.injEq] at hmany
      simp only [parenthesizedParameters, after?_singleton_cons, if_true, bind, Option.bind_some,
        hfirst, hmany.1, hmany.2, hclose hh, pure]

/-! ## A chain is no function -/

/-- No parameters begin with a character that begins no name and is no parenthesis. -/
lemma parameters_eq_none {g : List Char} (hg : IsGap g) {c : Char} (hgap : Text.isGap c = false)
    (hc : Identifier.isStart c = false ∧ c ≠ '(') (s : List Char) :
    parameters (skipGap (g ++ c :: s)) = none := by
  rw [skipGap_append hg, skipGap_cons hgap]
  simp [parameters, parenthesizedParameters, identifier_eq_none (s := c :: s) (by simpa using hc.1),
    hc.2]

/-- Names with commas between them are also expressions with commas between them. -/
lemma Names.exists_commaList {xs : List String} {s : List Char} (h : Names xs s) :
    ∃ ps : List (Expr × List Char),
      (∀ p ∈ ps, Derives (.expr p.1) p.2) ∧ CommaList (ps.map Prod.snd) s := by
  have hname : ∀ {x : String} {g : List Char}, IsGap g → IsName x →
      Derives (.expr (ofWord x)) (g ++ x.toList) := fun hg hx =>
    .chain (.operand (.unsigned (.primary (.atom hg (atom_ofWord hx)))))
  induction h with
  | @last x g hg hx => exact ⟨[(ofWord x, g ++ x.toList)], by simpa using hname hg hx, .last _⟩
  | @cons x xs g h s hg hx hh _ ih =>
    obtain ⟨ps, hps, hs⟩ := ih
    refine ⟨(ofWord x, g ++ x.toList) :: ps, fun p hp => ?_, .cons _ hh hs⟩
    rcases List.mem_cons.1 hp with rfl | hp
    · exact hname hg hx
    · exact hps p hp

/-- There is no closing parenthesis among names. -/
lemma Names.not_mem {xs : List String} {s : List Char} (h : Names xs s) : ')' ∉ s := by
  have hgap : ∀ {g : List Char}, IsGap g → ')' ∉ g := fun hg hmem =>
    absurd (hg _ hmem) (by decide)
  have hname : ∀ {x : String}, IsName x → ')' ∉ x.toList := by
    intro x hx hmem
    obtain ⟨c, u, hxs, hc, hu⟩ := hx.exists_eq
    rw [hxs] at hmem
    rcases List.mem_cons.1 hmem with rfl | hmem
    · exact absurd hc (by decide)
    · exact absurd (hu _ hmem) (by decide)
  induction h with
  | last hg hx => simp [hgap hg, hname hx]
  | cons hg hx hh _ ih => simp [hgap hg, hname hx, hgap hh, ih]

/-- Up to a character that does not occur before, one text is no longer than another. -/
lemma length_le_of_append_cons_eq {c : Char} {s t u v : List Char} (hs : c ∉ s)
    (h : s ++ c :: u = t ++ c :: v) : s.length ≤ t.length := by
  induction s generalizing t with
  | nil => simp
  | cons d s ih =>
    cases t with
    | nil =>
      obtain ⟨rfl, -⟩ := List.cons.inj h
      simp at hs
    | cons d' t =>
      obtain ⟨-, h⟩ := List.cons.inj h
      have := ih (fun hmem => hs (List.mem_cons_of_mem _ hmem)) h
      simp only [List.length_cons]
      omega

/-- Parameters in parentheses are also expressions in parentheses, with no closing parenthesis
among them. -/
lemma exists_of_parenthesized {ps : List String} {u r : List Char}
    (hparams : parameters ('(' :: u) = some (ps, r)) :
    ∃ (qs : List (Expr × List Char)) (s h : List Char), (∀ q ∈ qs, Derives (.expr q.1) q.2) ∧
      CommaList (qs.map Prod.snd) s ∧ IsGap h ∧ ')' ∉ s ++ h ∧ u = s ++ (h ++ ')' :: r) := by
  have hgap : ∀ {h : List Char}, IsGap h → ')' ∉ h := fun hh hmem =>
    absurd (hh _ hmem) (by decide)
  obtain ⟨t, ht, hps⟩ := finds_parameters hparams
  have hps := hps [] isGap_nil
  rw [List.nil_append] at hps
  generalize hw : t = w at hps
  -- behind no gap, only the two forms with parentheses begin with one
  have hnogap : ∀ {g s' : List Char}, IsGap g → '(' :: u = g ++ s' → g = [] := by
    intro g s' hg hgs
    cases g with
    | nil => rfl
    | cons c g =>
      obtain ⟨rfl, -⟩ := List.cons.inj hgs
      exact absurd (hg '(' (by simp)) (by decide)
  cases hps with
  | @single x g hg hx =>
    obtain ⟨c, v, hxs, hc, -⟩ := hx.exists_eq
    have hall : '(' :: u = g ++ (x.toList ++ r) := by rw [ht, hw, List.append_assoc]
    obtain rfl := hnogap hg hall
    rw [hxs] at hall
    obtain ⟨rfl, -⟩ := List.cons.inj hall
    exact absurd hc (by decide)
  | @none g h hg hh =>
    have hall : '(' :: u = g ++ ('(' :: (h ++ ')' :: r)) := by rw [ht, hw]; simp
    obtain rfl := hnogap hg hall
    obtain ⟨-, rfl⟩ := List.cons.inj hall
    exact ⟨[], [], h, by simp, .nil, hh, by simpa using hgap hh, rfl⟩
  | @names _ g s h hg hs hh =>
    have hall : '(' :: u = g ++ ('(' :: (s ++ (h ++ ')' :: r))) := by rw [ht, hw]; simp
    obtain rfl := hnogap hg hall
    obtain ⟨-, rfl⟩ := List.cons.inj hall
    obtain ⟨qs, hqs, hlist⟩ := hs.exists_commaList
    exact ⟨qs, s, h, hqs, hlist, hh, by simp [hs.not_mem, hgap hh], rfl⟩

/-- What the text of a phrase that is part of a chain says about functions: parameters that are
read from its start are followed by no arrow. -/
def NoArrow : Phrase → List Char → Prop
  | .expr _, _ => True
  | .member _ _, _ => True
  | _, t => ∀ rest, EndsToken rest → token ['=', '>'] rest = none → ∀ ps r,
      parameters (skipGap (t ++ rest)) = some (ps, r) → token ['=', '>'] r = none

/-- A text whose next character is no equality sign begins with no arrow. -/
lemma arrow_eq_none {g : List Char} (hg : IsGap g) {c : Char} (hgap : Text.isGap c = false)
    (hc : c ≠ '=') (s : List Char) : token ['=', '>'] (g ++ c :: s) = none := by
  refine token_eq_none fun d hd => ?_
  rw [head?_skipGap_append hg hgap, Option.mem_def, Option.some.injEq] at hd
  exact hd ▸ hc

/-- An operator is no arrow. -/
lemma arrow_eq_none_of_operator {k : Nat} {op : String} (hop : op ∈ infixOperators k)
    {g : List Char} (hg : IsGap g) (s : List Char) :
    token ['=', '>'] (g ++ (op.toList ++ s)) = none := by
  obtain ⟨c, t, hct, -, hgap, -, -, -, -, heq⟩ := exists_of_mem_infixOperators hop
  rw [hct, List.cons_append]
  by_cases hc : c = '='
  · obtain ⟨u, rfl⟩ : ∃ u, t = '=' :: u := by
      cases t with
      | nil => simpa using heq hc
      | cons d u => exact ⟨u, by simpa using heq hc⟩
    subst hc
    simp [token, skipGap_append hg, skipGap_cons hgap, after?]
  · exact arrow_eq_none hg hgap hc _

/-- A token does not begin like a function: if it is a word, it is the only parameter, and otherwise
there are no parameters. -/
lemma noArrow_atom {e : Expr} {g s : List Char} (hg : IsGap g) (ha : Atom e s) :
    NoArrow (.primary e) (g ++ s) := by
  intro rest hrest harrow params r hparams
  have hword : ∀ {x : String}, IsName x → s = x.toList → token ['=', '>'] r = none := by
    rintro x hx rfl
    rw [parameters_append (.single hg hx) hrest, Option.some.injEq, Prod.mk.injEq] at hparams
    rwa [← hparams.2]
  have hother : ∀ {c : Char} {u : List Char}, s = c :: u → Text.isGap c = false →
      Identifier.isStart c = false ∧ c ≠ '(' → token ['=', '>'] r = none := by
    rintro c u rfl hgap hc
    rw [List.append_assoc, List.cons_append, parameters_eq_none hg hgap hc] at hparams
    contradiction
  have hdigit : ∀ {ds u : List Char}, IsNumeral ds → s = ds ++ u → token ['=', '>'] r = none := by
    rintro ds u ⟨hne, hds⟩ rfl
    obtain ⟨d, ds, rfl⟩ := List.exists_cons_of_ne_nil hne
    have hd := hds d (by simp)
    obtain ⟨hgap, hparen, -⟩ := ne_of_isPart (isPart_of_isDigit hd)
    refine hother rfl hgap ⟨?_, hparen⟩
    cases hstart : Identifier.isStart d with
    | false => rfl
    | true =>
      rw [isDigit_of_isStart hstart] at hd
      contradiction
  cases ha with
  | whole hds _ => exact hdigit (u := []) hds (by simp)
  | decimal hws _ => exact hdigit hws rfl
  | string hs =>
    obtain ⟨quote, u, hq, -, rfl⟩ := hs
    refine hother rfl ?_ ?_
    · rcases hq with rfl | rfl <;> decide
    · rcases hq with rfl | rfl <;> decide
  | keyword hw => exact hword (isName_of_mem_keywords hw) rfl
  | «variable» hx _ => exact hword hx rfl

section Productions

variable {sub : Scan Expr} (hsub : Finds sub fun e t => Derives (.expr e) t) {n : Nat}
  (hread : Reads sub n)

include hsub hread in
/-- A group does not begin like a function: what is read as parameters is a list of expressions in
the same parentheses, so the same text follows both. -/
lemma noArrow_group {ps : List (Expr × List Char)} {g t h : List Char} (hg : IsGap g)
    (hps : ∀ p ∈ ps, Derives (.expr p.1) p.2) (ht : CommaList (ps.map Prod.snd) t) (hh : IsGap h)
    (hlen : (t ++ h).length ≤ n) :
    NoArrow (.primary (.group (ps.map Prod.fst))) (g ++ '(' :: t ++ h ++ [')']) := by
  intro rest _ harrow params r hparams
  rw [show g ++ '(' :: t ++ h ++ [')'] ++ rest = g ++ '(' :: (t ++ (h ++ ')' :: rest)) by simp,
    skipGap_append hg, skipGap_cons (by decide)] at hparams
  obtain ⟨qs, s, h', hqs, hs, hh', hmem, heq⟩ := exists_of_parenthesized hparams
  have hle : (s ++ h').length ≤ (t ++ h).length :=
    length_le_of_append_cons_eq hmem (by simpa using heq.symm)
  simp only [List.length_append] at hle hlen
  have hlist := bracketed_expr hsub hread '(' (.inl rfl) hps ht hh (by omega) rest
  have hlist' := bracketed_expr hsub hread '(' (.inl rfl) hqs hs hh' (by omega) r
  rw [heq, hlist', Option.some.injEq, Prod.mk.injEq] at hlist
  rwa [hlist.2]

include hsub hread in
/-- **A chain does not begin like a function.**

**Proof sketch.** Induction on the derivation, down to the primary expression at the start; what
follows that one in a chain is no arrow. -/
lemma noArrow_of_derives {p : Phrase} {t : List Char} (h : Derives p t) (hlen : t.length ≤ n + 1) :
    NoArrow p t := by
  induction h with
  | function _ _ _ _ => trivial
  | choice _ _ _ _ _ _ _ _ => trivial
  | chain _ _ => trivial
  | @operation m k op a b s g t hmk hop _ hg ht ih _ =>
    simp only [List.length_append] at hlen
    intro rest hrest _
    rw [show s ++ g ++ op.toList ++ t ++ rest = s ++ (g ++ (op.toList ++ (t ++ rest))) by simp]
    exact ih (by omega) _ (endsChain_of_operator hop hg _).endsToken
      (arrow_eq_none_of_operator hop hg _)
  | operand _ ih => exact ih hlen
  | @sign op e g s hop hg _ _ =>
    intro rest _ _ ps r h
    have hnone : parameters (skipGap (g ++ op.toList ++ s ++ rest)) = none := by
      simp only [Operator.signs, List.mem_cons, List.not_mem_nil, or_false] at hop
      rw [List.append_assoc, List.append_assoc]
      rcases hop with rfl | rfl | rfl <;>
        exact parameters_eq_none hg (by decide) (by decide) _
    rw [hnone] at h
    contradiction
  | unsigned _ ih => exact ih hlen
  | @access e x s g h _ hg hh hx ih =>
    simp only [List.length_append] at hlen
    intro rest hrest _
    rw [show s ++ g ++ '.' :: h ++ x.toList ++ rest =
      s ++ (g ++ '.' :: (h ++ (x.toList ++ rest))) by simp]
    exact ih (by omega) _ (endsToken_access hg hh hx rest)
      (arrow_eq_none hg (by decide) (by decide) _)
  | @call e ps s g t h _ hg hps ht hh ih _ =>
    simp only [List.length_append] at hlen
    intro rest hrest _
    rw [show s ++ g ++ '(' :: t ++ h ++ [')'] ++ rest =
      s ++ (g ++ '(' :: (t ++ (h ++ ')' :: rest))) by simp]
    exact ih (by omega) _ (endsToken_of_cons hg (by decide) (by decide) _)
      (arrow_eq_none hg (by decide) (by decide) _)
  | @index e k s g t h _ hg ht hh ih _ =>
    simp only [List.length_append] at hlen
    intro rest hrest _
    rw [show s ++ g ++ '[' :: t ++ h ++ [']'] ++ rest =
      s ++ (g ++ '[' :: (t ++ (h ++ ']' :: rest))) by simp]
    exact ih (by omega) _ (endsToken_of_cons hg (by decide) (by decide) _)
      (arrow_eq_none hg (by decide) (by decide) _)
  | primary _ ih => exact ih hlen
  | @group ps g t h hg hps ht hh _ =>
    simp only [List.length_append, List.length_cons, List.length_nil] at hlen
    exact noArrow_group hsub hread hg hps ht hh (by simp only [List.length_append]; omega)
  | @array ps g t h hg _ _ _ _ =>
    intro rest _ _ params r hparams
    rw [show g ++ '[' :: t ++ h ++ [']'] ++ rest = g ++ '[' :: (t ++ (h ++ ']' :: rest)) by simp,
      parameters_eq_none hg (by decide) (by decide)] at hparams
    contradiction
  | @object ps g t h hg _ _ _ _ =>
    intro rest _ _ params r hparams
    rw [show g ++ '\x7b' :: t ++ h ++ ['\x7d'] ++ rest =
        g ++ '\x7b' :: (t ++ (h ++ '\x7d' :: rest)) by simp,
      parameters_eq_none hg (by decide) (by decide)] at hparams
    contradiction
  | atom hg ha => exact noArrow_atom hg ha
  | named _ _ _ _ _ => trivial

include hsub hread in
/-- No function is read where a chain stands that no arrow follows. -/
lemma function_eq_none {e : Expr} {t : List Char} (h : Derives (.chain 0 e) t)
    (hlen : t.length ≤ n + 1) {rest : List Char} (hrest : EndsChain 0 rest)
    (harrow : token ['=', '>'] rest = none) : function sub (skipGap (t ++ rest)) = none := by
  have hchain : NoArrow (.chain 0 e) t := noArrow_of_derives hsub hread h hlen
  cases hps : parameters (skipGap (t ++ rest)) with
  | none => simp [function, hps]
  | some p =>
    obtain ⟨ps, r⟩ := p
    simp [function, hps, hchain rest hrest.endsToken harrow ps r hps]

/-! ## The recursion -/

include hsub hread in
/-- **One round of the recursion**: an expression is read if the ones nested in it are.

**Proof sketch.** A function is tried first; it is read if the text is one, and nothing is read as
a function otherwise, because a chain does not begin like one. -/
lemma reads_nested : Reads (nested sub) (n + 1) := by
  intro e t h hlen rest hrest
  have hnested : ∀ s, function sub (skipGap s) = none → nested sub s = choice sub (skipGap s) := by
    intro s hs
    simp only [nested, hs]
    rfl
  have hcolon : Text.isGap ':' = false := by decide
  have hmark : Text.isGap '?' = false := by decide
  cases h with
  | @function ps e s g t hps hg ht =>
    simp only [List.length_append, List.length_cons] at hlen
    have hends : EndsToken (g ++ '=' :: '>' :: (t ++ rest)) :=
      endsToken_of_cons hg (by decide) (by decide) _
    have harrow : token ['=', '>'] (g ++ '=' :: '>' :: (t ++ rest)) = some (t ++ rest) := by
      simpa using token_append hg (show Text.isGap '=' = false by decide) ['>'] (t ++ rest)
    rw [show s ++ g ++ '=' :: '>' :: t ++ rest = s ++ (g ++ '=' :: '>' :: (t ++ rest)) by simp]
    simp only [nested, function, parameters_append hps hends, harrow,
      hread ht (by omega) rest hrest, bind, Option.bind_some, pure]
    rfl
  | @choice a b c s g t h u ha hg hb hh hc =>
    simp only [List.length_append, List.length_cons] at hlen
    have hends : EndsChain 0 (g ++ '?' :: (t ++ (h ++ ':' :: (u ++ rest)))) :=
      endsChain_of_cons hg hmark (by decide) _
    have hyes : token ['?'] (g ++ '?' :: (t ++ (h ++ ':' :: (u ++ rest)))) =
        some (t ++ (h ++ ':' :: (u ++ rest))) := by
      simpa using token_append hg hmark [] (t ++ (h ++ ':' :: (u ++ rest)))
    have hno : token [':'] (h ++ ':' :: (u ++ rest)) = some (u ++ rest) := by
      simpa using token_append hh hcolon [] (u ++ rest)
    have hb' : sub (t ++ (h ++ ':' :: (u ++ rest))) = some (b, h ++ ':' :: (u ++ rest)) :=
      hread hb (by omega) _ (endsExpr_of_cons hh (by decide) _)
    have hbranches : branches sub (g ++ '?' :: (t ++ (h ++ ':' :: (u ++ rest)))) =
        some ((b, c), rest) := by
      simp only [branches, hyes, hb', hno, hread hc (by omega) rest hrest, bind, Option.bind_some,
        pure]
    rw [show s ++ g ++ '?' :: t ++ h ++ ':' :: u ++ rest =
      s ++ (g ++ '?' :: (t ++ (h ++ ':' :: (u ++ rest)))) by simp]
    rw [hnested _ (function_eq_none hsub hread ha (by omega) hends
      (arrow_eq_none hg hmark (by decide) _))]
    simp only [choice, chains_skipGap_append hsub hread ha (by omega) hends, hbranches, bind,
      Option.bind_some, pure]
  | chain h =>
    have hnone : ∀ c u, c = '=' ∨ c = '?' → token (c :: u) rest = none := by
      intro c u hc
      refine token_eq_none fun d hd => ?_
      have hmem := hrest d hd
      rintro rfl
      rcases hc with rfl | rfl <;> exact absurd hmem (by decide)
    have hbranches : branches sub rest = none := by
      simp [branches, hnone '?' [] (.inr rfl)]
    rw [hnested _ (function_eq_none hsub hread h hlen hrest.endsChain (hnone '=' ['>'] (.inl rfl)))]
    simp only [choice, chains_skipGap_append hsub hread h hlen hrest.endsChain, hbranches, bind,
      Option.bind_some, pure]

end Productions

/-- **What is derived is read within a budget of its length.** -/
lemma reads_scanWithin (budget : List Char) : Reads (scanWithin budget) budget.length := by
  induction budget with
  | nil =>
    intro e t h hlen
    exact absurd (List.length_eq_zero_iff.1 (Nat.le_zero.1 hlen)) h.ne_nil
  | cons c budget ih => exact reads_nested (finds_scanWithin budget) ih

/-- **What is derived is read**: an expression is read from the start of a text, if what follows can
follow an expression. -/
lemma scan_append {e : Expr} {t : List Char} (h : Derives (.expr e) t) {rest : List Char}
    (hrest : EndsExpr rest) : scan (t ++ rest) = some (e, rest) :=
  reads_scanWithin (t ++ rest) h (by simp) rest hrest

end LambdaQuery.Grammar
