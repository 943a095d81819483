import LambdaQuery.Proofs.Binary64.Decimal
import LambdaQuery.Proofs.Clause.Outermost
import LambdaQuery.Proofs.Expr.RoundTrip
import LambdaQuery.Proofs.Outcome
import LambdaQuery.Proofs.Text.Capital

/-!
# Brackets and strings in a clause

A clause is scanned for its brackets: a double quote goes into a string or out of it, brackets in
strings do not count, and all others have to be closed in the reverse order in which they were
opened.  The clause of a source text passes this scan, whatever is captured: a captured text stays
inside its own quotes, since each quote in it is written twice.

## Main definitions

* `LambdaQuery.Nesting` — whether a scan is in a string, and the brackets that are open.
* `LambdaQuery.isWellBracketed` — the brackets and quotes of a text match.
* `LambdaQuery.IsNeutral` — a text that leaves a scan outside strings as it was.
* `LambdaQuery.Expr.keys` — the names of members of the objects in an expression.

## Main results

* `LambdaQuery.Value.isNeutral_literal` — a literal leaves the scan as it was.
* `LambdaQuery.Expr.isNeutral_text` — so does the text of an expression.
* `LambdaQuery.compileSource_isWellBracketed` — the brackets and quotes of a clause match.
-/

set_option autoImplicit false

namespace LambdaQuery

open Clause Grammar LambdaQuery.Expr

/-! ## Scanning for brackets -/

/-- What a scan for brackets knows. -/
structure Nesting where
  /-- The scan is inside a string. -/
  inString : Bool
  /-- The brackets that close those that are open, the innermost first. -/
  closers : List Char
deriving DecidableEq

/-- One step of a scan; none at a bracket that closes nothing or something else. -/
def Nesting.step (s : Nesting) (c : Char) : Option Nesting :=
  if c = '"' then some { s with inString := !s.inString }
  else if s.inString then some s
  else if c = '(' then some { s with closers := ')' :: s.closers }
  else if c = '[' then some { s with closers := ']' :: s.closers }
  else if c = ')' ∨ c = ']' then
    match s.closers with
    | [] => none
    | d :: ds => if d = c then some { s with closers := ds } else none
  else some s

/-- The brackets and quotes of a text match: a scan ends outside strings, and all brackets are
closed. -/
def isWellBracketed (text : List Char) : Bool :=
  decide (text.foldlM Nesting.step ⟨false, []⟩ = some ⟨false, []⟩)

/-- The character is neither a quote nor a bracket. -/
def isOrdinary (c : Char) : Bool := !"\"()[]".toList.contains c

/-- The text leaves a scan that is outside strings as it was. -/
def IsNeutral (t : List Char) : Prop :=
  ∀ ds, t.foldlM Nesting.step ⟨false, ds⟩ = some ⟨false, ds⟩

section Scan

variable {c : Char} {s t : List Char} {ts : List (List Char)}

/-- The ordinary characters. -/
lemma isOrdinary_iff :
    isOrdinary c = true ↔ c ≠ '"' ∧ c ≠ '(' ∧ c ≠ ')' ∧ c ≠ '[' ∧ c ≠ ']' := by
  simp [isOrdinary]

/-- An ordinary character leaves a scan as it was. -/
lemma step_of_isOrdinary (h : isOrdinary c = true) (n : Nesting) : n.step c = some n := by
  obtain ⟨hquote, hopen, hclose, hopen', hclose'⟩ := isOrdinary_iff.1 h
  simp [Nesting.step, hquote, hopen, hclose, hopen', hclose']

/-- In a string all characters but the quote leave a scan as it was. -/
lemma step_inString (h : c ≠ '"') (ds : List Char) :
    (Nesting.mk true ds).step c = some ⟨true, ds⟩ := by
  simp [Nesting.step, h]

/-- Two neutral texts, one after the other. -/
lemma IsNeutral.append (hs : IsNeutral s) (ht : IsNeutral t) : IsNeutral (s ++ t) := by
  intro ds
  rw [List.foldlM_append, hs ds]
  exact ht ds

/-- A neutral text behind an ordinary character. -/
lemma IsNeutral.cons (hc : isOrdinary c = true) (ht : IsNeutral t) : IsNeutral (c :: t) := by
  intro ds
  rw [List.foldlM_cons, step_of_isOrdinary hc]
  exact ht ds

/-- A text of ordinary characters is neutral. -/
lemma isNeutral_of_isOrdinary (h : ∀ c ∈ t, isOrdinary c = true) : IsNeutral t := by
  induction t with
  | nil => exact fun _ => rfl
  | cons c t ih =>
    rw [List.forall_mem_cons] at h
    exact (ih h.2).cons h.1

/-- The same for a text that is given. -/
lemma isNeutral_of_all (h : t.all isOrdinary = true) : IsNeutral t :=
  isNeutral_of_isOrdinary (List.all_eq_true.1 h)

/-- A neutral text in parentheses. -/
lemma IsNeutral.parenthesized (ht : IsNeutral t) : IsNeutral ('(' :: t ++ [')']) := by
  intro ds
  change (t ++ [')']).foldlM Nesting.step ⟨false, ')' :: ds⟩ = _
  rw [List.foldlM_append, ht]
  rfl

/-- A neutral text in square brackets. -/
lemma IsNeutral.bracketed (ht : IsNeutral t) : IsNeutral ('[' :: t ++ [']']) := by
  intro ds
  change (t ++ [']']).foldlM Nesting.step ⟨false, ']' :: ds⟩ = _
  rw [List.foldlM_append, ht]
  rfl

/-- A text that leaves a scan in a string is neutral in quotes. -/
lemma isNeutral_quoted (ht : ∀ ds, t.foldlM Nesting.step ⟨true, ds⟩ = some ⟨true, ds⟩) :
    IsNeutral ('"' :: t ++ ['"']) := by
  intro ds
  change (t ++ ['"']).foldlM Nesting.step ⟨true, ds⟩ = _
  rw [List.foldlM_append, ht]
  rfl

/-- A text without quotes leaves a scan in a string. -/
lemma foldlM_step_inString (h : '"' ∉ t) (ds : List Char) :
    t.foldlM Nesting.step ⟨true, ds⟩ = some ⟨true, ds⟩ := by
  induction t with
  | nil => rfl
  | cons c t ih =>
    rw [List.mem_cons, not_or] at h
    rw [List.foldlM_cons, step_inString (Ne.symm h.1)]
    exact ih h.2

/-- A text with its quotes written twice leaves a scan in a string. -/
lemma foldlM_step_doubled (cs ds : List Char) :
    (cs.flatMap fun c => if c = '"' then ['"', '"'] else [c]).foldlM Nesting.step ⟨true, ds⟩ =
      some ⟨true, ds⟩ := by
  induction cs with
  | nil => rfl
  | cons c cs ih =>
    rw [List.flatMap_cons, List.foldlM_append]
    by_cases hc : c = '"'
    · -- out of the string and into it again
      rw [if_pos hc]
      exact ih
    · rw [if_neg hc, List.foldlM_cons, step_inString hc]
      exact ih

end Scan

/-! ## Literals -/

/-- The characters of names and numbers are ordinary. -/
lemma isOrdinary_of_isPart {c : Char} (h : Identifier.isPart c = true) : isOrdinary c = true := by
  rw [isOrdinary_iff]
  refine ⟨?_, ?_, ?_, ?_, ?_⟩ <;> rintro rfl <;> exact absurd h (by decide)

/-- Digits are ordinary. -/
lemma isOrdinary_of_isDigit {c : Char} (h : c.isDigit = true) : isOrdinary c = true :=
  isOrdinary_of_isPart (isPart_of_isDigit h)

/-- A numeral is neutral. -/
lemma isNeutral_natural (n : Nat) : IsNeutral (Text.natural n) :=
  isNeutral_of_isOrdinary fun _ hc => isOrdinary_of_isDigit (Text.isDigit_of_mem_natural hc)

/-- The numeral of an integer is neutral. -/
lemma isNeutral_integer (n : Int) : IsNeutral (Text.integer n) := by
  cases n with
  | ofNat k => exact isNeutral_natural k
  | negSucc k => exact (isNeutral_natural (k + 1)).cons (by decide)

/-- A decimal is neutral. -/
lemma Binary64.isNeutral_positional (v : Nat) : IsNeutral (positional v) := by
  have hdecimals : ∀ c ∈ dropTrailingZeros (Text.padded places (v % Nat.pow 10 places)),
      c.isDigit = true := by
    intro c hc
    obtain ⟨k, hk⟩ := exists_dropTrailingZeros (Text.padded places (v % Nat.pow 10 places))
    have hmem : c ∈ Text.padded places (v % Nat.pow 10 places) := by
      rw [hk]
      exact List.mem_append_left _ hc
    exact Text.isDigit_of_mem_padded hmem
  unfold positional
  generalize dropTrailingZeros _ = decimals at hdecimals ⊢
  cases decimals with
  | nil => exact isNeutral_natural _
  | cons d ds =>
    refine (isNeutral_natural _).append (IsNeutral.cons (by decide) ?_)
    exact isNeutral_of_isOrdinary fun c hc => isOrdinary_of_isDigit (hdecimals c hc)

/-- The text of a floating-point number is neutral. -/
lemma Binary64.isNeutral_text (x : Binary64) : IsNeutral (x.text "Infinity".toList) := by
  have hsign : IsNeutral x.sign := by
    unfold sign
    split_ifs
    · exact isNeutral_of_all (by decide)
    · exact isNeutral_of_all rfl
  unfold Binary64.text
  split_ifs
  · exact isNeutral_of_all (by decide)
  · exact hsign.append (isNeutral_positional _)
  · exact hsign.append (isNeutral_of_all (by decide))

/-- There is no quote in the text of a moment. -/
lemma Instant.quote_notMem_iso (t : Instant) : '"' ∉ t.iso := by
  have hpadded : ∀ width n, '"' ∉ Text.padded width n := by
    intro width n hmem
    exact absurd (Text.isDigit_of_mem_padded hmem) (by decide)
  have hyear : ∀ y, '"' ∉ CalendarDate.yearText y := by
    intro y
    cases y with
    | ofNat k =>
      simp only [CalendarDate.yearText]
      split_ifs <;> simp [hpadded]
    | negSucc k => simp [CalendarDate.yearText, hpadded]
  simp [iso, CalendarDate.text, hpadded, hyear]

/-- **A literal is neutral**, whatever its value: the quotes inside a text are written twice, so a
scan is back in the string after each pair. -/
lemma Value.isNeutral_literal (v : Value) : IsNeutral v.literal := by
  cases v with
  | null => exact isNeutral_of_all (by decide)
  | bool b => cases b <;> exact isNeutral_of_all (by decide)
  | int n => exact isNeutral_integer n.toInt
  | float x => exact x.isNeutral_text
  | string s => exact isNeutral_quoted (foldlM_step_doubled s.toList)
  | date t =>
    have hquoted : (Value.date t).literal =
        '"' :: ("datetime'".toList ++ t.iso ++ ['\'']) ++ ['"'] := by
      change "\"datetime'".toList ++ t.iso ++ ['\'', '"'] = _
      simp
    rw [hquoted]
    refine isNeutral_quoted (foldlM_step_inString ?_)
    simp [t.quote_notMem_iso]

/-! ## Names and words -/

/-- A name is neutral. -/
lemma isNeutral_name {x : String} (h : IsName x) : IsNeutral x.toList :=
  isNeutral_of_isOrdinary fun c hc => isOrdinary_of_isPart (h.isPart_of_mem c hc)

/-- The name of a member is neutral, with a capital or without. -/
lemma isNeutral_memberText (ctx : Context) {x : String} (h : IsName x) :
    IsNeutral (memberText ctx x) := by
  unfold memberText
  split_ifs
  · rw [← String.toList_ofList (l := Text.capitalize x.toList)]
    exact isNeutral_name (Text.isName_capitalize h)
  · exact isNeutral_name h

/-- A word of a list of ordinary words is neutral. -/
lemma isNeutral_of_mem_words (words : List String)
    (h : words.all (fun w => w.toList.all isOrdinary) = true) {w : String} (hw : w ∈ words) :
    IsNeutral w.toList :=
  isNeutral_of_all (List.all_eq_true.1 h w hw)

/-- The word of an operator between operands is neutral. -/
lemma isNeutral_infixWord {op : String} (h : op ∈ Operator.levels.flatten) :
    IsNeutral (Vocabulary.infixWord op).toList :=
  isNeutral_of_mem_words (Operator.levels.flatten.map Vocabulary.infixWord) (by decide)
    (List.mem_map_of_mem h)

/-- The word of a sign is neutral. -/
lemma isNeutral_signWord {op : String} (h : op ∈ Operator.signs) :
    IsNeutral (Vocabulary.signWord op).toList :=
  isNeutral_of_mem_words (Operator.signs.map Vocabulary.signWord) (by decide)
    (List.mem_map_of_mem h)

/-- The function that a method becomes has a neutral name. -/
lemma isNeutral_functionName {x : String} (h : IsName x) :
    IsNeutral (Vocabulary.functionName x).toList := by
  unfold Vocabulary.functionName
  cases hx : Vocabulary.functionNames.lookup x with
  | none => exact isNeutral_name h
  | some w =>
    obtain ⟨before, after, heq, -⟩ := List.lookup_eq_some_iff.1 hx
    have hmem : w ∈ Vocabulary.functionNames.map Prod.snd := by
      rw [heq]
      simp
    exact isNeutral_of_mem_words (Vocabulary.functionNames.map Prod.snd) (by decide) hmem

/-! ## The forms of expressions -/

section Forms

variable {owner : List Char} {ts : List (List Char)} {ctx : Context} {x : String}

/-- Nothing is neutral. -/
lemma isNeutral_nil : IsNeutral [] := fun _ => rfl

/-- Neutral texts with commas between them. -/
lemma isNeutral_commaList (h : ∀ t ∈ ts, IsNeutral t) : IsNeutral (commaList ts) := by
  induction ts with
  | nil => exact isNeutral_nil
  | cons t ts ih =>
    rw [List.forall_mem_cons] at h
    cases ts with
    | nil => simpa using h.1
    | cons u us =>
      rw [commaList_cons_cons]
      exact h.1.append (((ih h.2).cons (by decide)).cons (by decide))

/-- A path step from a neutral owner. -/
lemma isNeutral_pathText (howner : IsNeutral owner) {step : List Char} (hstep : IsNeutral step) :
    IsNeutral (pathText owner step) := by
  unfold pathText
  split_ifs
  · exact hstep
  · exact howner.append (hstep.cons (by decide))

/-- A call with neutral arguments. -/
lemma isNeutral_callText {f : List Char} (hf : IsNeutral f) (h : ∀ t ∈ ts, IsNeutral t) :
    IsNeutral (callText f ts) := by
  rw [callText, List.append_assoc]
  exact hf.append (isNeutral_commaList h).parenthesized

/-- A member of a neutral owner. -/
lemma isNeutral_accessText (howner : IsNeutral owner) (hx : IsName x) :
    IsNeutral (accessText ctx owner x) := by
  unfold accessText
  split_ifs
  · exact (isNeutral_of_all (t := "length".toList) (by decide)).append howner.parenthesized
  · exact isNeutral_pathText howner (isNeutral_memberText ctx hx)

/-- A call of a method of a neutral owner with neutral arguments. -/
lemma isNeutral_methodText (howner : IsNeutral owner) (hx : IsName x)
    (h : ∀ t ∈ ts, IsNeutral t) : IsNeutral (methodText owner x ts) := by
  have hargument : ∀ t ∈ ownerArgument owner, IsNeutral t := by
    unfold ownerArgument
    split_ifs
    · simp
    · simpa using howner
  unfold methodText
  split_ifs
  · exact isNeutral_callText (isNeutral_name hx) h
  · exact isNeutral_callText (isNeutral_of_all (by decide))
      (List.forall_mem_append.2 ⟨h, hargument⟩)
  · exact isNeutral_pathText howner (isNeutral_callText (isNeutral_name hx) h)
  · exact isNeutral_callText (isNeutral_functionName hx)
      (List.forall_mem_append.2 ⟨hargument, h⟩)

/-- A function with its parameters. -/
lemma isNeutral_functionText {ps : List String} (hps : ∀ p ∈ ps, IsName p)
    {body : List Char} (hbody : IsNeutral body) : IsNeutral (functionText ps body) := by
  refine (isNeutral_commaList ?_).append ((hbody.cons (by decide)).cons (by decide))
  intro t ht
  obtain ⟨p, hp, rfl⟩ := List.mem_map.1 ht
  exact isNeutral_name (hps p hp)

/-- A variable: nothing, a literal or a name. -/
lemma isNeutral_variableText (hx : IsName x) (bound : List String) :
    IsNeutral (variableText ctx bound x) := by
  unfold variableText
  split_ifs
  · exact isNeutral_nil
  · cases ctx.scopes.lookup x with
    | none => exact isNeutral_name hx
    | some v => exact v.isNeutral_literal

end Forms

/-! ## Clauses -/

namespace Expr

mutual

/-- The names of the members of the objects in an expression. -/
def keys : Expr → List String
  | .literal _ => []
  | .variable _ => []
  | .unary _ e => e.keys
  | .binary _ a b => a.keys ++ b.keys
  | .group es => keysOfAll es
  | .assign _ e => e.keys
  | .object ms => keysOfMembers ms
  | .array es => keysOfAll es
  | .member e _ => e.keys
  | .index e k => e.keys ++ k.keys
  | .lambda _ e => e.keys
  | .call e es => e.keys ++ keysOfAll es
  | .conditional a b c => a.keys ++ b.keys ++ c.keys

/-- The names of members in expressions. -/
def keysOfAll : List Expr → List String
  | [] => []
  | e :: es => e.keys ++ keysOfAll es

/-- The names of members, and of those inside them. -/
def keysOfMembers : List (String × Expr) → List String
  | [] => []
  | (x, e) :: ms => x :: e.keys ++ keysOfMembers ms

end

/-- All names of members in expressions are names if those in each of them are. -/
lemma forall_mem_keysOfAll {P : String → Prop} {es : List Expr} :
    (∀ x ∈ keysOfAll es, P x) ↔ ∀ e ∈ es, ∀ x ∈ e.keys, P x := by
  induction es with
  | nil => simp [keysOfAll]
  | cons e es ih => rw [keysOfAll, List.forall_mem_append, ih, List.forall_mem_cons]

/-- All names of members are names if each is, and those inside it are. -/
lemma forall_mem_keysOfMembers {P : String → Prop} {ms : List (String × Expr)} :
    (∀ x ∈ keysOfMembers ms, P x) ↔ ∀ m ∈ ms, P m.1 ∧ ∀ x ∈ m.2.keys, P x := by
  induction ms with
  | nil => simp [keysOfMembers]
  | cons m ms ih =>
    obtain ⟨x, e⟩ := m
    rw [keysOfMembers, List.cons_append, List.forall_mem_cons, List.forall_mem_append, ih,
      List.forall_mem_cons, and_assoc]

variable {ctx : Context}

/-- The texts of the expression are neutral, wherever it stands. -/
def HasNeutralTexts (ctx : Context) (e : Expr) : Prop :=
  ∀ bound first t, e.text ctx bound first = .ok t → IsNeutral t

/-- The texts of expressions are neutral if those of each of them are. -/
lemma isNeutral_of_mem_texts {es : List Expr} (h : ∀ e ∈ es, e.HasNeutralTexts ctx)
    {bound : List String} {first : Bool} {ts : List (List Char)}
    (hts : texts ctx bound first es = .ok ts) : ∀ t ∈ ts, IsNeutral t := by
  induction es generalizing first ts with
  | nil =>
    rw [texts, pure_eq_ok_iff] at hts
    simp [hts]
  | cons e es ih =>
    simp only [texts, bind_eq_ok_iff, pure_eq_ok_iff] at hts
    obtain ⟨t, ht, ts', hts', rfl⟩ := hts
    rw [List.forall_mem_cons] at h ⊢
    exact ⟨h.1 bound first t ht, ih h.2 hts'⟩

/-- The texts of members are neutral if their names are names and their texts are neutral. -/
lemma isNeutral_of_mem_memberTexts {ms : List (String × Expr)}
    (h : ∀ m ∈ ms, IsName m.1 ∧ m.2.HasNeutralTexts ctx) {bound : List String}
    {first : Bool} {ts : List (List Char)} (hts : memberTexts ctx bound first ms = .ok ts) :
    ∀ t ∈ ts, IsNeutral t := by
  induction ms generalizing first ts with
  | nil =>
    rw [memberTexts, pure_eq_ok_iff] at hts
    simp [hts]
  | cons m ms ih =>
    obtain ⟨x, e⟩ := m
    simp only [memberTexts, bind_eq_ok_iff, pure_eq_ok_iff] at hts
    obtain ⟨t, ht, ts', hts', rfl⟩ := hts
    rw [List.forall_mem_cons] at h ⊢
    refine ⟨?_, ih h.2 hts'⟩
    have has : IsNeutral " as ".toList := isNeutral_of_all (by decide)
    exact ((isNeutral_name h.1.1).append has).append (h.1.2 bound first t ht)

/-- **The text of an expression is neutral** if its names and operators are those of the language
and the members of its objects have names, whatever is captured.

**Proof sketch.** Induction over the parts that are rendered.  Every bracket that a form of
expression writes is closed by the same form, with neutral texts between the two. -/
lemma isNeutral_text (e : Expr) (hnames : e.isWritable = true)
    (hkeys : ∀ x ∈ e.keys, IsName x) : e.HasNeutralTexts ctx := by
  induction e using renderInduction with
  | literal v =>
    intro bound first t ht
    rw [text, pure_eq_ok_iff] at ht
    rw [ht]
    exact v.isNeutral_literal
  | «variable» x =>
    intro bound first t ht
    simp only [isWritable, Bool.and_eq_true] at hnames
    rw [text, pure_eq_ok_iff] at ht
    rw [ht]
    exact isNeutral_variableText hnames.1 bound
  | unary op e ih =>
    intro bound first t ht
    simp only [isWritable, Bool.and_eq_true, List.contains_iff_mem] at hnames
    simp only [text, bind_eq_ok_iff, pure_eq_ok_iff] at ht
    obtain ⟨u, hu, rfl⟩ := ht
    exact (isNeutral_signWord hnames.1).append (ih hnames.2 hkeys bound first u hu)
  | binary op a b iha ihb =>
    intro bound first t ht
    simp only [isWritable, Bool.and_eq_true, List.contains_iff_mem] at hnames
    obtain ⟨⟨hop, hnamesa⟩, hnamesb⟩ := hnames
    rw [keys, List.forall_mem_append] at hkeys
    simp only [text, bind_eq_ok_iff, pure_eq_ok_iff] at ht
    obtain ⟨u, hu, v, hv, rfl⟩ := ht
    have hright := (ihb hnamesb hkeys.2 _ _ v hv).cons (show isOrdinary ' ' = true by decide)
    refine ((iha hnamesa hkeys.1 _ _ u hu).append ?_).append hright
    exact (isNeutral_infixWord hop).cons (by decide)
  | group es ih =>
    intro bound first t ht
    rw [isWritable, allWritable_iff] at hnames
    rw [keys, forall_mem_keysOfAll] at hkeys
    simp only [text, bind_eq_ok_iff, pure_eq_ok_iff] at ht
    obtain ⟨ts, hts, rfl⟩ := ht
    have hparts : ∀ e ∈ es, e.HasNeutralTexts ctx := fun e he => ih e he (hnames e he) (hkeys e he)
    exact (isNeutral_commaList (isNeutral_of_mem_texts hparts hts)).parenthesized
  | assign x e ih => simp [isWritable] at hnames
  | object ms ih =>
    intro bound first t ht
    rw [isWritable, membersWritable_iff] at hnames
    rw [keys, forall_mem_keysOfMembers] at hkeys
    simp only [text, bind_eq_ok_iff, pure_eq_ok_iff] at ht
    obtain ⟨ts, hts, rfl⟩ := ht
    have hparts : ∀ m ∈ ms, IsName m.1 ∧ m.2.HasNeutralTexts ctx := fun m hm =>
      ⟨(hkeys m hm).1, ih m hm (hnames m hm) (hkeys m hm).2⟩
    exact isNeutral_commaList (isNeutral_of_mem_memberTexts hparts hts)
  | array es ih =>
    intro bound first t ht
    rw [isWritable, allWritable_iff] at hnames
    rw [keys, forall_mem_keysOfAll] at hkeys
    simp only [text, bind_eq_ok_iff, pure_eq_ok_iff] at ht
    obtain ⟨ts, hts, rfl⟩ := ht
    have hparts : ∀ e ∈ es, e.HasNeutralTexts ctx := fun e he => ih e he (hnames e he) (hkeys e he)
    exact (isNeutral_commaList (isNeutral_of_mem_texts hparts hts)).bracketed
  | member e x ih =>
    intro bound first t ht
    simp only [isWritable, Bool.and_eq_true] at hnames
    simp only [text, bind_eq_ok_iff, pure_eq_ok_iff] at ht
    obtain ⟨owner, howner, rfl⟩ := ht
    exact isNeutral_accessText (ih hnames.1 hkeys _ _ owner howner) hnames.2
  | index e k ihe ihk =>
    intro bound first t ht
    simp only [isWritable, Bool.and_eq_true] at hnames
    rw [keys, List.forall_mem_append] at hkeys
    simp only [text, bind_eq_ok_iff, pure_eq_ok_iff] at ht
    obtain ⟨owner, howner, key, hkey, rfl⟩ := ht
    rw [List.append_assoc]
    have hbracket := (ihk hnames.2 hkeys.2 _ _ key hkey).bracketed
    exact (ihe hnames.1 hkeys.1 _ _ owner howner).append hbracket
  | lambda ps e ih =>
    intro bound first t ht
    simp only [isWritable, Bool.and_eq_true, List.all_eq_true] at hnames
    rw [text] at ht
    split_ifs at ht with hfirst
    · exact ih hnames.2 hkeys _ _ t ht
    · simp only [bind_eq_ok_iff, pure_eq_ok_iff] at ht
      obtain ⟨body, hbody, rfl⟩ := ht
      exact isNeutral_functionText hnames.1 (ih hnames.2 hkeys _ _ body hbody)
  | method e x es ihe ihes =>
    intro bound first t ht
    simp only [isWritable, Bool.and_eq_true, allWritable_iff] at hnames
    obtain ⟨⟨hnamese, hx⟩, hnameses⟩ := hnames
    rw [keys, keys, List.forall_mem_append, forall_mem_keysOfAll] at hkeys
    simp only [text, bind_eq_ok_iff, pure_eq_ok_iff] at ht
    obtain ⟨ts, hts, owner, howner, rfl⟩ := ht
    have harguments : ∀ e ∈ es, e.HasNeutralTexts ctx := fun e he =>
      ihes e he (hnameses e he) (hkeys.2 e he)
    exact isNeutral_methodText (ihe hnamese hkeys.1 _ _ owner howner) hx
      (isNeutral_of_mem_texts harguments hts)
  | function x es ih =>
    intro bound first t ht
    simp only [isWritable, Bool.and_eq_true, allWritable_iff] at hnames
    rw [keys, List.forall_mem_append, forall_mem_keysOfAll] at hkeys
    simp only [text, bind_eq_ok_iff, pure_eq_ok_iff] at ht
    obtain ⟨ts, hts, rfl⟩ := ht
    have harguments : ∀ e ∈ es, e.HasNeutralTexts ctx := fun e he =>
      ih e he (hnames.2 e he) (hkeys.2 e he)
    exact isNeutral_callText (isNeutral_name hnames.1.1) (isNeutral_of_mem_texts harguments hts)
  | invalid e es hmember hvariable =>
    intro bound first t ht
    rw [text_invalid hmember hvariable] at ht
    contradiction
  | conditional a b c iha ihb ihc =>
    intro bound first t ht
    simp only [isWritable, Bool.and_eq_true] at hnames
    obtain ⟨⟨hnamesa, hnamesb⟩, hnamesc⟩ := hnames
    rw [keys, List.forall_mem_append, List.forall_mem_append] at hkeys
    obtain ⟨⟨hkeysa, hkeysb⟩, hkeysc⟩ := hkeys
    simp only [text, bind_eq_ok_iff, pure_eq_ok_iff] at ht
    obtain ⟨test, htest, yes, hyes, no, hno, rfl⟩ := ht
    have hspace : isOrdinary ' ' = true := by decide
    have hyes := (((ihb hnamesb hkeysb _ _ yes hyes).cons hspace).cons
      (show isOrdinary '?' = true by decide)).cons hspace
    have hno := (((ihc hnamesc hkeysc _ _ no hno).cons hspace).cons
      (show isOrdinary ':' = true by decide)).cons hspace
    exact ((iha hnamesa hkeysa _ _ test htest).append hyes).append hno

end Expr

/-- **The brackets and quotes of a clause match**: if a source text in which the members of objects
have names is compiled, with any values captured, then a scan of the clause ends outside strings
and with all brackets closed in their order. -/
theorem compileSource_isWellBracketed (source : String) (e : Expr) (scopes : Scopes)
    (pascalize : Bool) (clause : String) (hparse : parse source = .ok e)
    (hkeys : ∀ x ∈ e.keys, Identifier.isIdentifier x.toList = true)
    (h : compileSource source scopes pascalize = .ok clause) :
    isWellBracketed clause.toList = true := by
  have hcanonical : e.Canonical := canonical_of_derives (derives_of_parse hparse)
  rw [compileSource, hparse] at h
  change (e.clause scopes pascalize).mapError SourceError.compile = .ok clause at h
  rw [clause_eq] at h
  cases ht : e.text ⟨scopes, pascalize⟩ [] true with
  | error err =>
    rw [ht] at h
    contradiction
  | ok t =>
    rw [ht] at h
    have hclause : String.ofList t = clause := Except.ok.inj h
    have hneutral : IsNeutral t := e.isNeutral_text hcanonical.names hkeys [] true t ht
    rw [← hclause, String.toList_ofList, isWellBracketed, hneutral []]
    rfl

/-- A captured text of quotes and brackets, compared inside the function of a collection method. -/
theorem compileSource_isWellBracketed_quotes :
    compileSource "c => \x7b n: c.items[0].any(i => i.name === t) \x7d"
        [Bindings.ofList [("t", .string "\")]\"(")]] true =
      .ok "n as Items[0]/any(i: i/Name eq \"\"\")]\"\"(\")" ∧
    isWellBracketed "n as Items[0]/any(i: i/Name eq \"\"\")]\"\"(\")".toList = true := by
  have hparse : parse "c => \x7b n: c.items[0].any(i => i.name === t) \x7d" =
      .ok (.lambda ["c"] (.object [("n", .call (.member (.index
        (.member (.variable "c") "items") (.literal (.int 0))) "any")
        [.lambda ["i"] (.binary "===" (.member (.variable "i") "name") (.variable "t"))])])) := by
    refine parse_of_print_eq ⟨by decide, fun v hv => Value.atom_source_of_isPlain ?_⟩ rfl rfl
    rw [List.mem_singleton.1 hv]
    decide
  have hclause : compileSource "c => \x7b n: c.items[0].any(i => i.name === t) \x7d"
      [Bindings.ofList [("t", .string "\")]\"(")]] true =
        .ok "n as Items[0]/any(i: i/Name eq \"\"\")]\"\"(\")" := by
    rw [compileSource, hparse]
    rfl
  exact ⟨hclause, compileSource_isWellBracketed _ _ _ _ _ hparse (by decide) hclause⟩

/-- The name of a member is written as it is, so a bracket in one that is no name stays open. -/
example : (Expr.object [("(", .literal .null)]).clause [] false = .ok "( as null" ∧
    isWellBracketed "( as null".toList = false := ⟨rfl, by decide⟩

end LambdaQuery
