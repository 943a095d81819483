import LambdaQuery.Proofs.Reading.Rules
import LambdaQuery.Proofs.Reading.Nesting

/-!
# The productions come to an end

The scans of expressions are productions that call each other.  Each of them is written here as a
reading, with calls in place of the scans that are passed around, and runs as its scan does: it
comes to an end on every text, well-formed or not, and what it leaves is a shorter end of the text.

## Main definitions

* `LambdaQuery.Production` — the productions of expressions, with the pieces that they repeat.
* `LambdaQuery.Production.scan` — the scan of a production.
* `LambdaQuery.Production.reading` — the reading of a production.
* `LambdaQuery.Scan.Repeats` — pieces that are read one after the other until one fails.

## Main results

* `LambdaQuery.Production.rest?_eq` — the scans satisfy the equations of the readings.
* `LambdaQuery.Production.descends` — no production comes back to itself before it has taken a
  character.
* `LambdaQuery.Production.ends_with_progress` — the productions come to an end with progress.
-/

set_option autoImplicit false

namespace LambdaQuery

open Scan LambdaQuery.Expr Grammar

/-! ## Lexemes -/

namespace Lexeme

/-- A gap, possibly none. -/
def gap : Lexeme where
  read s := some (skipGap s)
  consumes := false
  isSuffix s t h := by
    obtain rfl := Option.some.inj h
    exact List.dropWhile_suffix _
  length_lt h := by contradiction

/-- A fixed text. -/
def text (t : List Char) : Lexeme where
  read := after? t
  consumes := !t.isEmpty
  isSuffix s r h := ⟨t, (after?_eq_some_iff.1 h).symm⟩
  length_lt ht s r h := by
    obtain ⟨c, t, rfl⟩ : ∃ c u, t = c :: u := List.exists_cons_of_ne_nil (by simpa using ht)
    exact length_lt_of_after? h

/-- What a scan reads, if it reads texts of a form; `consumes` says that none of them is empty. -/
def ofScan {α : Type} (scan : Scan α) {P : α → List Char → Prop} (h : Finds scan P)
    (consumes : Bool) (hP : consumes = true → ∀ a t, P a t → t ≠ []) : Lexeme where
  read s := (scan s).map Prod.snd
  consumes := consumes
  isSuffix s r hr := by
    obtain ⟨⟨a, r⟩, ha, rfl⟩ := Option.map_eq_some_iff.1 hr
    obtain ⟨t, rfl, -⟩ := h ha
    exact List.suffix_append t r
  length_lt hc s r hr := by
    obtain ⟨⟨a, r⟩, ha, rfl⟩ := Option.map_eq_some_iff.1 hr
    exact h.shortens (hP hc) ha

/-- The first of some tokens that the text starts with. -/
def oneOf (tokens : List String) : Lexeme :=
  ofScan (Scan.oneOf tokens) (P := fun op t => op ∈ tokens ∧ t = op.toList)
    (fun _ op _ h => ⟨op.toList, (exists_of_oneOf h).2, (exists_of_oneOf h).1, rfl⟩)
    (tokens.all fun t => !t.toList.isEmpty)
    fun hne op t h => by
      obtain ⟨hop, rfl⟩ := h
      simpa using List.all_eq_true.1 hne op hop

/-- A character of a class. -/
def character (isMember : Char → Bool) : Lexeme where
  read
    | [] => none
    | c :: s => if isMember c then some s else none
  consumes := true
  isSuffix s t h := by
    cases s with
    | nil => contradiction
    | cons c s =>
      obtain ⟨-, hs⟩ := Option.ite_none_right_eq_some.1 h
      obtain rfl := Option.some.inj hs
      exact List.suffix_cons c s
  length_lt _ s t h := by
    cases s with
    | nil => contradiction
    | cons c s =>
      obtain ⟨-, hs⟩ := Option.ite_none_right_eq_some.1 h
      obtain rfl := Option.some.inj hs
      simp

end Lexeme

namespace Expr

/-- A character of a quoted text, or a backslash and the character behind it. -/
def quotedCharacter (quote : Char) : Scan Char
  | [] => none
  | c :: s =>
    if c = quote then none
    else if c = '\\' then
      match s with
      | [] => none
      | d :: s => some (unescape d, s)
    else some (c, s)

/-- A character of a quoted text shortens the text. -/
lemma shortens_quotedCharacter (quote : Char) : Shortens (quotedCharacter quote) := by
  intro s c r h
  cases s with
  | nil => contradiction
  | cons d s =>
    simp only [quotedCharacter] at h
    split at h
    · contradiction
    · split at h
      · cases s with
        | nil => contradiction
        | cons d' s =>
          obtain ⟨-, rfl⟩ := Prod.mk.inj (Option.some.inj h)
          simp only [List.length_cons]
          omega
      · obtain ⟨-, rfl⟩ := Prod.mk.inj (Option.some.inj h)
        simp

/-- **A quoted text is a repetition**: its characters are read as long as there are any, and the
quote must follow. -/
lemma quotedText_eq (quote : Char) (s : List Char) :
    quotedText quote s = (after? [quote] (many (quotedCharacter quote) s).2).map
      (Prod.mk (many (quotedCharacter quote) s).1) := by
  have hshort := shortens_quotedCharacter quote
  fun_induction quotedText quote s with
  | case1 => rfl
  | case2 =>
    rw [many_of_none (by simp [quotedCharacter])]
    simp
  | case3 c hc =>
    by_cases hescape : c = '\\'
    · rw [many_of_none (by simp [quotedCharacter, hescape])]
      simp [hc]
    · rw [many_of_some hshort (a := c) (r := []) (by simp [quotedCharacter, hc, hescape])]
      rfl
  | case4 d s =>
    rw [many_of_none (by simp [quotedCharacter])]
    simp
  | case5 d s hc ih =>
    rw [many_of_some hshort (a := unescape d) (r := s) (by simp [quotedCharacter, hc]), ih]
    simp [Function.comp_def]
  | case6 c d s hc hescape ih =>
    rw [many_of_some hshort (a := c) (r := d :: s) (by simp [quotedCharacter, hc, hescape]), ih]
    simp [Function.comp_def]

end Expr

/-! ## Productions -/

/-- The productions of expressions, with the pieces that they repeat. -/
inductive Production where
  /-- An expression. -/
  | expression
  /-- A function. -/
  | function
  /-- The parameters of a function. -/
  | parameters
  /-- A comma and a further parameter. -/
  | nextParameter
  /-- A chain, or a choice with a chain as its test. -/
  | choice
  /-- The two expressions of a choice. -/
  | branches
  /-- A chain of operands with operators of the given levels, the loosest first. -/
  | chains (levels : List (List String))
  /-- One of the operators and its operand, a chain of the given levels. -/
  | operation (ops : List String) (levels : List (List String))
  /-- A sign. -/
  | sign
  /-- An operand behind signs. -/
  | signed
  /-- A primary expression and what applies to it. -/
  | applied
  /-- What applies to the expression before it. -/
  | suffix
  /-- An expression that is complete in itself. -/
  | primary
  /-- Items in brackets. -/
  | bracketed (opening closing : Char) (item : Production)
  /-- A comma and a further item. -/
  | afterComma (item : Production)
  /-- A member of an object. -/
  | namedMember
  /-- A string literal. -/
  | stringLiteral
  /-- A text between two quotes. -/
  | quotedString (quote : Char)
  /-- A character of a quoted text. -/
  | quotedCharacter (quote : Char)

namespace Production

/-- What a production makes of the text that it reads. -/
@[reducible] def Value : Production → Type
  | .parameters => List String
  | .nextParameter | .sign | .stringLiteral | .quotedString _ => String
  | .branches => Expr × Expr
  | .operation _ _ | .namedMember => String × Expr
  | .suffix => Suffix
  | .bracketed _ _ item => List item.Value
  | .afterComma item => item.Value
  | .quotedCharacter _ => Char
  | _ => Expr

/-- The scan of a production. -/
def scan : (p : Production) → Scan p.Value
  | .expression => Expr.scan
  | .function => Expr.function Expr.scan
  | .parameters => Expr.parameters
  | .nextParameter => Expr.nextParameter
  | .choice => Expr.choice Expr.scan
  | .branches => Expr.branches Expr.scan
  | .chains levels => levels.foldr Expr.chain (Expr.signed Expr.scan)
  | .operation ops levels =>
    Expr.operation ops (levels.foldr Expr.chain (Expr.signed Expr.scan))
  | .sign => Expr.sign
  | .signed => Expr.signed Expr.scan
  | .applied => Expr.applied Expr.scan
  | .suffix => Expr.suffix Expr.scan
  | .primary => Expr.primary Expr.scan
  | .bracketed opening closing item => Scan.bracketed opening closing item.scan
  | .afterComma item => Scan.afterComma item.scan
  | .namedMember => Expr.namedMember Expr.scan
  | .stringLiteral => Expr.stringLiteral
  | .quotedString quote => Expr.quotedString quote
  | .quotedCharacter quote => Expr.quotedCharacter quote

/-- What a production leaves of a text. -/
def rest? (p : Production) (s : List Char) : Option (List Char) := (p.scan s).map Prod.snd

section Readings

open Reading

/-- A gap. -/
def gap : Reading Production := .lexeme .gap

/-- A fixed text. -/
def text (t : List Char) : Reading Production := .lexeme (.text t)

/-- A fixed text behind a gap. -/
def token (t : List Char) : Reading Production := gap ++ text t

/-- A name. -/
def name : Reading Production :=
  .lexeme (.ofScan identifier finds_identifier true fun _ _ _ h => h.2 ▸ h.1.toList_ne_nil)

/-- A number with decimals. -/
def decimal : Reading Production :=
  .lexeme (.ofScan Expr.decimal finds_decimal true fun _ _ _ h => by
    obtain ⟨c, t, rfl, -⟩ := h.exists_cons
    simp)

/-- A whole number. -/
def wholeNumber : Reading Production :=
  .lexeme (.ofScan Expr.wholeNumber finds_wholeNumber true fun _ _ _ h => by
    obtain ⟨c, t, rfl, -⟩ := h.exists_cons
    simp)

/-- One of the tokens. -/
def oneOf (tokens : List String) : Reading Production := .lexeme (.oneOf tokens)

/-- A character of a class. -/
def character (isMember : Char → Bool) : Reading Production := .lexeme (.character isMember)

/-- The reading of a production. -/
def reading : Production → Reading Production
  | .expression => gap ++ (call .function <|> call .choice)
  | .function => call .parameters ++ token ['=', '>'] ++ call .expression
  | .parameters =>
    name <|> text ['('] ++ gap ++ option (name ++ many (call .nextParameter)) ++ token [')']
  | .nextParameter => token [','] ++ gap ++ name
  | .choice => call (.chains Operator.levels) ++ option (call .branches)
  | .branches => token ['?'] ++ call .expression ++ token [':'] ++ call .expression
  | .chains [] => call .signed
  | .chains (ops :: levels) => call (.chains levels) ++ many (call (.operation ops levels))
  | .operation ops levels => gap ++ oneOf ops ++ call (.chains levels)
  | .sign => gap ++ oneOf Operator.signs
  | .signed => call .sign ++ call .signed <|> call .applied
  | .applied => call .primary ++ many (call .suffix)
  | .suffix =>
    gap ++ (text ['.'] ++ gap ++ name <|> call (.bracketed '(' ')' .expression)
      <|> text ['['] ++ call .expression ++ token [']'])
  | .primary =>
    gap ++ (call (.bracketed '(' ')' .expression) <|> call (.bracketed '[' ']' .expression)
      <|> call (.bracketed '\x7b' '\x7d' .namedMember) <|> decimal <|> wholeNumber
      <|> call .stringLiteral <|> name)
  | .bracketed opening closing item =>
    text [opening] ++ option (call item ++ many (call (.afterComma item)) ++ option (token [',']))
      ++ token [closing]
  | .afterComma item => token [','] ++ call item
  | .namedMember => gap ++ (name <|> call .stringLiteral) ++ token [':'] ++ call .expression
  | .stringLiteral => call (.quotedString '"') <|> call (.quotedString '\'')
  | .quotedString quote => text [quote] ++ many (call (.quotedCharacter quote)) ++ text [quote]
  | .quotedCharacter quote =>
    character (fun c => c ≠ quote ∧ c = '\\') ++ character (fun _ => true)
      <|> character (fun c => c ≠ quote ∧ c ≠ '\\')

/-- How far a production is from the characters of the text. -/
def rank : Production → Nat
  | .expression => Operator.levels.length + 7
  | .choice => Operator.levels.length + 6
  | .function => 1
  | .operation _ levels => levels.length + 6
  | .chains levels => levels.length + 5
  | .signed => 4
  | .applied => 3
  | .primary | .suffix | .namedMember => 2
  | .stringLiteral => 1
  | _ => 0

end Readings

/-! ## The scans satisfy the equations of the readings -/

section Equations

variable (p q : Reading Production) (s : List Char)

-- What each form of a reading leaves.  The calls are those of the scans, so the right-hand sides
-- are made of scans alone.

@[simp] lemma rest?_append :
    (p ++ q).rest? rest? s = (p.rest? rest? s).bind fun t => q.rest? rest? t := rfl

@[simp] lemma rest?_orElse :
    (p <|> q).rest? rest? s = (p.rest? rest? s).or (q.rest? rest? s) := rfl

@[simp] lemma rest?_call (n : Production) :
    (Reading.call n).rest? rest? s = (n.scan s).map Prod.snd := rfl

@[simp] lemma rest?_option : (Reading.option p).rest? rest? s = some ((p.rest? rest? s).getD s) :=
  rfl

@[simp] lemma rest?_gap : gap.rest? rest? s = some (skipGap s) := rfl

@[simp] lemma rest?_text (t : List Char) : (text t).rest? rest? s = after? t s := rfl

@[simp] lemma rest?_token (t : List Char) : (token t).rest? rest? s = Scan.token t s := rfl

@[simp] lemma rest?_name : name.rest? rest? s = (identifier s).map Prod.snd := rfl

@[simp] lemma rest?_decimal : decimal.rest? rest? s = (Expr.decimal s).map Prod.snd := rfl

@[simp] lemma rest?_wholeNumber : wholeNumber.rest? rest? s = (Expr.wholeNumber s).map Prod.snd :=
  rfl

@[simp] lemma rest?_oneOf (tokens : List String) :
    (oneOf tokens).rest? rest? s = (Scan.oneOf tokens s).map Prod.snd := rfl

@[simp] lemma rest?_character (isMember : Char → Bool) :
    (character isMember).rest? rest? s = (Lexeme.character isMember).read s := rfl

/-- What a repetition leaves does not depend on what is made of its pieces. -/
@[simp] lemma rest?_many_call (n : Production) :
    (Reading.many (.call n)).rest? rest? s = some (Scan.many n.scan s).2 := by
  have hwithin : ∀ budget s, (manyWithin (fun t => (n.rest? t).map (Prod.mk ())) budget s).2 =
      (manyWithin n.scan budget s).2 := by
    intro budget
    induction budget with
    | nil => exact fun s => rfl
    | cons c budget ih =>
      intro s
      cases h : n.scan s with
      | none => simp [manyWithin, rest?, h]
      | some ar => simpa [manyWithin, rest?, h] using ih ar.2
  exact congrArg some (hwithin s s)

/-- What a scan leaves, taken from its result. -/
lemma bind_some_snd {α β : Type} (x : Option (α × β)) :
    (x.bind fun a => some a.2) = x.map Prod.snd :=
  Option.map_eq_bind.symm

/-- The equation of a chain with the two expressions of a choice behind it. -/
lemma rest?_choice : choice.rest? s = choice.reading.rest? rest? s := by
  simp only [rest?, reading, scan, Expr.choice, rest?_append, rest?_call, rest?_option, bind,
    Option.map_bind, Option.bind_map]
  refine Option.bind_congr ?_
  rintro ⟨test, r⟩ -
  cases h : Expr.branches Expr.scan r with
  | none => simp [h]
  | some br => simp [h]

/-- The equation of the parameters of a function. -/
lemma rest?_parameters : parameters.rest? s = parameters.reading.rest? rest? s := by
  have hlist : (parenthesizedParameters s).map Prod.snd =
      (text ['('] ++ gap ++ .option (name ++ .many (.call .nextParameter)) ++ token [')']).rest?
        rest? s := by
    simp only [parenthesizedParameters, rest?_append, rest?_text, rest?_gap, rest?_option,
      rest?_name, rest?_many_call, rest?_token, bind, Option.map_bind, Option.bind_assoc]
    refine Option.bind_congr fun r _ => ?_
    cases h : identifier (skipGap r) with
    | none => simp [h]
    | some xr => simp [h, scan]
  rw [reading, rest?_orElse, ← hlist]
  simp [rest?, scan, Expr.parameters, Option.map_or, Function.comp_def]

/-- The equation of an operand behind signs.  An operand that begins with a sign is no primary
expression, so nothing is read where the operand behind the sign is missing. -/
lemma rest?_signed : signed.rest? s = signed.reading.rest? rest? s := by
  simp only [rest?, reading, scan, rest?_append, rest?_orElse, rest?_call]
  cases hsign : Expr.sign s with
  | none => simp [Expr.signed, many_of_none hsign]
  | some opr =>
    simp [signed_of_sign hsign, Expr.applied, primary_eq_none_of_sign hsign, Function.comp_def]

/-- The equation of items in brackets. -/
lemma rest?_bracketed (opening closing : Char) (item : Production) :
    (bracketed opening closing item).rest? s =
      (bracketed opening closing item).reading.rest? rest? s := by
  simp only [rest?, reading, scan, Scan.bracketed, rest?_append, rest?_call, rest?_option,
    rest?_many_call, rest?_text, rest?_token, bind, Option.map_bind, Option.bind_assoc]
  refine Option.bind_congr fun r _ => ?_
  cases h : item.scan r with
  | none => simp [h, commaSeparated]
  | some ar => simp [h, commaSeparated]

/-- The equation of a character of a quoted text. -/
lemma rest?_quotedCharacter (quote : Char) :
    (quotedCharacter quote).rest? s = (quotedCharacter quote).reading.rest? rest? s := by
  cases s with
  | nil => rfl
  | cons c s =>
    by_cases hc : c = quote
    · simp [rest?, reading, scan, Expr.quotedCharacter, Lexeme.character, hc]
    · by_cases hescape : c = '\\'
      · subst hescape
        cases s with
        | nil => simp [rest?, reading, scan, Expr.quotedCharacter, Lexeme.character, hc]
        | cons d s => simp [rest?, reading, scan, Expr.quotedCharacter, Lexeme.character, hc]
      · simp [rest?, reading, scan, Expr.quotedCharacter, Lexeme.character, hc, hescape]

/-- **The scans satisfy the equations of the readings**: what the scan of a production leaves of a
text is what its reading leaves, with the scans of the productions that it calls. -/
lemma rest?_eq (p : Production) (s : List Char) : p.rest? s = p.reading.rest? rest? s := by
  cases p with
  | expression => simp [rest?, reading, scan, scan_eq_nested s, nested, Option.map_or]
  | function =>
    simp [rest?, reading, scan, Expr.function, Option.map_bind, Option.bind_map, Option.bind_assoc,
      bind_some_snd]
  | parameters => exact rest?_parameters s
  | nextParameter =>
    simp [rest?, reading, scan, Expr.nextParameter, Option.map_bind, Option.bind_assoc]
  | choice => exact rest?_choice s
  | branches =>
    simp [rest?, reading, scan, Expr.branches, Option.map_bind, Option.bind_map, Option.bind_assoc,
      bind_some_snd]
  | chains levels =>
    cases levels with
    | nil => rfl
    | cons ops levels =>
      simp [rest?, reading, scan, Expr.chain, Option.map_bind, Option.bind_map]
  | operation ops levels =>
    simp [rest?, reading, scan, Expr.operation, Option.map_bind, Option.bind_map, bind_some_snd]
  | sign => rfl
  | signed => exact rest?_signed s
  | applied => simp [rest?, reading, scan, Expr.applied, Option.map_bind, Option.bind_map]
  | suffix =>
    simp [rest?, reading, scan, Expr.suffix, memberSuffix, indexSuffix, Option.map_bind,
      Option.bind_map, Option.bind_assoc, Option.map_or, Function.comp_def, bind_some_snd]
  | primary => simp [rest?, reading, scan, Expr.primary, Option.map_or, Function.comp_def]
  | bracketed opening closing item => exact rest?_bracketed s opening closing item
  | afterComma item => simp [rest?, reading, scan, Scan.afterComma, Option.map_bind]
  | namedMember =>
    simp [rest?, reading, scan, Expr.namedMember, Option.map_bind, Option.bind_map,
      Option.bind_assoc, ← Option.map_or, bind_some_snd]
  | stringLiteral => simp [rest?, reading, scan, Expr.stringLiteral, Option.map_or]
  | quotedString quote =>
    simp [rest?, reading, scan, Expr.quotedString, quotedText_eq, Option.map_bind,
      Option.bind_map, Option.bind_assoc]
  | quotedCharacter quote => exact rest?_quotedCharacter s quote

end Equations

/-! ## The productions descend -/

/-- **No production comes back to itself before it has taken a character.**  The calls that come
before the first character are listed; they lead from an expression through all levels of operators
to the brackets, quotes and signs with which an operand can begin. -/
lemma descends : Reading.Descends reading rank where
  consumes n := by
    cases n with
    | chains levels =>
      cases levels with
      | nil => rfl
      | cons ops levels => rfl
    | operation ops levels => exact Bool.or_true _
    | _ => rfl
  consumes_repeated n := by
    cases n with
    | parameters | applied | bracketed _ _ _ | quotedString _ =>
      exact List.forall_mem_singleton.2 rfl
    | chains levels =>
      cases levels with
      | nil => exact List.forall_mem_nil _
      | cons ops levels => exact List.forall_mem_singleton.2 rfl
    | _ => exact List.forall_mem_nil _
  rank_lt n := by
    cases n with
    | expression =>
      show ∀ m ∈ [function, choice], rank m < rank expression
      simp [rank, Operator.levels]
    | function =>
      show ∀ m ∈ [parameters], rank m < rank function
      simp [rank]
    | choice =>
      show ∀ m ∈ [chains Operator.levels], rank m < rank choice
      simp [rank]
    | chains levels =>
      cases levels with
      | nil =>
        show ∀ m ∈ [signed], rank m < rank (chains [])
        simp [rank]
      | cons ops levels =>
        show ∀ m ∈ [chains levels], rank m < rank (chains (ops :: levels))
        simp [rank]
    | operation ops levels =>
      -- the operators are arbitrary texts here, so the operand may begin where the operator does
      intro m hm
      change m ∈ [] ++ if (gap ++ oneOf ops).consumes then [] else [chains levels] at hm
      split at hm
      · simp at hm
      · obtain rfl := List.mem_singleton.1 hm
        simp [rank]
    | signed =>
      show ∀ m ∈ [sign, applied], rank m < rank signed
      simp [rank]
    | applied =>
      show ∀ m ∈ [primary], rank m < rank applied
      simp [rank]
    | suffix =>
      show ∀ m ∈ [bracketed '(' ')' expression], rank m < rank suffix
      simp [rank]
    | primary =>
      show ∀ m ∈ [bracketed '(' ')' expression, bracketed '[' ']' expression,
        bracketed '\x7b' '\x7d' namedMember, stringLiteral], rank m < rank primary
      simp [rank]
    | namedMember =>
      show ∀ m ∈ [stringLiteral], rank m < rank namedMember
      simp [rank]
    | stringLiteral =>
      show ∀ m ∈ [quotedString '"', quotedString '\''], rank m < rank stringLiteral
      simp [rank]
    | parameters | nextParameter | branches | sign | bracketed _ _ _ | afterComma _
    | quotedString _ | quotedCharacter _ => exact List.forall_mem_nil _

/-- **A production runs as its scan does.** -/
lemma runs_call_iff {p : Production} {s : List Char} {o : Option (List Char)} :
    Runs reading (.call p) s o ↔ o = p.rest? s := by
  have hruns := descends.runs_call rest?_eq p s
  constructor
  · exact fun h => h.unique hruns
  · rintro rfl
    exact hruns

/-- **A piece that consumes leaves a shorter end of the text.** -/
lemma isSuffix_and_length_lt {piece : Reading Production} (hpiece : piece.consumes = true)
    {s t : List Char} (h : Runs reading piece s (some t)) : t <:+ s ∧ t.length < s.length :=
  ⟨h.isSuffix t rfl, h.length_lt descends.consumes hpiece t rfl⟩

/-- **What a production leaves is a shorter end of the text.** -/
lemma isSuffix_and_length_lt_of_scan {p : Production} {s t : List Char} {a : p.Value}
    (h : p.scan s = some (a, t)) : t <:+ s ∧ t.length < s.length :=
  isSuffix_and_length_lt rfl (runs_call_iff.2 (by rw [rest?, h]; rfl))

end Production

/-! ## Repetitions -/

/-- Pieces are read one after the other, each leaves a shorter end of its text, and where the next
one fails the repetition leaves the text as it is. -/
inductive Scan.Repeats {α : Type} (piece : Scan α) :
    List Char → List α → List Char → Prop where
  /-- No further piece is there. -/
  | stop {s : List Char} : piece s = none → Repeats piece s [] s
  /-- A piece is read, and the repetition goes on behind it. -/
  | again {s t u : List Char} {a : α} {as : List α} : piece s = some (a, t) → t <:+ s →
      t.length < s.length → Repeats piece t as u → Repeats piece s (a :: as) u

namespace Production

/-- **The repetition of a production** ends exactly where the production fails.

**Proof sketch.** Induction on the length of the text, and conversely on the pieces. -/
lemma many_eq_iff {p : Production} {s t : List Char} {as : List p.Value} :
    many p.scan s = (as, t) ↔ Repeats p.scan s as t := by
  have hshort : Shortens p.scan := fun _ _ _ h => (isSuffix_and_length_lt_of_scan h).2
  constructor
  · intro h
    induction hn : s.length using Nat.strong_induction_on generalizing s as with
    | _ n ih =>
      cases hread : p.scan s with
      | none =>
        obtain ⟨rfl, rfl⟩ := Prod.mk.inj ((many_of_none hread).symm.trans h)
        exact .stop hread
      | some ar =>
        obtain ⟨a, r⟩ := ar
        obtain ⟨rfl, rfl⟩ := Prod.mk.inj ((many_of_some hshort hread).symm.trans h)
        obtain ⟨hsuffix, hlt⟩ := isSuffix_and_length_lt_of_scan hread
        exact .again hread hsuffix hlt (ih r.length (hn ▸ hlt) rfl rfl)
  · intro h
    induction h with
    | stop hread => exact many_of_none hread
    | again hread _ _ _ ih => rw [many_of_some hshort hread, ih]

/-- **The productions come to an end with progress.**  On every text, well-formed or not, every
production has exactly one run, which ends as its scan does; the budget of the recursion is never
what ends it.  What a production leaves, in particular an expression or a piece that is repeated, is
a shorter end of the text, and a repetition goes on exactly as long as its pieces can be read.
Where a repeated or an optional piece fails, reading goes on from the place where the piece
began. -/
theorem ends_with_progress :
    (∀ (p : Production) (s : List Char) (o : Option (List Char)),
      Runs reading (.call p) s o ↔ o = (p.scan s).map Prod.snd) ∧
    (∀ budget s : List Char, s.length ≤ budget.length → scanWithin budget s = Expr.scan s) ∧
    (∀ (p : Production) (s t : List Char) (a : p.Value),
      p.scan s = some (a, t) → t <:+ s ∧ t.length < s.length) ∧
    (∀ (p : Production) (s t : List Char) (as : List p.Value),
      many p.scan s = (as, t) ↔ Repeats p.scan s as t) ∧
    (∀ p : Production, ∀ piece ∈ p.reading.repeated, ∀ s t : List Char,
      Runs reading piece s (some t) → t <:+ s ∧ t.length < s.length) ∧
    (∀ p : Production, ∀ piece ∈ p.reading.repeated, ∀ s : List Char,
      Runs reading piece s none →
        ∀ next o, Runs reading (.many piece ++ next) s o ↔ Runs reading next s o) ∧
    (∀ p : Production, ∀ piece ∈ p.reading.optional, ∀ s : List Char,
      Runs reading piece s none →
        ∀ next o, Runs reading (.option piece ++ next) s o ↔ Runs reading next s o) := by
  refine ⟨fun p s o => runs_call_iff, fun budget s => scanWithin_eq_scan,
    fun p s t a => isSuffix_and_length_lt_of_scan, fun p s t as => many_eq_iff,
    fun p piece hpiece s t h => ?_, fun p piece _ s h next o => (Runs.stop h).seq_iff,
    fun p piece _ s h next o => (Runs.absent h).seq_iff⟩
  have hconsumes := descends.consumes_repeated p piece hpiece
  exact isSuffix_and_length_lt hconsumes h

/-- A call whose string is not closed, and a choice without its second expression.  Everything that
was read of them is given up again: the expression ends before the call, and the choice behind its
test. -/
theorem ends_with_progress_given_up :
    Runs reading (.call .expression) "f(x)('y".toList (some "('y".toList) ∧
      Runs reading (.call .suffix) "(x)('y".toList (some "('y".toList) ∧
      "('y".toList <:+ "(x)('y".toList ∧ "('y".toList.length < "(x)('y".toList.length ∧
      Runs reading (.call .suffix) "('y".toList none ∧
      (∀ next o, Runs reading (.many (.call .suffix) ++ next) "('y".toList o ↔
        Runs reading next "('y".toList o) ∧
      Runs reading (.call .branches) "?b".toList none ∧
      (∀ next o, Runs reading (.option (.call .branches) ++ next) "?b".toList o ↔
        Runs reading next "?b".toList o) := by
  obtain ⟨hends, -, -, -, hprogress, hrepeated, hoptional⟩ := ends_with_progress
  have hsuffix : .call .suffix ∈ applied.reading.repeated := List.mem_singleton.2 rfl
  have hbranches : .call .branches ∈ choice.reading.optional := List.mem_singleton.2 rfl
  have hread : Runs reading (.call .suffix) "(x)('y".toList (some "('y".toList) :=
    (hends _ _ _).2 (by decide +kernel)
  have hunclosed : Runs reading (.call .suffix) "('y".toList none :=
    (hends _ _ _).2 (by decide +kernel)
  have hmissing : Runs reading (.call .branches) "?b".toList none :=
    (hends _ _ _).2 (by decide +kernel)
  obtain ⟨hend, hlt⟩ := hprogress _ _ hsuffix _ _ hread
  exact ⟨(hends _ _ _).2 (by decide +kernel), hread, hend, hlt, hunclosed,
    hrepeated _ _ hsuffix _ hunclosed, hmissing, hoptional _ _ hbranches _ hmissing⟩

end Production

end LambdaQuery
