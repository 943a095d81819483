import LambdaQuery.Json.Printer
import LambdaQuery.Proofs.Binary64.Decimal
import LambdaQuery.Proofs.Scan

/-!
# Compact JSON is read back

Reading the compact text of a JSON value gives the tree of the value: its members in their order and
its strings as they were, whatever characters they hold.  Floating-point numbers are left aside,
unless they are not finite and are therefore written as `null`.

## Main definitions

* `LambdaQuery.Json.tree` — a value as the tree that its text is read as.
* `LambdaQuery.Json.isWhole` — the finite numbers in a value are whole numbers.
* `LambdaQuery.Json.EndsValue` — what may stand behind a value.

## Main results

* `LambdaQuery.Json.stringLiteral_quoted` — a string is read back.
* `LambdaQuery.Json.numeral_integer` — a whole number is read back.
* `LambdaQuery.Json.listed_append` — a list in brackets is read back.
* `LambdaQuery.Json.read?_compact` — the compact text of a value is read as its tree.
-/

set_option autoImplicit false

namespace LambdaQuery.Json

open Scan

/-! ## Strings -/

/-- A hexadecimal digit is read back. -/
lemma hexDigit?_hexDigit : ∀ n < 16, hexDigit? (hexDigit n) = some n := by decide

/-- The escape of a control character is read back. -/
lemma hexCode?_of_lt {n : Nat} (hn : n < 0x20) :
    hexCode? '0' '0' (hexDigit (n / 16)) (hexDigit (n % 16)) = some n := by
  have hzero : hexDigit? '0' = some 0 := by decide
  have hhigh := hexDigit?_hexDigit (n / 16) (by omega)
  have hlow := hexDigit?_hexDigit (n % 16) (by omega)
  simp only [hexCode?, hzero, hhigh, hlow, bind, Option.bind_some, pure, Option.some.injEq]
  omega

/-- A backslash and a letter are read as the character they stand for. -/
lemma stringCodes_unescape {c e : Char} (hc : unescape? c = some e) (s : List Char) :
    stringCodes ('\\' :: c :: s) = (stringCodes s).map fun r => (e.toNat :: r.1, r.2) := by
  have hu : c ≠ 'u' := by
    rintro rfl
    contradiction
  rw [Option.map_eq_bind]
  simp [stringCodes, hc, hu]

/-- **A character of a string** is read back, whatever follows it. -/
lemma stringCodes_escapeChar (c : Char) (s : List Char) :
    stringCodes (escapeChar c ++ s) = (stringCodes s).map fun r => (c.toNat :: r.1, r.2) := by
  unfold escapeChar
  split_ifs with hquote hback hb hf hn hr ht hcontrol
  · subst hquote
    exact stringCodes_unescape (by decide) s
  · subst hback
    exact stringCodes_unescape (by decide) s
  · subst hb
    exact stringCodes_unescape (by decide) s
  · subst hf
    exact stringCodes_unescape (by decide) s
  · subst hn
    exact stringCodes_unescape (by decide) s
  · subst hr
    exact stringCodes_unescape (by decide) s
  · subst ht
    exact stringCodes_unescape (by decide) s
  · rw [Option.map_eq_bind]
    simp [stringCodes, hexCode?_of_lt hcontrol]
  · rw [Option.map_eq_bind]
    simp [stringCodes, hback, hcontrol]

/-- The characters of a string are read back up to its closing quote. -/
lemma stringCodes_append (cs rest : List Char) :
    stringCodes (cs.flatMap escapeChar ++ '"' :: rest) = some (cs.map Char.toNat, rest) := by
  induction cs with
  | nil => rfl
  | cons c cs ih =>
    rw [List.flatMap_cons, List.append_assoc, stringCodes_escapeChar, ih]
    rfl

/-- The code of a character is no half of a surrogate pair. -/
lemma not_isSurrogate (c : Char) :
    isHighSurrogate c.toNat = false ∧ isLowSurrogate c.toNat = false := by
  have hvalid : c.toNat < 0xD800 ∨ 0xDFFF < c.toNat ∧ c.toNat < 0x110000 := c.valid
  simp only [isHighSurrogate, isLowSurrogate, Bool.and_eq_false_iff, decide_eq_false_iff_not]
  omega

/-- The codes of characters stand for the characters. -/
lemma textOfCodes_map (cs : List Char) : textOfCodes (cs.map Char.toNat) = some cs := by
  induction cs with
  | nil => rfl
  | cons c cs ih =>
    obtain ⟨hhigh, hlow⟩ := not_isSurrogate c
    cases cs with
    | nil => simp [textOfCodes, hhigh, hlow]
    | cons d cs =>
      rw [List.map_cons] at ih
      simp [textOfCodes, hhigh, hlow, ih]

/-- **A string is read back**, whatever characters it holds. -/
lemma stringLiteral_quoted (s : String) (rest : List Char) :
    stringLiteral (quoted s ++ rest) = some (some s, rest) := by
  have hcodes := stringCodes_append s.toList rest
  have hshape : quoted s ++ rest = '"' :: (s.toList.flatMap escapeChar ++ '"' :: rest) := by
    simp [quoted]
  rw [hshape]
  simp [stringLiteral, hcodes, textOfCodes_map]

/-! ## Numbers -/

/-- What may stand behind a value in a compact text: nothing, a comma or a closing bracket. -/
def EndsValue (rest : List Char) : Prop := ∀ c ∈ rest.head?, c = ',' ∨ c = ']' ∨ c = '\x7d'

/-- The numeral of a number starts with a zero only if it is nothing else. -/
lemma eq_nil_of_natural_eq_zero_cons {n : Nat} {ds : List Char} (h : Text.natural n = '0' :: ds) :
    ds = [] := by
  induction n using Nat.strong_induction_on generalizing ds with
  | _ n ih =>
    rw [Text.natural] at h
    by_cases hn : n < 10
    · rw [Nat.toDigits_of_lt_base hn] at h
      exact (List.cons.inj h).2.symm
    · rw [Nat.toDigits_of_base_le (by decide) (by omega)] at h
      cases hhead : Nat.toDigits 10 (n / 10) with
      | nil => exact absurd hhead Nat.toDigits_ne_nil
      | cons d us =>
        -- the digits before the last are a zero alone, which no number from ten on has
        obtain ⟨rfl, -⟩ := List.cons.inj (hhead ▸ h)
        obtain rfl := ih (n / 10) (by omega) hhead
        have hzero : n / 10 = 0 := by
          rw [← Text.numberOfDigits_natural (n / 10), Text.natural, hhead]
          rfl
        omega

/-- What may stand behind a value goes on with no number. -/
lemma EndsValue.head {rest : List Char} (h : EndsValue rest) :
    ∀ c ∈ rest.head?, c.isDigit = false ∧ c ≠ '.' ∧ c ≠ 'e' ∧ c ≠ 'E' := by
  intro c hc
  rcases h c hc with rfl | rfl | rfl <;> decide

/-- The digits of a number are read back. -/
lemma wholeDigits_natural (n : Nat) {rest : List Char} (hrest : EndsValue rest) :
    wholeDigits (Text.natural n ++ rest) = some (Text.natural n, rest) := by
  have hrun : runOf Char.isDigit (Text.natural n ++ rest) = some (Text.natural n, rest) :=
    runOf_append (Text.natural_ne_nil n) (fun c hc => Text.isDigit_of_mem_natural hc)
      fun c hc => (hrest.head c hc).1
  cases hds : Text.natural n with
  | nil => exact absurd hds (Text.natural_ne_nil n)
  | cons d ds =>
    rw [hds, List.cons_append] at hrun
    by_cases hd : d = '0'
    · subst hd
      obtain rfl := eq_nil_of_natural_eq_zero_cons hds
      rfl
    · simpa [wholeDigits, hd] using hrun

/-- A number without its sign is read back. -/
lemma unsignedNumeral_natural (negative : Bool) (n : Nat) {rest : List Char}
    (hrest : EndsValue rest) :
    unsignedNumeral negative (Text.natural n ++ rest) =
      some (⟨negative, Text.natural n, [], none⟩, rest) := by
  have hpoint : after? ['.'] rest = none :=
    after?_eq_none_of_head fun c hc => (hrest.head c hc).2.1
  have hsmall : after? ['e'] rest = none :=
    after?_eq_none_of_head fun c hc => (hrest.head c hc).2.2.1
  have hlarge : after? ['E'] rest = none :=
    after?_eq_none_of_head fun c hc => (hrest.head c hc).2.2.2
  simp [unsignedNumeral, wholeDigits_natural n hrest, decimalPart, exponentPart, hpoint, hsmall,
    hlarge]

/-- The numeral of a number begins with a digit. -/
lemma exists_natural_cons (n : Nat) : ∃ d ds, Text.natural n = d :: ds ∧ d.isDigit = true := by
  cases hds : Text.natural n with
  | nil => exact absurd hds (Text.natural_ne_nil n)
  | cons d ds => exact ⟨d, ds, rfl, Text.isDigit_of_mem_natural (hds ▸ List.mem_cons_self)⟩

/-- **A whole number is read back**. -/
lemma numeral_integer (n : Int) {rest : List Char} (hrest : EndsValue rest) :
    numeral (Text.integer n ++ rest) =
      some (⟨decide (n < 0), Text.natural n.natAbs, [], none⟩, rest) := by
  cases n with
  | ofNat k =>
    have hread := unsignedNumeral_natural false k hrest
    obtain ⟨d, ds, hds, hd⟩ := exists_natural_cons k
    have hminus : d ≠ '-' := by
      rintro rfl
      contradiction
    change numeral (Text.natural k ++ rest) = some (⟨false, Text.natural k, [], none⟩, rest)
    rw [hds, List.cons_append] at hread ⊢
    simpa [numeral, hminus] using hread
  | negSucc k =>
    have hneg : decide (Int.negSucc k < 0) = true := decide_eq_true (Int.negSucc_lt_zero k)
    rw [hneg]
    exact unsignedNumeral_natural true (k + 1) hrest

/-! ## Lists in brackets -/

section Lists

variable {α : Type} {item : Scan α} {closing : Char} {rest : List Char}

/-- Behind an item there is a comma or the closing bracket. -/
lemma endsValue_items (hclosing : EndsValue (closing :: rest)) (ps : List (α × List Char)) :
    EndsValue (ps.flatMap (fun p => ',' :: p.2) ++ closing :: rest) := by
  cases ps with
  | nil => exact hclosing
  | cons p ps =>
    intro c hc
    exact .inl (by simpa using hc.symm)

/-- There are no more items than characters. -/
lemma length_le_items (ps : List (α × List Char)) :
    ps.length ≤ (ps.flatMap (fun p => ',' :: p.2) ++ closing :: rest).length := by
  induction ps with
  | nil => exact Nat.zero_le _
  | cons p ps ih =>
    simp only [List.flatMap_cons, List.append_assoc, List.cons_append, List.length_cons,
      List.length_append] at ih ⊢
    omega

/-- The items behind the first one of a list are read one by one, up to the closing bracket.

**Proof sketch.** Induction on the items.  The budget has one character for each item, and behind
the last one there is no comma. -/
lemma manyWithin_afterComma (hclosing : EndsValue (closing :: rest)) (hcomma : closing ≠ ',')
    (hgap : Text.isGap closing = false) (ps : List (α × List Char))
    (hread : ∀ p ∈ ps, ∀ r, EndsValue r → item (p.2 ++ r) = some (p.1, r)) (budget : List Char)
    (hbudget : ps.length ≤ budget.length) :
    manyWithin (afterComma item) budget (ps.flatMap (fun p => ',' :: p.2) ++ closing :: rest) =
      (ps.map Prod.fst, closing :: rest) := by
  induction ps generalizing budget with
  | nil =>
    have hnone : afterComma item (closing :: rest) = none := by
      simp [afterComma, token, skipGap_cons hgap, hcomma]
    cases budget with
    | nil => rfl
    | cons b budget => simp [manyWithin, hnone]
  | cons p ps ih =>
    rw [List.forall_mem_cons] at hread
    cases budget with
    | nil => simp at hbudget
    | cons b budget =>
      have hfirst : afterComma item (',' :: (p.2 ++
          (ps.flatMap (fun p => ',' :: p.2) ++ closing :: rest))) =
          some (p.1, ps.flatMap (fun p => ',' :: p.2) ++ closing :: rest) := by
        rw [← hread.1 _ (endsValue_items hclosing ps)]
        exact afterComma_append isGap_nil _
      have hothers := ih hread.2 budget (by simpa using hbudget)
      simp only [List.flatMap_cons, List.cons_append, List.append_assoc, manyWithin, hfirst,
        hothers, List.map_cons]

/-- Texts with commas between them are the first text and the others behind a comma each. -/
lemma intercalate_comma_cons (t : List Char) (ts : List (List Char)) :
    List.intercalate [','] (t :: ts) = t ++ ts.flatMap fun u => ',' :: u := by
  induction ts generalizing t with
  | nil => simp
  | cons u ts ih =>
    rw [List.intercalate_cons_cons, ih, List.flatMap_cons, List.append_assoc]
    rfl

/-- **A list in brackets is read back** if each of its items is, where a comma or a bracket follows
it, and none of them begins with the closing bracket. -/
lemma listed_append (opening : Char) (hclosing : EndsValue (closing :: rest))
    (hcomma : closing ≠ ',') (hgap : Text.isGap closing = false) (ps : List (α × List Char))
    (hread : ∀ p ∈ ps, ∀ r, EndsValue r → item (p.2 ++ r) = some (p.1, r))
    (hhead : ∀ p ∈ ps, ∃ c s, p.2 = c :: s ∧ Text.isGap c = false ∧ c ≠ closing) :
    listed opening closing item
        (opening :: (List.intercalate [','] (ps.map Prod.snd) ++ closing :: rest)) =
      some (ps.map Prod.fst, rest) := by
  cases ps with
  | nil => simp [listed, token, skipGap_cons hgap, List.intercalate]
  | cons p ps =>
    obtain ⟨c, s, hps, hc, hne⟩ := hhead p (by simp)
    have hitems : List.intercalate [','] ((p :: ps).map Prod.snd) ++ closing :: rest =
        p.2 ++ (ps.flatMap (fun p => ',' :: p.2) ++ closing :: rest) := by
      rw [List.map_cons, intercalate_comma_cons, List.flatMap_map, List.append_assoc]
    have hopen : token [closing] (p.2 ++ (ps.flatMap (fun p => ',' :: p.2) ++ closing :: rest)) =
        none := by
      simp [hps, token, skipGap_cons hc, hne]
    have hfirst := hread p (by simp) _ (endsValue_items hclosing ps)
    have hothers := manyWithin_afterComma hclosing hcomma hgap ps
      (fun q hq => hread q (by simp [hq])) (ps.flatMap (fun p => ',' :: p.2) ++ closing :: rest)
      (length_le_items ps)
    have hclose : token [closing] (closing :: rest) = some rest := by
      simp [token, skipGap_cons hgap]
    rw [hitems]
    simp [listed, hopen, hfirst, many, hothers, hclose]

end Lists

/-! ## Values and their trees -/

/-- **Induction over JSON values**: a property holds of every value if it passes from the elements
and members of a value to the value. -/
@[elab_as_elim]
theorem inductionOn {P : Json → Prop} (j : Json) (null : P .null) (bool : ∀ b, P (.bool b))
    (number : ∀ n, P (.number n)) (string : ∀ s, P (.string s))
    (array : ∀ items, (∀ j ∈ items, P j) → P (.array items))
    (object : ∀ members : List (String × Json), (∀ m ∈ members, P m.2) → P (.object members)) :
    P j :=
  @Json.rec P (fun items => ∀ j ∈ items, P j) (fun members => ∀ m ∈ members, P m.2)
    (fun m => P m.2) null bool number string array object
    (fun _ h => absurd h List.not_mem_nil)
    (fun _ _ hhead htail _ h => by
      rcases List.mem_cons.1 h with rfl | h
      · exact hhead
      · exact htail _ h)
    (fun _ h => absurd h List.not_mem_nil)
    (fun _ _ hhead htail _ h => by
      rcases List.mem_cons.1 h with rfl | h
      · exact hhead
      · exact htail _ h)
    (fun _ _ h => h) j

/-- The number is whole, or is written as `null` because it is not finite. -/
def Number.isWhole : Number → Bool
  | .whole _ => true
  | .float x => !x.isFinite

/-- A number as the tree that its text is read as, if it is whole or not finite. -/
def Number.tree : Number → Raw
  | .whole n => .number ⟨decide (n < 0), Text.natural n.natAbs, [], none⟩
  | .float _ => .null

mutual

/-- All numbers in the value are whole or not finite. -/
def isWhole : Json → Bool
  | .null => true
  | .bool _ => true
  | .number n => n.isWhole
  | .string _ => true
  | .array items => allWhole items
  | .object members => membersWhole members

/-- All numbers in the values are whole or not finite. -/
def allWhole : List Json → Bool
  | [] => true
  | j :: js => j.isWhole && allWhole js

/-- All numbers in the members are whole or not finite. -/
def membersWhole : List (String × Json) → Bool
  | [] => true
  | (_, j) :: ms => j.isWhole && membersWhole ms

end

mutual

/-- A value as the tree that its text is read as, if all numbers in it are whole or not finite. -/
def tree : Json → Raw
  | .null => .null
  | .bool b => .bool b
  | .number n => n.tree
  | .string s => .string (some s)
  | .array items => .array (trees items)
  | .object members => .object (memberTrees members)

/-- The trees of values. -/
def trees : List Json → List Raw
  | [] => []
  | j :: js => j.tree :: trees js

/-- The trees of members. -/
def memberTrees : List (String × Json) → List (Option String × Raw)
  | [] => []
  | (name, j) :: ms => (some name, j.tree) :: memberTrees ms

end

/-- The values of a list, one by one. -/
lemma allWhole_iff {items : List Json} : allWhole items = true ↔ ∀ j ∈ items, j.isWhole = true := by
  induction items with
  | nil => simp [allWhole]
  | cons j js ih => simp [allWhole, ih]

/-- The members of an object, one by one. -/
lemma membersWhole_iff {members : List (String × Json)} :
    membersWhole members = true ↔ ∀ m ∈ members, m.2.isWhole = true := by
  induction members with
  | nil => simp [membersWhole]
  | cons m ms ih => simp [membersWhole, ih]

/-- The trees of values, one by one. -/
lemma trees_eq_map (items : List Json) : trees items = items.map tree := by
  induction items with
  | nil => rfl
  | cons j js ih => rw [trees, ih, List.map_cons]

/-- The trees of members, one by one. -/
lemma memberTrees_eq_map (members : List (String × Json)) :
    memberTrees members = members.map fun m => (some m.1, m.2.tree) := by
  induction members with
  | nil => rfl
  | cons m ms ih => rw [memberTrees, ih, List.map_cons]

/-- The compact texts of values, one by one. -/
lemma compacts_eq_map (items : List Json) : compacts items = items.map compact := by
  induction items with
  | nil => rfl
  | cons j js ih => rw [compacts, ih, List.map_cons]

/-- The compact texts of members, one by one. -/
lemma memberCompacts_eq_map (members : List (String × Json)) :
    memberCompacts members = members.map fun m => quoted m.1 ++ ':' :: m.2.compact := by
  induction members with
  | nil => rfl
  | cons m ms ih => rw [memberCompacts, ih, List.map_cons]

/-! ## What values begin with -/

/-- The character may be the first one of a number. -/
def StartsNumber (c : Char) : Prop := c.isDigit = true ∨ c = '-'

/-- The first character of a number is no other sign, no letter and no white space. -/
lemma StartsNumber.head {c : Char} (h : StartsNumber c) :
    Text.isGap c = false ∧ c ≠ ']' ∧ c ≠ 'n' ∧ c ≠ 't' ∧ c ≠ 'f' := by
  rcases h with h | rfl
  · have hne : ∀ d : Char, d.isDigit = false → c ≠ d := by
      rintro d hd rfl
      exact absurd (h.symm.trans hd) (by decide)
    simp only [Text.isGap, Bool.or_eq_false_iff, beq_eq_false_iff_ne]
    exact ⟨⟨⟨⟨hne _ rfl, hne _ rfl⟩, hne _ rfl⟩, hne _ rfl⟩, hne _ rfl, hne _ rfl, hne _ rfl,
      hne _ rfl⟩
  · decide

/-- A whole number begins with a digit or a minus sign. -/
lemma exists_integer_cons (n : Int) : ∃ c s, Text.integer n = c :: s ∧ StartsNumber c := by
  cases n with
  | ofNat k =>
    obtain ⟨d, ds, hds, hd⟩ := exists_natural_cons k
    exact ⟨d, ds, hds, .inl hd⟩
  | negSucc k => exact ⟨'-', Text.natural (k + 1), rfl, .inr rfl⟩

/-- No number begins with a character that starts none. -/
lemma numeral_eq_none {c : Char} (h : ¬ StartsNumber c) (s : List Char) :
    numeral (c :: s) = none := by
  rw [StartsNumber, not_or, Bool.not_eq_true] at h
  have hzero : c ≠ '0' := by
    rintro rfl
    exact absurd h.1 (by decide)
  have hrun : runOf Char.isDigit (c :: s) = none := runOf_eq_none (by simpa using h.1)
  simp [numeral, unsignedNumeral, wholeDigits, h.2, hzero, hrun]

/-- The first character of a compact text is no white space and no closing bracket. -/
lemma exists_compact_cons {j : Json} (h : j.isWhole = true) :
    ∃ c s, j.compact = c :: s ∧ Text.isGap c = false ∧ c ≠ ']' := by
  cases j with
  | null => exact ⟨'n', "ull".toList, rfl, by decide, by decide⟩
  | bool b =>
    cases b with
    | false => exact ⟨'f', "alse".toList, rfl, by decide, by decide⟩
    | true => exact ⟨'t', "rue".toList, rfl, by decide, by decide⟩
  | number n =>
    cases n with
    | whole n =>
      obtain ⟨c, s, hcs, hc⟩ := exists_integer_cons n
      exact ⟨c, s, hcs, hc.head.1, hc.head.2.1⟩
    | float x =>
      have hx : x.isFinite = false := by simpa [isWhole, Number.isWhole] using h
      exact ⟨'n', "ull".toList, by simp [compact, Number.text, hx], by decide, by decide⟩
  | string s => exact ⟨_, _, rfl, by decide, by decide⟩
  | array items => exact ⟨_, _, rfl, by decide, by decide⟩
  | object members => exact ⟨_, _, rfl, by decide, by decide⟩

/-! ## Values of each kind -/

section Kinds

variable (sub : Scan Raw) (rest : List Char)

/-- The word `null` is read. -/
lemma anyValue_null : anyValue sub ("null".toList ++ rest) = some (.null, rest) := by
  have hgap : skipGap ("null".toList ++ rest) = "null".toList ++ rest :=
    skipGap_cons (by decide) _
  rw [anyValue, hgap, after?_append]
  rfl

/-- The words `true` and `false` are read. -/
lemma anyValue_bool (b : Bool) :
    anyValue sub ((Json.bool b).compact ++ rest) = some (.bool b, rest) := by
  cases b with
  | false => rfl
  | true => rfl

/-- A number is read. -/
lemma anyValue_of_numeral {c : Char} {s : List Char} {n : Numeral} (hc : StartsNumber c)
    (hn : numeral (c :: s) = some (n, rest)) :
    anyValue sub (c :: s) = some (.number n, rest) := by
  obtain ⟨hgap, -, hnull, htrue, hfalse⟩ := hc.head
  simp [anyValue, skipGap_cons hgap, after?, hnull, htrue, hfalse, hn]

/-- What begins with no letter and no number is a string, an array or an object. -/
lemma anyValue_cons {c : Char} (hgap : Text.isGap c = false) (hc : ¬ StartsNumber c)
    (hnull : c ≠ 'n') (htrue : c ≠ 't') (hfalse : c ≠ 'f') (s : List Char) :
    anyValue sub (c :: s) =
      ((stringLiteral (c :: s)).map (Prod.map .string id)
        <|> (listed '[' ']' sub (c :: s)).map (Prod.map .array id)
        <|> (listed '\x7b' '\x7d' (namedMember sub) (c :: s)).map (Prod.map .object id)) := by
  simp [anyValue, skipGap_cons hgap, after?, hnull, htrue, hfalse, numeral_eq_none hc]

/-- A string is read. -/
lemma anyValue_quoted (s : String) :
    anyValue sub (quoted s ++ rest) = some (.string (some s), rest) := by
  have hread := stringLiteral_quoted s rest
  simp only [quoted, List.cons_append] at hread ⊢
  rw [anyValue_cons sub (by decide) (by unfold StartsNumber; decide) (by decide) (by decide)
    (by decide), hread]
  rfl

/-- An array is read if its items are read between its brackets. -/
lemma anyValue_of_listed {s : List Char} {items : List Raw}
    (h : listed '[' ']' sub ('[' :: s) = some (items, rest)) :
    anyValue sub ('[' :: s) = some (.array items, rest) := by
  rw [anyValue_cons sub (by decide) (by unfold StartsNumber; decide) (by decide) (by decide)
    (by decide), h]
  rfl

/-- An object is read if its members are read between its brackets. -/
lemma anyValue_of_members {s : List Char} {members : List (Option String × Raw)}
    (h : listed '\x7b' '\x7d' (namedMember sub) ('\x7b' :: s) = some (members, rest)) :
    anyValue sub ('\x7b' :: s) = some (.object members, rest) := by
  rw [anyValue_cons sub (by decide) (by unfold StartsNumber; decide) (by decide) (by decide)
    (by decide), h]
  rfl

/-- A member is read if its value is. -/
lemma namedMember_append {name : String} {s : List Char} {v : Raw} (h : sub s = some (v, rest)) :
    namedMember sub (quoted name ++ ':' :: s) = some ((some name, v), rest) := by
  have hgap : skipGap (quoted name ++ ':' :: s) = quoted name ++ ':' :: s :=
    skipGap_cons (by decide) _
  have hcolon : token [':'] (':' :: s) = some s := by
    simp [token, skipGap_cons (show Text.isGap ':' = false by decide)]
  simp [namedMember, hgap, stringLiteral_quoted, hcolon, h]

end Kinds

/-! ## Values inside each other -/

/-- The compact text of a value is read as its tree, within any budget as long as the text. -/
def ReadsBack (j : Json) : Prop :=
  ∀ budget rest, j.compact.length ≤ budget.length → EndsValue rest →
    Raw.scanWithin budget (j.compact ++ rest) = some (j.tree, rest)

/-- A value is read back if it is as a value of any kind, with one character less for the values
inside it. -/
lemma readsBack_of_anyValue {j : Json} (h : j.isWhole = true)
    (hread : ∀ budget rest, j.compact.length ≤ budget.length + 1 → EndsValue rest →
      anyValue (Raw.scanWithin budget) (j.compact ++ rest) = some (j.tree, rest)) :
    ReadsBack j := by
  intro budget rest hbudget hrest
  obtain ⟨c, s, hcs, -⟩ := exists_compact_cons h
  cases budget with
  | nil => simp [hcs] at hbudget
  | cons b budget => exact hread budget rest hbudget hrest

/-- A text is no longer than a list in which it stands. -/
lemma length_le_intercalate {t : List Char} {ts : List (List Char)} (ht : t ∈ ts) :
    t.length ≤ (List.intercalate [','] ts).length := by
  induction ts with
  | nil => exact absurd ht List.not_mem_nil
  | cons u ts ih =>
    rw [intercalate_comma_cons, List.length_append]
    rcases List.mem_cons.1 ht with rfl | ht
    · exact Nat.le_add_right _ _
    · obtain ⟨before, after, rfl⟩ := List.append_of_mem ht
      simp only [List.flatMap_append, List.flatMap_cons, List.length_append, List.length_cons]
      omega

/-- Numbers are read back. -/
lemma readsBack_number {n : Number} (h : n.isWhole = true) : ReadsBack (.number n) := by
  refine readsBack_of_anyValue h fun budget rest _ hrest => ?_
  cases n with
  | whole n =>
    obtain ⟨c, s, hcs, hc⟩ := exists_integer_cons n
    have hread := numeral_integer n hrest
    change anyValue _ (Text.integer n ++ rest) = _
    rw [hcs, List.cons_append] at hread ⊢
    exact anyValue_of_numeral _ rest hc hread
  | float x =>
    have hx : x.isFinite = false := by simpa [Number.isWhole] using h
    have hnull : (Json.number (.float x)).compact = "null".toList := by
      simp [compact, Number.text, hx]
    rw [hnull]
    exact anyValue_null _ rest

/-- An array is read back if its values are. -/
lemma readsBack_array {items : List Json} (h : ∀ j ∈ items, j.isWhole = true)
    (hitems : ∀ j ∈ items, ReadsBack j) : ReadsBack (.array items) := by
  refine readsBack_of_anyValue (allWhole_iff.2 h) fun budget rest hbudget hrest => ?_
  let ps : List (Raw × List Char) := items.map fun j => (j.tree, j.compact)
  have htrees : ps.map Prod.fst = trees items := by simp [ps, trees_eq_map]
  have htexts : ps.map Prod.snd = compacts items := by simp [ps, compacts_eq_map]
  have htext : (Json.array items).compact ++ rest =
      '[' :: (List.intercalate [','] (ps.map Prod.snd) ++ ']' :: rest) := by
    simp [compact, htexts]
  have hlist : listed '[' ']' (Raw.scanWithin budget)
      ('[' :: (List.intercalate [','] (ps.map Prod.snd) ++ ']' :: rest)) =
      some (ps.map Prod.fst, rest) := by
    refine listed_append '[' (by simp [EndsValue]) (by decide) (by decide) ps ?_ ?_
    · intro p hp r hr
      obtain ⟨j, hj, rfl⟩ := List.mem_map.1 hp
      refine hitems j hj budget r ?_ hr
      have hle := length_le_intercalate (List.mem_map_of_mem (f := Prod.snd) hp)
      rw [htexts] at hle
      simp only [compact, List.length_cons, List.length_append] at hbudget
      dsimp only at hle
      omega
    · intro p hp
      obtain ⟨j, hj, rfl⟩ := List.mem_map.1 hp
      exact exists_compact_cons (h j hj)
  rw [htext, anyValue_of_listed _ rest hlist, htrees]
  rfl

/-- An object is read back if the values of its members are. -/
lemma readsBack_object {members : List (String × Json)}
    (h : ∀ m ∈ members, m.2.isWhole = true) (hmembers : ∀ m ∈ members, ReadsBack m.2) :
    ReadsBack (.object members) := by
  refine readsBack_of_anyValue (membersWhole_iff.2 h) fun budget rest hbudget hrest => ?_
  let ps : List ((Option String × Raw) × List Char) :=
    members.map fun m => ((some m.1, m.2.tree), quoted m.1 ++ ':' :: m.2.compact)
  have htrees : ps.map Prod.fst = memberTrees members := by simp [ps, memberTrees_eq_map]
  have htexts : ps.map Prod.snd = memberCompacts members := by simp [ps, memberCompacts_eq_map]
  have htext : (Json.object members).compact ++ rest =
      '\x7b' :: (List.intercalate [','] (ps.map Prod.snd) ++ '\x7d' :: rest) := by
    simp [compact, htexts]
  have hlist : listed '\x7b' '\x7d' (namedMember (Raw.scanWithin budget))
      ('\x7b' :: (List.intercalate [','] (ps.map Prod.snd) ++ '\x7d' :: rest)) =
      some (ps.map Prod.fst, rest) := by
    refine listed_append '\x7b' (by simp [EndsValue]) (by decide) (by decide) ps ?_ ?_
    · intro p hp r hr
      obtain ⟨m, hm, rfl⟩ := List.mem_map.1 hp
      have hle := length_le_intercalate (List.mem_map_of_mem (f := Prod.snd) hp)
      rw [htexts] at hle
      simp only [compact, List.length_cons, List.length_append] at hbudget hle
      have hvalue := hmembers m hm budget r (by omega) hr
      have hassoc : (quoted m.1 ++ ':' :: m.2.compact) ++ r =
          quoted m.1 ++ ':' :: (m.2.compact ++ r) := by simp
      rw [hassoc]
      exact namedMember_append _ r hvalue
    · intro p hp
      obtain ⟨m, -, rfl⟩ := List.mem_map.1 hp
      exact ⟨'"', _, rfl, by decide, by decide⟩
  rw [htext, anyValue_of_members _ rest hlist, htrees]
  rfl

/-- **Values are read back**, whatever they hold.

**Proof sketch.** Induction over the value.  A value that holds others takes a character of its own,
its opening bracket, so that the budget left for the values inside is as long as their texts. -/
lemma readsBack {j : Json} (h : j.isWhole = true) : ReadsBack j := by
  induction j using Json.inductionOn with
  | null => exact readsBack_of_anyValue h fun budget rest _ _ => anyValue_null _ rest
  | bool b => exact readsBack_of_anyValue h fun budget rest _ _ => anyValue_bool _ rest b
  | number n => exact readsBack_number h
  | string s => exact readsBack_of_anyValue h fun budget rest _ _ => anyValue_quoted _ rest s
  | array items ih =>
    have hitems := allWhole_iff.1 h
    exact readsBack_array hitems fun j hj => ih j hj (hitems j hj)
  | object members ih =>
    have hmembers := membersWhole_iff.1 h
    exact readsBack_object hmembers fun m hm => ih m hm (hmembers m hm)

/-- **Compact JSON is read back**: the text of a value without decimals is read as the tree of the
value. -/
lemma read?_compact {j : Json} (h : j.isWhole = true) : Raw.read? j.compact = some j.tree := by
  have hscan := readsBack h j.compact [] (Nat.le_refl _) (by simp [EndsValue])
  rw [List.append_nil] at hscan
  simp [Raw.read?, Raw.scan, hscan, skipGap]

end LambdaQuery.Json
