import LambdaQuery.Command.Run
import LambdaQuery.Proofs.Expr.RoundTrip
import LambdaQuery.Proofs.Outcome
import LambdaQuery.Proofs.Text.Split

/-!
# Literal arguments

A value on a command line is given as the text that is written for it in an expression.  Truth
values, texts and whole numbers are read back, the negative numbers too, although the language has
no literals for them: what is read is a number behind a minus sign, which is then negated.  The
least whole number has no positive counterpart, so its text is no expression, and what is no
expression is taken as a text.

## Main definitions

* `LambdaQuery.Value.isExact` — the values that are no floating-point numbers and no dates.
* `LambdaQuery.Value.argument` — the value that an argument with the text of a value has.

## Main results

* `LambdaQuery.Command.parseLiteral_of_isExact` — what the text of a value is read as.
* `LambdaQuery.Command.captureVar_append` — a variable that is given with a literal.
* `LambdaQuery.Command.addOperation_append` — an operation that is given with a literal.
* `LambdaQuery.Command.parameters_take` — the parameter that the number of an operation becomes.
* `LambdaQuery.Command.literal_argument_read` — all values that are given as literal arguments.
-/

set_option autoImplicit false

namespace LambdaQuery

open Grammar Scan

/-- The value is no floating-point number and no date. -/
def Value.isExact : Value → Bool
  | .float _ => false
  | .date _ => false
  | _ => true

/-- The value of an argument that is the text of a value: the value, except for the least whole
number, whose text stays a text. -/
def Value.argument (v : Value) : Value :=
  if v = .int Int64.minValue then .string (String.ofList v.source) else v

/-- Which values are the values of their texts. -/
lemma Value.argument_eq_iff {v : Value} : v.argument = v ↔ v ≠ .int Int64.minValue := by
  rw [argument]
  split
  · next h => simp [h]
  · next h => simp [h]

/-! ## Numbers behind a sign -/

/-- A negative number other than the least one is written like its negation behind a minus sign. -/
lemma Value.source_int_of_neg {n : Int64} (hneg : n.toInt < 0) (hmin : n ≠ Int64.minValue) :
    (Value.int n).source = '-' :: (Value.int (-n)).source ∧ 0 ≤ (-n).toInt := by
  have hlt : -2 ^ 63 < n.toInt := by
    refine lt_of_le_of_ne n.le_toInt fun h => hmin ?_
    exact Int64.toInt_inj.1 (h.symm.trans (by decide))
  have hneg' := toInt_neg_of_lt hlt
  obtain ⟨k, hk⟩ := Int.eq_negSucc_of_lt_zero hneg
  refine ⟨?_, by omega⟩
  rw [source, source, hneg', hk]
  rfl

/-- The text of a negative number is read as a number behind a minus sign. -/
lemma derives_negative {n : Int64} (hneg : n.toInt < 0) (hmin : n ≠ Int64.minValue) :
    Derives (.expr (.unary "-" (.literal (.int (-n))))) (Value.int n).source := by
  obtain ⟨hsource, hnonneg⟩ := Value.source_int_of_neg hneg hmin
  rw [hsource]
  exact .chain (.operand (@Derives.sign "-" _ [] _ (by decide) isGap_nil
    (.unsigned (.primary (@Derives.atom _ [] _ isGap_nil (Value.atom_source_int hnonneg))))))

/-- A value that has no token is a negative number. -/
lemma Value.exists_of_not_isPlain {v : Value} (hexact : v.isExact = true)
    (hplain : ¬ v.isPlain = true) : ∃ n, v = .int n ∧ n.toInt < 0 := by
  cases v with
  | int n => exact ⟨n, rfl, by simpa [isPlain, isUnsigned] using hplain⟩
  | float | date => simp [isExact] at hexact
  | _ => simp [isPlain, isUnsigned] at hplain

namespace Command

/-! ## Literals -/

/-- The text of the least whole number is no expression. -/
lemma parseLiteral_minValue :
    parseLiteral (String.ofList (Value.int Int64.minValue).source) =
      .ok (.string (String.ofList (Value.int Int64.minValue).source)) := by
  have hrejected : (parse (String.ofList (Value.int Int64.minValue).source)).isOk = false := by
    decide +kernel
  rw [parseLiteral]
  cases h : parse (String.ofList (Value.int Int64.minValue).source) with
  | error => rfl
  | ok e => simp [h, Except.isOk, Except.toBool] at hrejected

/-- **What the text of a value is read as**, with no white space around it that could be lost. -/
lemma parseLiteral_of_isExact {v : Value} (hexact : v.isExact = true) :
    parseLiteral (String.ofList v.source) = .ok v.argument ∧ Text.trim v.source = v.source := by
  by_cases hmin : v = .int Int64.minValue
  · subst hmin
    exact ⟨parseLiteral_minValue, by decide +kernel⟩
  rw [Value.argument, if_neg hmin]
  by_cases hplain : v.isPlain = true
  · have hatom := Value.atom_source_of_isPlain hplain
    exact ⟨by rw [parseLiteral, parse_ofList_of_atom hatom], hatom.trim_eq⟩
  · obtain ⟨n, rfl, hneg⟩ := v.exists_of_not_isPlain hexact hplain
    have hn : n ≠ Int64.minValue := fun h => hmin (congrArg _ h)
    have hderives := derives_negative hneg hn
    refine ⟨by simp [parseLiteral, parse_ofList_of_derives hderives], ?_⟩
    rw [(Value.source_int_of_neg hneg hn).1] at hderives ⊢
    exact hderives.trim_eq_self (by decide)

/-! ## Arguments with a literal -/

/-- A text is cut where the character occurs first. -/
lemma cutAt?_of_eq_append {c : Char} {x t : List Char} {s : String}
    (hs : s.toList = x ++ c :: t) (hx : c ∉ x) :
    cutAt? c s = some (String.ofList (Text.trim x), String.ofList (Text.trim t)) := by
  have hne := Text.forall_bne_of_notMem hx
  simp [cutAt?, hs, List.takeWhile_append_of_pos hne, List.dropWhile_append_of_pos hne]

/-- A variable that is given with a literal. -/
lemma captureVar_append {x t : String} {v : Value} (q : Query) (hx : '=' ∉ x.toList)
    (ht : parseLiteral (String.ofList (Text.trim t.toList)) = .ok v) :
    captureVar q (x ++ "=" ++ t) = .ok (q.capture (String.ofList (Text.trim x.toList)) v) := by
  rw [captureVar, cutAt?_of_eq_append (x := x.toList) (t := t.toList) (by simp) hx]
  simp only [ht]
  rfl

/-- The name of a kind with a literal can be told from the literal. -/
lemma name_of_takesLiteral {kind : Kind} (h : takesLiteral kind = true) :
    ':' ∉ kind.name.toList ∧ Kind.ofName (String.ofList (Text.trim kind.name.toList)) = kind := by
  cases kind with
  | skip | take | inlineCount => decide
  | _ => simp [takesLiteral] at h

/-- An operation that is given with a literal. -/
lemma addOperation_append {kind : Kind} {t : String} {v : Value} (q : Query)
    (hkind : takesLiteral kind = true)
    (ht : parseLiteral (String.ofList (Text.trim t.toList)) = .ok v) :
    addOperation q (kind.name ++ ":" ++ t) = .ok (q.push (.ofValue kind v)) := by
  obtain ⟨hcolon, hname⟩ := name_of_takesLiteral hkind
  rw [addOperation, cutAt?_of_eq_append (x := kind.name.toList) (t := t.toList) (by simp) hcolon]
  simp only [hname, hkind, if_true, ht]
  rfl

/-! ## What is sent -/

/-- An operation at the end adds its parameter at the end, unless it orders or says nothing. -/
lemma parametersAfter_concat {pascalize : Bool} {p : Part} (hsilent : p.isSilent = false)
    (hordering : p.kind.isOrdering = false) (ps pending : List Part) :
    parametersAfter pascalize pending (ps ++ [p]) = do
      let params ← parametersAfter pascalize pending ps
      let parameter ← p.parameter pascalize
      return params ++ [parameter] := by
  induction ps generalizing pending with
  | nil => simp [parametersAfter, hsilent, hordering, orderingParameter]
  | cons p' ps ih =>
    simp only [List.cons_append, parametersAfter, ih]
    split
    · rfl
    · split
      · rfl
      · simp [bind_assoc]

/-- The number of elements to take becomes the last parameter, and nothing else changes. -/
lemma parameters_take {q : Query} {c : Compiled} (n : Int64) (hc : q.parameters = .ok c) :
    (q.take n).parameters =
      .ok { c with params := c.params ++ [⟨"$take", String.ofList (Value.int n).source⟩] } := by
  have hoptions : optionsOf (q.take n).parts = optionsOf q.parts := by
    simp [optionsOf, Query.take, Query.push, Part.ofValue]
  obtain ⟨params, hparams, hc⟩ := bind_eq_ok_iff.1 hc
  obtain rfl := pure_eq_ok_iff.1 hc
  rw [Query.parameters, compileParts, hoptions]
  simp only [Query.take, Query.push]
  rw [parametersAfter_concat rfl rfl, hparams]
  rfl

/-- **Literal arguments**: the text of every value that is no floating-point number and no date is
read as the value itself, except for the least whole number, whose text is read as a text.  So a
variable that is given in this way captures the value, an operation gets it, and the number of
elements to take is sent as it was given. -/
theorem literal_argument_read (v : Value) (hexact : v.isExact = true) :
    parseLiteral (String.ofList v.source) = .ok v.argument ∧
    (v.argument = v ↔ v ≠ .int Int64.minValue) ∧
    (∀ q x, '=' ∉ x.toList → captureVar q (x ++ "=" ++ String.ofList v.source) =
      .ok (q.capture (String.ofList (Text.trim x.toList)) v.argument)) ∧
    (∀ q kind, takesLiteral kind = true →
      addOperation q (kind.name ++ ":" ++ String.ofList v.source) =
        .ok (q.push (.ofValue kind v.argument))) ∧
    ∀ q c n, v = .int n → n ≠ Int64.minValue → q.parameters = .ok c →
      addOperation q ("take:" ++ String.ofList v.source) = .ok (q.take n) ∧
      (q.take n).parameters =
        .ok { c with params := c.params ++ [⟨"$take", String.ofList v.source⟩] } := by
  obtain ⟨hread, htrim⟩ := parseLiteral_of_isExact hexact
  have hliteral : parseLiteral (String.ofList (Text.trim (String.ofList v.source).toList)) =
      .ok v.argument := by
    rw [String.toList_ofList, htrim, hread]
  refine ⟨hread, Value.argument_eq_iff, fun q x hx => captureVar_append q hx hliteral,
    fun q kind hkind => addOperation_append q hkind hliteral, ?_⟩
  rintro q c n rfl hn hc
  refine ⟨?_, parameters_take n hc⟩
  have hself : (Value.int n).argument = .int n :=
    Value.argument_eq_iff.2 fun h => hn (Value.int.inj h)
  rw [hself] at hliteral
  exact @addOperation_append .take _ _ q rfl hliteral

/-- A negative number, and a text with characters that are escaped. -/
theorem literal_argument_read_negative :
    (parseLiteral "-42" = .ok (.int (-42)) ∧
      captureVar .empty "x=-42" = .ok (Query.empty.capture "x" (.int (-42))) ∧
      addOperation .empty "take:-42" = .ok (Query.empty.take (-42)) ∧
      (Query.empty.take (-42)).parameters = .ok ⟨[⟨"$take", "-42"⟩], []⟩) ∧
    parseLiteral "\"a\\\"\\n\"" = .ok (.string "a\"\n") := by
  have hnumber := literal_argument_read (.int (-42)) rfl
  have htake := hnumber.2.2.2.2 .empty ⟨[], []⟩ (-42) rfl (by decide) rfl
  exact ⟨⟨hnumber.1, hnumber.2.2.1 .empty "x" (by decide), htake⟩,
    (literal_argument_read (.string "a\"\n") rfl).1⟩

/-- **Not every whole number can be given**: the least one is read as a text, and the quotes of a
text are sent with it. -/
theorem literal_argument_least :
    String.ofList (Value.int Int64.minValue).source = "-9223372036854775808" ∧
    parseLiteral "-9223372036854775808" = .ok (.string "-9223372036854775808") ∧
    addOperation .empty "take:-9223372036854775808" =
      .ok (Query.empty.push (.ofValue .take (.string "-9223372036854775808"))) ∧
    (Query.empty.push (.ofValue .take (.string "-9223372036854775808"))).parameters =
      .ok ⟨[⟨"$take", "\"-9223372036854775808\""⟩], []⟩ := by
  have hsource : String.ofList (Value.int Int64.minValue).source = "-9223372036854775808" := by
    decide +kernel
  have hread := parseLiteral_minValue
  rw [hsource] at hread
  refine ⟨hsource, hread, ?_, rfl⟩
  exact @addOperation_append .take "-9223372036854775808" _ .empty rfl hread

end Command

end LambdaQuery
