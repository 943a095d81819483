import LambdaQuery.Proofs.Binary64.Rounding
import LambdaQuery.Value

/-!
# Written numbers read back

A finite number without sign is written in an expression with digits on both sides of a point, and
the decimal that is written is rounded to the number again.  A whole number is written out exactly.
Any other number is written as a decimal which was chosen because it reads back, and that decimal is
not whole because a whole one is rounded to a whole number.

## Main definitions

* `LambdaQuery.Binary64.IsDecimalOf` — the text is a decimal that is rounded to the number.

## Main results

* `LambdaQuery.Binary64.readsBack_shortest` — the chosen decimal reads back.
* `LambdaQuery.Binary64.exists_positional` — the digits of a decimal that is not whole.
* `LambdaQuery.Binary64.isDecimalOf_source` — the text of a number reads back.
-/

set_option autoImplicit false

namespace LambdaQuery

namespace Text

/-! ## Digits -/

/-- The number of two runs of digits in a row. -/
lemma numberOfDigits_append (ds es : List Char) :
    numberOfDigits (ds ++ es) = 10 ^ es.length * numberOfDigits ds + numberOfDigits es := by
  simp only [numberOfDigits, Nat.ofDigitChars_append]
  exact Nat.ofDigitChars_eq_ofDigitChars_zero

/-- Zeros at the end multiply the number by ten. -/
lemma numberOfDigits_append_zeros (ds : List Char) (k : Nat) :
    numberOfDigits (ds ++ List.replicate k '0') = 10 ^ k * numberOfDigits ds := by
  simp [numberOfDigits, Nat.ofDigitChars_append]

/-- A numeral has at least one digit. -/
lemma natural_ne_nil (n : Nat) : natural n ≠ [] := Nat.toDigits_ne_nil

/-- A number that is filled up with zeros is as long as asked for, if it fits. -/
lemma length_padded {width n : Nat} (hwidth : 0 < width) (h : n < 10 ^ width) :
    (padded width n).length = width := by
  have hle : (natural n).length ≤ width := (Nat.length_toDigits_le_iff (by decide) hwidth).2 h
  simp only [padded, List.length_append, List.length_replicate]
  omega

/-- Zeros at the start do not change a number. -/
lemma numberOfDigits_padded (width n : Nat) : numberOfDigits (padded width n) = n := by
  have hzeros := numberOfDigits_append_zeros [] (width - (natural n).length)
  rw [List.nil_append] at hzeros
  rw [padded, numberOfDigits_append, hzeros, numberOfDigits_natural]
  simp [numberOfDigits]

/-- A number that is filled up with zeros consists of digits. -/
lemma isDigit_of_mem_padded {width n : Nat} {c : Char} (h : c ∈ padded width n) :
    c.isDigit = true := by
  rcases List.mem_append.1 h with h | h
  · rw [List.eq_of_mem_replicate h]
    decide
  · exact isDigit_of_mem_natural h

end Text

namespace Binary64

/-! ## The chosen decimal -/

/-- A number without sign is its own distance from zero. -/
lemma abs_of_not_isNegative {x : Binary64} (h : x.isNegative = false) : x.abs = x := by
  simp [abs, h]

/-- A unit of `10 ^ -1074` goes into one of `2 ^ -1074`. -/
lemma ten_pow_places : 10 ^ places = 5 ^ places * 2 ^ binaryPlaces := by
  rw [show (10 : Nat) = 5 * 2 by rfl, Nat.mul_pow, places]

/-- The exact value in units of `10 ^ -1074`. -/
lemma expansion_eq (x : Binary64) : x.expansion = x.magnitude * 5 ^ places := by
  rw [expansion, natPow_eq]

/-- A decimal reads back if its ratio is rounded to the number. -/
lemma readsBack_iff {x : Binary64} (hsign : x.isNegative = false) (v : Nat) :
    x.readsBack v = true ↔ ofRatio v (10 ^ places) = x := by
  rw [readsBack, natPow_eq, beq_iff_eq, abs_of_not_isNegative hsign]

section Chosen

variable {x : Binary64} (hfinite : x.isFinite = true) (hsign : x.isNegative = false)

include hfinite hsign in
/-- The exact value reads back. -/
lemma readsBack_expansion : x.readsBack x.expansion = true := by
  refine (readsBack_iff hsign _).2 ?_
  refine ofRatio_eq_of_magnitude hfinite hsign (Nat.pow_pos (by decide)) ?_
  rw [expansion_eq, ten_pow_places, Nat.mul_assoc]

/-- The nearer of two neighbours is one of them. -/
lemma nearer_eq_or (tie : Tie) (exact below unit : Nat) :
    nearer tie exact below unit = below ∨ nearer tie exact below unit = below + unit := by
  cases tie with
  | upward =>
    simp only [nearer]
    split_ifs
    · exact .inl rfl
    · exact .inr rfl
    · exact .inr rfl
  | toEven =>
    simp only [nearer]
    split_ifs
    · exact .inl rfl
    · exact .inr rfl
    · exact .inl rfl
    · exact .inr rfl

/-- The neighbour that is taken reads back. -/
lemma reads_of_between? {reads : Nat → Bool} {tie : Tie} {exact below unit v : Nat}
    (h : between? tie exact below unit (reads below) (reads (below + unit)) = some v) :
    reads v = true := by
  cases hbelow : reads below with
  | true =>
    cases habove : reads (below + unit) with
    | true =>
      simp only [hbelow, habove, between?, Option.some.injEq] at h
      rcases nearer_eq_or tie exact below unit with heq | heq
      · rw [← h, heq, hbelow]
      · rw [← h, heq, habove]
    | false =>
      simp only [hbelow, habove, between?, Option.some.injEq] at h
      rw [← h, hbelow]
  | false =>
    cases habove : reads (below + unit) with
    | true =>
      simp only [hbelow, habove, between?, Option.some.injEq] at h
      rw [← h, habove]
    | false => simp only [hbelow, habove, between?, reduceCtorEq] at h

/-- A candidate reads back. -/
lemma readsBack_of_candidate? {tie : Tie} {unit v : Nat} (h : candidate? tie x unit = some v) :
    x.readsBack v = true := by
  unfold candidate? at h
  exact reads_of_between? h

include hfinite hsign in
/-- **The chosen decimal reads back**: it is a candidate that does, or the exact value. -/
lemma readsBack_shortest (tie : Tie) : x.readsBack (x.shortest tie) = true := by
  rw [shortest]
  cases h : (List.range' 1 17).findSome? fun digits =>
      candidate? tie x (Nat.pow 10 ((Text.natural x.expansion).length - digits)) with
  | none => exact readsBack_expansion hfinite hsign
  | some v =>
    obtain ⟨digits, -, hv⟩ := List.exists_of_findSome?_eq_some h
    exact readsBack_of_candidate? hv

end Chosen

/-! ## Its digits -/

/-- The zeros that are dropped stood at the end. -/
lemma exists_dropTrailingZeros (ds : List Char) :
    ∃ k, ds = dropTrailingZeros ds ++ List.replicate k '0' := by
  refine ⟨(ds.reverse.takeWhile (· == '0')).length, ?_⟩
  have hzeros : ds.reverse.takeWhile (· == '0') =
      List.replicate (ds.reverse.takeWhile (· == '0')).length '0' := by
    refine List.eq_replicate_iff.2 ⟨rfl, fun c hc => ?_⟩
    simpa using List.mem_takeWhile_imp hc
  have hsplit := congrArg List.reverse
    (List.takeWhile_append_dropWhile (p := (· == '0')) (l := ds.reverse))
  rw [List.reverse_append, List.reverse_reverse, hzeros, List.reverse_replicate] at hsplit
  simpa [dropTrailingZeros] using hsplit.symm

/-- **The digits of a decimal that is not whole**: there are digits on both sides of the point, and
they are those of the decimal up to zeros at the end.

**Proof sketch.** The decimals are filled up to the number of places, so dropping zeros at their end
divides by a power of ten; if none were left, the decimal would be whole. -/
lemma exists_positional {v : Nat} (h : v % 10 ^ places ≠ 0) :
    ∃ ds : List Char, ds ≠ [] ∧ (∀ c ∈ ds, c.isDigit = true) ∧
      positional v = Text.natural (v / 10 ^ places) ++ '.' :: ds ∧
      ofDecimal (Text.natural (v / 10 ^ places)) ds = ofRatio v (10 ^ places) := by
  have hlt : v % 10 ^ places < 10 ^ places := Nat.mod_lt _ (Nat.pow_pos (by decide))
  have hlen : (Text.padded places (v % 10 ^ places)).length = places :=
    Text.length_padded (by decide) hlt
  have hnumber := Text.numberOfDigits_padded places (v % 10 ^ places)
  obtain ⟨k, hk⟩ := exists_dropTrailingZeros (Text.padded places (v % 10 ^ places))
  generalize hds : dropTrailingZeros (Text.padded places (v % 10 ^ places)) = ds at hk
  have hvalue : 10 ^ k * Text.numberOfDigits ds = v % 10 ^ places := by
    rw [← Text.numberOfDigits_append_zeros, ← hk, hnumber]
  have hplaces : ds.length + k = places := by
    rw [← hlen, hk]
    simp
  have hne : ds ≠ [] := by
    rintro rfl
    rw [← hvalue] at h
    simp [Text.numberOfDigits] at h
  refine ⟨ds, hne, fun c hc => ?_, ?_, ?_⟩
  · have hmem : c ∈ Text.padded places (v % 10 ^ places) := by
      rw [hk]
      exact List.mem_append_left _ hc
    exact Text.isDigit_of_mem_padded hmem
  · simp only [positional, natPow_eq, hds]
  · rw [ofDecimal, natPow_eq, ← ofRatio_mul_right _ _ (Nat.pow_pos (n := k) (show 0 < 10 by decide)),
      ← Nat.pow_add, hplaces, Text.numberOfDigits_append, Text.numberOfDigits_natural]
    congr 1
    have hpow : 10 ^ ds.length * 10 ^ k = 10 ^ places := by rw [← Nat.pow_add, hplaces]
    calc (10 ^ ds.length * (v / 10 ^ places) + Text.numberOfDigits ds) * 10 ^ k
        = 10 ^ ds.length * 10 ^ k * (v / 10 ^ places) + 10 ^ k * Text.numberOfDigits ds := by
          rw [Nat.add_mul, Nat.mul_right_comm, Nat.mul_comm (Text.numberOfDigits ds)]
      _ = v := by rw [hpow, hvalue, Nat.div_add_mod]

/-! ## The text of a number -/

/-- The text has digits on both sides of a point, and the decimal is rounded to the number. -/
def IsDecimalOf (x : Binary64) (s : List Char) : Prop :=
  ∃ ws ds : List Char, (ws ≠ [] ∧ ∀ c ∈ ws, c.isDigit = true) ∧
    (ds ≠ [] ∧ ∀ c ∈ ds, c.isDigit = true) ∧ s = ws ++ '.' :: ds ∧ ofDecimal ws ds = x

section Source

variable {x : Binary64} (hfinite : x.isFinite = true) (hsign : x.isNegative = false)

include hfinite hsign in
/-- A whole number is written out with a zero behind the point. -/
lemma isDecimalOf_of_isIntegral (hint : x.isIntegral = true) :
    IsDecimalOf x (Text.natural x.wholePart ++ ['.', '0']) := by
  have hmod : x.magnitude % 2 ^ binaryPlaces = 0 := by
    rw [isIntegral_eq, hfinite, Bool.true_and, beq_iff_eq] at hint
    exact hint
  have hvalue : Text.numberOfDigits (Text.natural x.wholePart ++ ['0']) = x.wholePart * 10 := by
    rw [Text.numberOfDigits_append, Text.numberOfDigits_natural]
    simp [Text.numberOfDigits, Nat.mul_comm, Nat.ofDigitChars_cons]
  refine ⟨Text.natural x.wholePart, ['0'],
    ⟨Text.natural_ne_nil _, fun c => Text.isDigit_of_mem_natural⟩, by simp, rfl, ?_⟩
  rw [ofDecimal, natPow_eq, hvalue, List.length_singleton]
  refine ofRatio_eq_of_magnitude hfinite hsign (by decide) ?_
  rw [Nat.pow_one, Nat.mul_right_comm, wholePart_eq, Nat.div_mul_cancel (Nat.dvd_of_mod_eq_zero hmod)]

include hfinite hsign in
/-- A number that is not whole is written as the decimal that was chosen for it.

**Proof sketch.** The chosen decimal reads back.  Were it whole, the number would be too, since a
whole number is rounded to a whole number; so there are digits behind the point. -/
lemma isDecimalOf_of_not_isIntegral (hint : x.isIntegral = false) :
    IsDecimalOf x (positional (x.shortest .upward)) := by
  have hread : ofRatio (x.shortest .upward) (10 ^ places) = x :=
    (readsBack_iff hsign _).1 (readsBack_shortest hfinite hsign .upward)
  generalize x.shortest .upward = v at hread ⊢
  have hnotwhole : v % 10 ^ places ≠ 0 := by
    intro hzero
    have hpos : 0 < 10 ^ places := Nat.pow_pos (by decide)
    have hdvd := Nat.dvd_of_mod_eq_zero hzero
    have hwhole : ofRatio (v / 10 ^ places) 1 = x := by
      rw [← ofRatio_mul_right _ 1 hpos, Nat.div_mul_cancel hdvd, Nat.one_mul, hread]
    have htrue := isIntegral_ofRatio_one (n := v / 10 ^ places) (by rw [hwhole]; exact hfinite)
    rw [hwhole, hint] at htrue
    exact Bool.false_ne_true htrue
  obtain ⟨ds, hne, hds, htext, hvalue⟩ := exists_positional hnotwhole
  exact ⟨_, ds, ⟨Text.natural_ne_nil _, fun c => Text.isDigit_of_mem_natural⟩, ⟨hne, hds⟩, htext,
    hvalue.trans hread⟩

include hfinite hsign in
/-- **Written numbers read back**: a finite number without sign is written with digits on both sides
of a point, and the decimal is rounded to the number. -/
lemma isDecimalOf_source : IsDecimalOf x (Value.float x).source := by
  have hnosign : x.sign = [] := by simp [sign, hsign]
  have hnan : x.isNaN = false := by
    have hfield : x.field ≠ 2047 := by simpa [isFinite] using hfinite
    simp [isNaN, hfield]
  cases hint : x.isIntegral with
  | true =>
    have hsource : (Value.float x).source = Text.natural x.wholePart ++ ['.', '0'] := by
      rw [Value.source, if_pos hint, hnosign, List.nil_append]
    rw [hsource]
    exact isDecimalOf_of_isIntegral hfinite hsign hint
  | false =>
    have hsource : (Value.float x).source = positional (x.shortest .upward) := by
      rw [Value.source, if_neg (by simp [hint]), text, if_neg (by simp [hnan]), if_pos hfinite,
        plain, hnosign, List.nil_append]
    rw [hsource]
    exact isDecimalOf_of_not_isIntegral hfinite hsign hint

end Source

end Binary64

end LambdaQuery
