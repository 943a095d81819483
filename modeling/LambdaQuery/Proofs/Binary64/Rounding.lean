import Mathlib
import LambdaQuery.Binary64.Rounding

/-!
# Rounding is exact on numbers

A ratio that is the value of a finite number is rounded to that number, and whole ratios are rounded
to whole numbers.  Rounding depends on the ratio alone and not on the two numbers that it is written
with.

## Main definitions

* `LambdaQuery.Binary64.ofScaled` — the number nearest to a ratio of units of `2 ^ -1074`.

## Main results

* `LambdaQuery.Binary64.magnitude_ofScaled` — the value of a rounded ratio.
* `LambdaQuery.Binary64.ofRatio_eq_of_magnitude` — rounding is exact on the values of numbers.
* `LambdaQuery.Binary64.isIntegral_ofRatio_one` — a whole number is rounded to a whole number.

## Design

The powers of two that the unit brings in are large, so the statements are about ratios of units,
where they do not occur.
-/

set_option autoImplicit false

namespace LambdaQuery.Binary64

/-! ## Words and magnitudes -/

section Powers

variable (x : Binary64)

/-- A power, in the form that the lemmas on powers have.  It is stated for any exponent, since a
large one must not be evaluated. -/
lemma natPow_eq (b e : Nat) : Nat.pow b e = b ^ e := rfl

/-- The sign bit, as a bound of the word. -/
lemma isNegative_eq : x.isNegative = decide (2 ^ 63 ≤ x.word) := rfl

/-- The exponent field, as digits of the word. -/
lemma field_eq : x.field = x.word / 2 ^ 52 % 2 ^ 11 := rfl

/-- The fraction, as digits of the word. -/
lemma fraction_eq : x.fraction = x.word % 2 ^ 52 := rfl

/-- The value, with the leading bit that the field stands for. -/
lemma magnitude_eq :
    x.magnitude = if x.field = 0 then x.fraction else (2 ^ 52 + x.fraction) * 2 ^ (x.field - 1) :=
  rfl

/-- A finite number is whole if its value is a whole multiple of one. -/
lemma isIntegral_eq : x.isIntegral = (x.isFinite && x.magnitude % 2 ^ binaryPlaces == 0) := by
  rw [isIntegral, natPow_eq]

/-- The whole part, from the value. -/
lemma wholePart_eq : x.wholePart = x.magnitude / 2 ^ binaryPlaces := by
  rw [wholePart, natPow_eq]

end Powers

/-- The word of a number without sign is its exponent field and its fraction. -/
lemma word_eq_of_not_isNegative {x : Binary64} (h : x.isNegative = false) :
    x.word = x.field * 2 ^ 52 + x.fraction := by
  simp only [isNegative_eq, decide_eq_false_iff_not] at h
  simp only [field_eq, fraction_eq]
  omega

/-- A number is its word. -/
lemma ofNat_word (x : Binary64) : (⟨UInt64.ofNat x.word⟩ : Binary64) = x := by
  simp [word]

/-- The word of a number that is given by it. -/
lemma word_mk {n : Nat} (h : n < 2 ^ 64) : (⟨UInt64.ofNat n⟩ : Binary64).word = n := by
  simp only [word, UInt64.toNat_ofNat']
  exact Nat.mod_eq_of_lt h

/-- **The value of a word**: steps of one size are counted on from the binade where they begin, and
the last step of a binade is the first one of the next.

**Proof sketch.** By the number of steps: fewer than `2 ^ 52` occur in the first binade only and are
the fraction, fewer than `2 ^ 53` have the leading bit that the field stands for, and `2 ^ 53` are
`2 ^ 52` steps of twice the size. -/
lemma magnitude_eq_of_word {x : Binary64} {unit steps : Nat} (hx : x.word = unit * 2 ^ 52 + steps)
    (hle : steps ≤ 2 ^ 53) (hnormal : 2 ^ 52 ≤ steps ∨ unit = 0)
    (hfinite : unit * 2 ^ 52 + steps < 2047 * 2 ^ 52) : x.magnitude = steps * 2 ^ unit := by
  rcases Nat.lt_or_ge steps (2 ^ 52) with hlt | hge
  · obtain rfl : unit = 0 := by omega
    have hfield : x.field = 0 := by simp only [field_eq, hx]; omega
    have hfraction : x.fraction = steps := by simp only [fraction_eq, hx]; omega
    simp [magnitude_eq, hfield, hfraction]
  · rcases Nat.lt_or_ge steps (2 ^ 53) with hlt | hge'
    · have hfield : x.field = unit + 1 := by simp only [field_eq, hx]; omega
      have hfraction : x.fraction = steps - 2 ^ 52 := by simp only [fraction_eq, hx]; omega
      simp only [magnitude_eq, hfield, hfraction, Nat.add_sub_cancel, Nat.add_sub_of_le hge,
        Nat.add_one_ne_zero, if_false]
    · obtain rfl : steps = 2 ^ 53 := by omega
      have hfield : x.field = unit + 2 := by simp only [field_eq, hx]; omega
      have hfraction : x.fraction = 0 := by simp only [fraction_eq, hx]; omega
      have hpow : 2 ^ 52 * 2 ^ (unit + 1) = 2 ^ 53 * 2 ^ unit := by rw [Nat.pow_succ]; omega
      simpa [magnitude_eq, hfield, hfraction] using hpow

/-! ## Rounding to whole numbers -/

/-- Rounding depends on the ratio alone. -/
lemma roundHalfEven_mul_right {n d k : Nat} (hk : 0 < k) :
    roundHalfEven (n * k) (d * k) = roundHalfEven n d := by
  have hlt : ∀ a b, a * k < b * k ↔ a < b := fun a b => Nat.mul_lt_mul_right hk
  simp only [roundHalfEven, Nat.mul_div_mul_right n d hk, Nat.mul_mod_mul_right,
    ← Nat.mul_assoc, hlt]

/-- A whole number is not changed. -/
lemma roundHalfEven_mul_self (n : Nat) {d : Nat} (hd : 0 < d) : roundHalfEven (n * d) d = n := by
  simp [roundHalfEven, Nat.mul_div_cancel n hd, hd]

/-- The whole number nearest to a ratio is the quotient or the next one. -/
lemma roundHalfEven_bounds (n d : Nat) :
    n / d ≤ roundHalfEven n d ∧ roundHalfEven n d ≤ n / d + 1 := by
  simp only [roundHalfEven]
  split_ifs <;> omega

/-! ## Ratios of units -/

/-- The size of the steps that `s / d` units are counted in. -/
def stepExponent (s d : Nat) : Nat := (s / d).log2 - 52

/-- The number of steps nearest to `s / d` units. -/
def stepCount (s d : Nat) : Nat := roundHalfEven s (d * 2 ^ stepExponent s d)

/-- The number nearest to `s / d` units of `2 ^ -1074`. -/
def ofScaled (s d : Nat) : Binary64 :=
  ⟨UInt64.ofNat (min (stepExponent s d * 2 ^ 52 + stepCount s d) (2047 * 2 ^ 52))⟩

/-- A ratio in units. -/
lemma ofRatio_eq_ofScaled (n d : Nat) : ofRatio n d = ofScaled (n * 2 ^ binaryPlaces) d := by
  simp only [ofRatio, ofScaled, stepCount, stepExponent, natPow_eq]

/-- Rounding depends on the ratio alone. -/
lemma ofScaled_mul_right {s d k : Nat} (hk : 0 < k) : ofScaled (s * k) (d * k) = ofScaled s d := by
  have hexp : stepExponent (s * k) (d * k) = stepExponent s d := by
    rw [stepExponent, Nat.mul_div_mul_right s d hk, stepExponent]
  have hcount : stepCount (s * k) (d * k) = stepCount s d := by
    rw [stepCount, hexp, Nat.mul_right_comm, roundHalfEven_mul_right hk, stepCount]
  rw [ofScaled, hexp, hcount, ofScaled]

/-- Before rounding, the number of steps fills its binade.

**Proof sketch.** The size of the steps is chosen so that the quotient lies between `2 ^ 52` and
`2 ^ 53` of them, or below where the steps cannot be smaller. -/
lemma quotient_bounds (s d : Nat) :
    s / (d * 2 ^ stepExponent s d) < 2 ^ 53 ∧
      (2 ^ 52 ≤ s / (d * 2 ^ stepExponent s d) ∨ stepExponent s d = 0) := by
  have hpos : 0 < 2 ^ stepExponent s d := Nat.two_pow_pos _
  rw [← Nat.div_div_eq_div_mul]
  constructor
  · rw [Nat.div_lt_iff_lt_mul hpos, ← Nat.pow_add]
    rcases Nat.eq_zero_or_pos (s / d) with hzero | hq
    · rw [hzero]
      exact Nat.two_pow_pos _
    · refine (Nat.log2_lt (by omega)).1 ?_
      simp only [stepExponent]
      omega
  · rcases Nat.eq_zero_or_pos (stepExponent s d) with hzero | hexp
    · exact .inr hzero
    · left
      have hlog : (s / d).log2 = 52 + stepExponent s d := by
        simp only [stepExponent] at hexp ⊢
        omega
      have hq : s / d ≠ 0 := by
        rintro hq
        simp [stepExponent, hq] at hexp
      rw [Nat.le_div_iff_mul_le hpos, ← Nat.pow_add, ← hlog]
      exact Nat.log2_self_le hq

/-- The number of steps fills its binade, and rounding takes it to a bound at most. -/
lemma stepCount_bounds (s d : Nat) :
    stepCount s d ≤ 2 ^ 53 ∧ (2 ^ 52 ≤ stepCount s d ∨ stepExponent s d = 0) := by
  obtain ⟨hlow, hhigh⟩ := roundHalfEven_bounds s (d * 2 ^ stepExponent s d)
  obtain ⟨hbelow, habove⟩ := quotient_bounds s d
  exact ⟨by unfold stepCount; omega, habove.imp_left fun h => h.trans hlow⟩

/-- The word of a rounded ratio. -/
lemma word_ofScaled (s d : Nat) :
    (ofScaled s d).word = min (stepExponent s d * 2 ^ 52 + stepCount s d) (2047 * 2 ^ 52) := by
  rw [ofScaled, word_mk]
  omega

/-- A rounded ratio has no sign. -/
lemma isNegative_ofScaled (s d : Nat) : (ofScaled s d).isNegative = false := by
  simp only [isNegative_eq, word_ofScaled, decide_eq_false_iff_not]
  omega

/-- **The value of a rounded ratio**: if it is finite, it is the number of steps times their
size. -/
lemma magnitude_ofScaled {s d : Nat} (h : (ofScaled s d).isFinite = true) :
    (ofScaled s d).magnitude = stepCount s d * 2 ^ stepExponent s d := by
  obtain ⟨hle, hnormal⟩ := stepCount_bounds s d
  have hlt : stepExponent s d * 2 ^ 52 + stepCount s d < 2047 * 2 ^ 52 := by
    by_contra hge
    have hword : (ofScaled s d).word = 2047 * 2 ^ 52 := by
      rw [word_ofScaled]
      omega
    simp [isFinite, field_eq, hword] at h
  refine magnitude_eq_of_word ?_ hle hnormal hlt
  rw [word_ofScaled]
  omega

/-- The value of a finite number is rounded to it.

**Proof sketch.** The leading bit of the value tells the exponent field, so the steps are those of
the number's own binade and there is no remainder. -/
lemma ofScaled_magnitude {x : Binary64} (hfinite : x.isFinite = true)
    (hsign : x.isNegative = false) : ofScaled x.magnitude 1 = x := by
  have hfield : x.field ≤ 2046 := by
    have hne : x.field ≠ 2047 := by simpa [isFinite] using hfinite
    have hlt : x.field < 2 ^ 11 := Nat.mod_lt _ (Nat.two_pow_pos 11)
    omega
  have hfraction : x.fraction < 2 ^ 52 := Nat.mod_lt _ (Nat.two_pow_pos 52)
  have hword := word_eq_of_not_isNegative hsign
  have hsteps : stepExponent x.magnitude 1 * 2 ^ 52 + stepCount x.magnitude 1 = x.word := by
    by_cases hzero : x.field = 0
    · have hmag : x.magnitude = x.fraction := by simp [magnitude_eq, hzero]
      have hexp : stepExponent x.fraction 1 = 0 := by
        rcases Nat.eq_zero_or_pos x.fraction with h0 | hpos
        · simp [stepExponent, h0]
        · have hlog := (Nat.log2_lt (by omega)).2 hfraction
          simp only [stepExponent, Nat.div_one]
          omega
      have hcount := roundHalfEven_mul_self x.fraction (Nat.one_pos)
      rw [Nat.mul_one] at hcount
      rw [hmag, stepCount, hexp, Nat.pow_zero, Nat.mul_one, hcount, hword, hzero]
    · obtain ⟨k, hk⟩ : ∃ k, x.field = k + 1 := ⟨x.field - 1, by omega⟩
      have hmag : x.magnitude = (2 ^ 52 + x.fraction) * 2 ^ k := by
        simp only [magnitude_eq, hk, Nat.add_one_ne_zero, if_false, Nat.add_sub_cancel]
      have hpos : 0 < 2 ^ k := Nat.two_pow_pos k
      have hexp : stepExponent ((2 ^ 52 + x.fraction) * 2 ^ k) 1 = k := by
        have hlog : ((2 ^ 52 + x.fraction) * 2 ^ k).log2 = 52 + k := by
          refine (Nat.log2_eq_iff (Nat.mul_ne_zero (by omega) (by omega))).2 ⟨?_, ?_⟩
          · rw [Nat.pow_add]
            exact Nat.mul_le_mul_right _ (by omega)
          · rw [show 52 + k + 1 = 53 + k by omega, Nat.pow_add]
            exact Nat.mul_lt_mul_of_pos_right (by omega) hpos
        rw [stepExponent, Nat.div_one, hlog, Nat.add_sub_cancel_left]
      rw [hmag, stepCount, hexp, Nat.one_mul, roundHalfEven_mul_self _ hpos, hword, hk]
      omega
  rw [ofScaled, hsteps, Nat.min_eq_left (by omega), ofNat_word]

/-- A multiple of a power of two is rounded to a multiple of it.

**Proof sketch.** If the steps are at least as large as the power, all numbers of steps are
multiples.  If they are smaller, the ratio is a whole number of steps and not changed. -/
lemma dvd_magnitude_ofScaled {s p : Nat} (hs : 2 ^ p ∣ s) (h : (ofScaled s 1).isFinite = true) :
    2 ^ p ∣ (ofScaled s 1).magnitude := by
  rw [magnitude_ofScaled h]
  rcases Nat.le_total p (stepExponent s 1) with hle | hle
  · exact Nat.dvd_mul_left_of_dvd (Nat.pow_dvd_pow 2 hle) _
  · obtain ⟨k, hk⟩ := Nat.dvd_trans (Nat.pow_dvd_pow 2 hle) hs
    have hcount : stepCount s 1 * 2 ^ stepExponent s 1 = s := by
      have hround := roundHalfEven_mul_self k (Nat.two_pow_pos (stepExponent s 1))
      rw [Nat.mul_comm k, ← hk] at hround
      rw [stepCount, Nat.one_mul, hround, Nat.mul_comm, ← hk]
    rwa [hcount]

/-! ## Ratios -/

/-- **Rounding is exact on the values of numbers**: a ratio that is the value of a finite number
without sign is rounded to it. -/
lemma ofRatio_eq_of_magnitude {x : Binary64} (hfinite : x.isFinite = true)
    (hsign : x.isNegative = false) {n d : Nat} (hd : 0 < d)
    (h : n * 2 ^ binaryPlaces = x.magnitude * d) : ofRatio n d = x := by
  rw [ofRatio_eq_ofScaled, h]
  calc ofScaled (x.magnitude * d) d = ofScaled (x.magnitude * d) (1 * d) := by rw [Nat.one_mul]
    _ = ofScaled x.magnitude 1 := ofScaled_mul_right hd
    _ = x := ofScaled_magnitude hfinite hsign

/-- Rounding depends on the ratio alone. -/
lemma ofRatio_mul_right (n d : Nat) {k : Nat} (hk : 0 < k) :
    ofRatio (n * k) (d * k) = ofRatio n d := by
  rw [ofRatio_eq_ofScaled, Nat.mul_right_comm, ofScaled_mul_right hk, ofRatio_eq_ofScaled]

/-- **A whole number is rounded to a whole number**, unless it is too large. -/
lemma isIntegral_ofRatio_one {n : Nat} (h : (ofRatio n 1).isFinite = true) :
    (ofRatio n 1).isIntegral = true := by
  rw [ofRatio_eq_ofScaled] at h ⊢
  have hdvd := dvd_magnitude_ofScaled (Nat.dvd_mul_left (2 ^ binaryPlaces) n) h
  rw [isIntegral_eq, h, Bool.true_and, beq_iff_eq]
  exact Nat.mod_eq_zero_of_dvd hdvd

/-- A decimal literal has no sign. -/
lemma isNegative_ofDecimal (whole decimals : List Char) :
    (ofDecimal whole decimals).isNegative = false := by
  rw [ofDecimal, ofRatio_eq_ofScaled]
  exact isNegative_ofScaled _ _

end LambdaQuery.Binary64
