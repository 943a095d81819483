import LambdaQuery.Proofs.Binary64.Rounding

/-!
# Numbers that are too large

A ratio that is too large is rounded to infinity.  The first such ratio lies half way between the
largest finite number and the next power of two: it is equally near to both, and the power of two
would have the even word.

## Main definitions

* `LambdaQuery.Binary64.infinity` — what is too large is rounded to.
* `LambdaQuery.Binary64.overflowBound` — the least ratio that is too large.

## Main results

* `LambdaQuery.Binary64.roundHalfEven_lt_iff` — when a ratio is rounded to less than an even number.
* `LambdaQuery.Binary64.isFinite_ofRatio_iff` — which ratios are rounded to finite numbers.
* `LambdaQuery.Binary64.ofRatio_eq_infinity` — the other ones are rounded to infinity.
* `LambdaQuery.Binary64.isFinite_ofDecimal_iff`, `LambdaQuery.Binary64.ofDecimal_eq_infinity` — the
  same for decimals.
-/

set_option autoImplicit false

namespace LambdaQuery.Binary64

/-- Infinity, without sign. -/
def infinity : Binary64 := ⟨0x7FF0000000000000⟩

/-- The least number that is rounded to infinity. -/
def overflowBound : Nat := 2 ^ 1024 - 2 ^ 970

/-- **Rounding to less than an even number** is being less than half a step below it: half a step
below it the even number is the one that is taken.

**Proof sketch.** By the quotient.  Rounding adds one at most, so only the quotient just below the
even number decides by its remainder; that quotient is odd, so it is left on a tie. -/
lemma roundHalfEven_lt_iff {n d k : Nat} (hd : 0 < d) (heven : k % 2 = 0) :
    roundHalfEven n d < k ↔ 2 * n + d < 2 * (k * d) := by
  have hn := Nat.div_add_mod n d
  have hr := Nat.mod_lt n hd
  obtain ⟨hlow, hhigh⟩ := roundHalfEven_bounds n d
  rcases Nat.lt_trichotomy (n / d + 1) k with hlt | heq | hgt
  · have hmul : d * (n / d + 2) ≤ k * d := by
      rw [Nat.mul_comm k]
      exact Nat.mul_le_mul_left d hlt
    rw [Nat.mul_add] at hmul
    omega
  · have hmul : k * d = d * (n / d) + d := by rw [← heq, Nat.mul_comm, Nat.mul_succ]
    have hodd : n / d % 2 = 1 := by omega
    have hround : roundHalfEven n d < k ↔ 2 * (n % d) < d := by
      simp only [roundHalfEven, hodd]
      split_ifs <;> omega
    omega
  · have hmul : k * d ≤ d * (n / d) := by
      rw [Nat.mul_comm k]
      exact Nat.mul_le_mul_left d (by omega)
    omega

/-- A rounded ratio is finite if its word is below that of infinity. -/
lemma isFinite_ofScaled (s d : Nat) : (ofScaled s d).isFinite = true ↔
    stepExponent s d * 2 ^ 52 + stepCount s d < 2047 * 2 ^ 52 := by
  simp only [isFinite, field_eq, word_ofScaled, bne_iff_ne]
  omega

/-- A ratio of units is rounded to a finite number if it is more than half a step of the last binade
below the end of this binade.

**Proof sketch.** By the size of the steps.  Smaller steps than those of the last binade end far
below its end, and larger ones begin there; in the last binade the ratio must be rounded to less
than `2 ^ 53` steps. -/
lemma isFinite_ofScaled_iff {s d : Nat} (hd : 0 < d) :
    (ofScaled s d).isFinite = true ↔ 2 * s < (2 ^ 54 - 1) * (d * 2 ^ 2045) := by
  rw [isFinite_ofScaled]
  obtain ⟨hbelow, habove⟩ := quotient_bounds s d
  obtain ⟨hle, hge⟩ := stepCount_bounds s d
  have hstep : ∀ e, 0 < d * 2 ^ e := fun e => Nat.mul_pos hd (Nat.two_pow_pos e)
  rw [Nat.div_lt_iff_lt_mul (hstep _)] at hbelow
  rw [Nat.le_div_iff_mul_le (hstep _)] at habove
  have hmono : ∀ {e e'}, e < e' → 2 * (d * 2 ^ e) ≤ d * 2 ^ e' := by
    intro e e' h
    rw [Nat.mul_left_comm, ← Nat.pow_succ']
    exact Nat.mul_le_mul_left d (Nat.pow_le_pow_right (by decide) h)
  rcases Nat.lt_trichotomy (stepExponent s d) 2045 with hlt | heq | hgt
  · have hsmall := hmono hlt
    have hpos := hstep (stepExponent s d)
    generalize d * 2 ^ 2045 = last at hsmall ⊢
    omega
  · have hround := roundHalfEven_lt_iff (n := s) (k := 2 ^ 53) (hstep 2045) (by decide)
    rw [stepCount, heq] at *
    generalize d * 2 ^ 2045 = last at *
    omega
  · have hlarge := hmono hgt
    have hpos := hstep 2045
    generalize d * 2 ^ 2045 = last at hlarge hpos ⊢
    omega

/-- **Which ratios are rounded to finite numbers**: those that are below the bound. -/
lemma isFinite_ofRatio_iff {n d : Nat} (hd : 0 < d) :
    (ofRatio n d).isFinite = true ↔ n < overflowBound * d := by
  have hbound : overflowBound = (2 ^ 54 - 1) * 2 ^ 970 := by
    rw [overflowBound, Nat.sub_mul, ← Nat.pow_add, Nat.one_mul]
  have hexponent : 2045 = binaryPlaces + 970 + 1 := rfl
  have hpow : ∀ e e', 2 ^ (e + e' + 1) = 2 * (2 ^ e * 2 ^ e') := fun e e' => by
    rw [Nat.pow_succ', Nat.pow_add]
  have hpos : 0 < 2 ^ binaryPlaces := Nat.two_pow_pos _
  rw [ofRatio_eq_ofScaled, isFinite_ofScaled_iff hd, hbound, hexponent, hpow]
  generalize 2 ^ binaryPlaces = unit at hpos ⊢
  generalize 2 ^ 54 - 1 = steps, 2 ^ 970 = size
  rw [show steps * (d * (2 * (unit * size))) = 2 * (steps * size * d * unit) by ring,
    Nat.mul_lt_mul_left (by decide), Nat.mul_lt_mul_right hpos]

/-- **A ratio that is too large is rounded to infinity.** -/
lemma ofRatio_eq_infinity {n d : Nat} (h : (ofRatio n d).isFinite = false) :
    ofRatio n d = infinity := by
  rw [ofRatio_eq_ofScaled] at h ⊢
  rw [← Bool.not_eq_true, isFinite_ofScaled, Nat.not_lt] at h
  rw [ofScaled, Nat.min_eq_right h]
  rfl

/-- Which decimals are too large: a decimal is finite as long as it is below the bound. -/
lemma isFinite_ofDecimal_iff (whole decimals : List Char) :
    (ofDecimal whole decimals).isFinite = true ↔
      Text.numberOfDigits (whole ++ decimals) < overflowBound * 10 ^ decimals.length :=
  isFinite_ofRatio_iff (Nat.pow_pos (by decide))

/-- A decimal that is too large is infinity. -/
lemma ofDecimal_eq_infinity {whole decimals : List Char}
    (h : overflowBound * 10 ^ decimals.length ≤ Text.numberOfDigits (whole ++ decimals)) :
    ofDecimal whole decimals = infinity := by
  have hinfinite := mt (isFinite_ofDecimal_iff whole decimals).1 (Nat.not_lt.2 h)
  exact ofRatio_eq_infinity (Bool.eq_false_iff.2 hinfinite)

end LambdaQuery.Binary64
