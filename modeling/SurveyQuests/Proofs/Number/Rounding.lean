import Mathlib.Algebra.Group.Nat.Defs
import SurveyQuests.Number.Decimal

/-!
# Rounding to the nearest binary number

The nearest rank depends on the quotient only, not on numerator and denominator, and the units of a
rank are nearest to the rank.  The binary number of a decimal is the one nearest to its exact value:
the exponents that are decided first are decided as they would be anyhow.

## What is here

* `nearestRank_mul_left` — numerator and denominator times the same;
* `nearestRank_units` — a magnitude is nearest to itself;
* `ofDecimal_eq` — the binary number of a decimal.
-/

set_option autoImplicit false

namespace SurveyQuests.Binary64

/-! ## Powers

The definitions name `Nat.pow`, the lemmas about powers are stated with `^`.  An exponent as large
as that of the unit has a name here, so that the power is never computed. -/

/-- One is two to this power, in units. -/
def unitExponent : Nat := 1074

theorem shift_eq (rank : Nat) : shift rank = rank / 2 ^ 52 - 1 := rfl

theorem significand_eq (rank : Nat) : significand rank = rank - shift rank * 2 ^ 52 := rfl

theorem units_eq (rank : Nat) : units rank = significand rank * 2 ^ shift rank := rfl

theorem unitExponent_eq : unitExponent = 1074 := rfl

theorem unitsPerOne_eq : unitsPerOne = 2 ^ unitExponent := by
  unfold unitsPerOne unitExponent
  generalize 1074 = exponent
  rfl

theorem nearestRank_eq (num den : Nat) :
    nearestRank num den = (Nat.log2 (num / den) - 52) * 2 ^ 52 +
      roundHalfEven num (den * 2 ^ (Nat.log2 (num / den) - 52)) := rfl

/-! ## Quotients -/

theorem roundHalfEven_mul_left {k : Nat} (hk : 0 < k) (num den : Nat) :
    roundHalfEven (k * num) (k * den) = roundHalfEven num den := by
  have hlt : 2 * (k * (num % den)) < k * den ↔ 2 * (num % den) < den := by
    rw [Nat.mul_left_comm]
    exact Nat.mul_lt_mul_left hk
  have hgt : k * den < 2 * (k * (num % den)) ↔ den < 2 * (num % den) := by
    rw [Nat.mul_left_comm]
    exact Nat.mul_lt_mul_left hk
  rw [roundHalfEven, roundHalfEven]
  simp only [Nat.mul_div_mul_left num den hk, Nat.mul_mod_mul_left, hlt, hgt]

/-- **The nearest rank depends on the quotient only.** -/
theorem nearestRank_mul_left {k : Nat} (hk : 0 < k) (num den : Nat) :
    nearestRank (k * num) (k * den) = nearestRank num den := by
  rw [nearestRank_eq, nearestRank_eq, Nat.mul_div_mul_left num den hk, Nat.mul_assoc,
    roundHalfEven_mul_left hk]

theorem roundHalfEven_of_dvd {num den : Nat} (hden : 0 < den) (h : den ∣ num) :
    roundHalfEven num den = num / den := by
  have hmod : num % den = 0 := Nat.mod_eq_zero_of_dvd h
  rw [roundHalfEven]
  simp only [hmod, Nat.mul_zero, hden, if_true]

/-- What is less than half a unit is nearest to zero. -/
theorem nearestRank_of_small {num den : Nat} (h : 2 * num < den) : nearestRank num den = 0 := by
  have hlt : num < den := by omega
  have hdiv : num / den = 0 := Nat.div_eq_of_lt hlt
  have hmod : num % den = num := Nat.mod_eq_of_lt hlt
  have hlog : Nat.log2 0 = 0 := by decide
  rw [nearestRank_eq, roundHalfEven, hdiv, hlog]
  simp [hdiv, hmod, h]

/-- What has too many binary digits is nearest to infinity. -/
theorem finiteCount_le_nearestRank {num k : Nat} (hk : 2099 ≤ k) (h : 2 ^ k ≤ num) :
    finiteCount ≤ nearestRank num 1 := by
  have hne : num ≠ 0 := Nat.ne_of_gt (Nat.lt_of_lt_of_le (Nat.two_pow_pos k) h)
  have hlog : k ≤ Nat.log2 num := (Nat.le_log2 hne).2 h
  have hshift : 2047 ≤ Nat.log2 (num / 1) - 52 := by
    rw [Nat.div_one]
    omega
  have hcount : finiteCount = 2047 * 2 ^ 52 := by decide
  calc finiteCount = 2047 * 2 ^ 52 := hcount
    _ ≤ (Nat.log2 (num / 1) - 52) * 2 ^ 52 := Nat.mul_le_mul_right _ hshift
    _ ≤ nearestRank num 1 := by
      rw [nearestRank_eq]
      exact Nat.le_add_right _ _

/-! ## Units of a rank -/

theorem units_of_small {rank : Nat} (h : rank < 2 ^ 53) : units rank = rank := by
  have hshift : shift rank = 0 := by
    rw [shift_eq]
    omega
  rw [units_eq, significand_eq, hshift, Nat.zero_mul, Nat.sub_zero, Nat.pow_zero, Nat.mul_one]

theorem log2_mul_two_pow {m k : Nat} (hm : 2 ^ 52 ≤ m) (hm' : m < 2 ^ 53) :
    Nat.log2 (m * 2 ^ k) = 52 + k := by
  have hpos : m * 2 ^ k ≠ 0 := Nat.mul_ne_zero (by omega) (Nat.ne_of_gt (Nat.two_pow_pos k))
  refine (Nat.log2_eq_iff hpos).2 ⟨?_, ?_⟩
  · rw [Nat.pow_add]
    exact Nat.mul_le_mul_right _ hm
  · rw [show 52 + k + 1 = 53 + k by omega, Nat.pow_add]
    exact Nat.mul_lt_mul_of_pos_right hm' (Nat.two_pow_pos k)

/-- **A magnitude is nearest to its rank.** -/
theorem nearestRank_units (rank : Nat) : nearestRank (units rank) 1 = rank := by
  by_cases hsmall : rank < 2 ^ 53
  · have hlog : Nat.log2 rank - 52 = 0 := by
      by_cases hzero : rank = 0
      · subst hzero
        decide
      · have := (Nat.log2_lt hzero).2 hsmall
        omega
    rw [units_of_small hsmall, nearestRank_eq, Nat.div_one, hlog, Nat.pow_zero, Nat.mul_one,
      Nat.zero_mul, Nat.zero_add, roundHalfEven_of_dvd Nat.one_pos (Nat.one_dvd rank), Nat.div_one]
  · have hshift : shift rank * 2 ^ 52 + 2 ^ 52 ≤ rank ∧ rank < shift rank * 2 ^ 52 + 2 ^ 53 := by
      rw [shift_eq]
      omega
    have hlow : 2 ^ 52 ≤ significand rank := by
      rw [significand_eq]
      omega
    have hhigh : significand rank < 2 ^ 53 := by
      rw [significand_eq]
      omega
    have hdvd : 2 ^ shift rank ∣ significand rank * 2 ^ shift rank := Nat.dvd_mul_left _ _
    have hpos : 0 < 2 ^ shift rank := Nat.two_pow_pos _
    rw [nearestRank_eq, Nat.div_one, units_eq, log2_mul_two_pow hlow hhigh, Nat.add_sub_cancel_left,
      Nat.one_mul, roundHalfEven_of_dvd hpos hdvd, Nat.mul_div_cancel _ hpos]
    rw [significand_eq]
    omega

/-! ## Decimals -/

theorem two_pow_le_ten_pow (e : Nat) : 2 ^ (3 * e) ≤ 10 ^ e := by
  rw [Nat.pow_mul]
  exact Nat.pow_le_pow_left (by omega) e

/-- A decimal far above the finite numbers is infinite. -/
theorem ofRatio_of_large {negative : Bool} {digits e : Nat} (hdigits : digits ≠ 0) (he : 400 < e) :
    ofRatio negative (digits * 10 ^ e) 1 = ⟨negative, .infinite⟩ := by
  have hnum : 2 ^ (3 * e + unitExponent) ≤ digits * 10 ^ e * unitsPerOne := calc
    2 ^ (3 * e + unitExponent) = 2 ^ (3 * e) * unitsPerOne := by rw [unitsPerOne_eq, Nat.pow_add]
    _ ≤ 10 ^ e * unitsPerOne := Nat.mul_le_mul_right _ (two_pow_le_ten_pow e)
    _ ≤ digits * 10 ^ e * unitsPerOne :=
      Nat.mul_le_mul_right _ (Nat.le_mul_of_pos_left _ (Nat.pos_of_ne_zero hdigits))
  have hexponent := unitExponent_eq
  have hrank := finiteCount_le_nearestRank (by omega) hnum
  rw [ofRatio, ofUnits, Magnitude.ofRank, dif_neg (Nat.not_lt_of_le hrank)]

/-- A decimal far below the positive numbers is zero. -/
theorem ofRatio_of_small {negative : Bool} {digits e : Nat} (he : 401 + Nat.log2 digits < e) :
    ofRatio negative digits (10 ^ e) = ⟨negative, .ofRank 0⟩ := by
  have hdigits : digits < 2 ^ (e - 401) := calc
    digits < 2 ^ (Nat.log2 digits + 1) := Nat.lt_log2_self
    _ ≤ 2 ^ (e - 401) := Nat.pow_le_pow_right (by omega) (by omega)
  have hexponent := unitExponent_eq
  have hunits : 0 < unitsPerOne := by
    rw [unitsPerOne_eq]
    exact Nat.two_pow_pos unitExponent
  have hsmall : 2 * (digits * unitsPerOne) < 10 ^ e := calc
    2 * (digits * unitsPerOne) < 2 * (2 ^ (e - 401) * unitsPerOne) :=
      Nat.mul_lt_mul_of_pos_left (Nat.mul_lt_mul_of_pos_right hdigits hunits) (by omega)
    _ = 2 ^ (1 + ((e - 401) + unitExponent)) := by
      rw [unitsPerOne_eq, Nat.pow_add 2 1, Nat.pow_add 2 (e - 401), Nat.pow_one]
    _ ≤ 2 ^ (3 * e) := Nat.pow_le_pow_right (by omega) (by omega)
    _ ≤ 10 ^ e := two_pow_le_ten_pow e
  rw [ofRatio, ofUnits, nearestRank_of_small hsmall]

theorem ofRatio_zero (negative : Bool) (den : Nat) (hden : 0 < den) :
    ofRatio negative 0 den = ⟨negative, .ofRank 0⟩ := by
  rw [ofRatio, ofUnits, Nat.zero_mul, nearestRank_of_small (by omega)]

/-- **The binary number of a decimal is the one nearest to its exact value.** -/
theorem ofDecimal_eq (d : Decimal) :
    ofDecimal d =
      ofRatio d.negative (d.digits * 10 ^ d.exponent.toNat) (10 ^ (-d.exponent).toNat) := by
  rw [ofDecimal]
  simp only [Nat.pow_eq]
  split
  · rename_i hzero
    rw [hzero, Nat.zero_mul, ofRatio_zero _ _ (Nat.pow_pos (by omega))]
  · rename_i hdigits
    split
    · rename_i hlarge
      have hneg : (-d.exponent).toNat = 0 := by omega
      rw [hneg, Nat.pow_zero, ofRatio_of_large hdigits (by omega)]
    · split
      · rename_i hsmall
        have hpos : d.exponent.toNat = 0 := by omega
        rw [hpos, Nat.pow_zero, Nat.mul_one, ofRatio_of_small (by omega)]
      · split
        · rename_i hpos
          have hneg : (-d.exponent).toNat = 0 := by omega
          rw [hneg, Nat.pow_zero]
        · rename_i hneg
          have hpos : d.exponent.toNat = 0 := by omega
          rw [hpos, Nat.pow_zero, Nat.mul_one]

end SurveyQuests.Binary64
