import Mathlib.Tactic.Ring
import SurveyQuests.Proofs.Number.Order

/-!
# Which numbers are too large

Rounding gives infinity from some bound on.  The bound lies halfway between the greatest finite
number and the next one that there would be, and it is itself rounded up, since the rank of infinity
is even.  So it is enough to know when a quotient is rounded to an even number or beyond: from half
below that number on (`le_roundHalfEven_iff`).

## What is here

* `overflowBound` — the bound;
* `finiteCount_le_nearestRank_iff` — quotients that are nearest to infinity;
* `Decimal.Overflows`, `isFinite_ofDecimal` — **decimals that are too large**.
-/

set_option autoImplicit false

namespace SurveyQuests

namespace Binary64

/-- What is rounded to infinity: 2 ^ 1024 - 2 ^ 970 and all that is greater. -/
def overflowBound : Nat := Nat.pow 2 1024 - Nat.pow 2 970

theorem overflowBound_mul_unitsPerOne :
    overflowBound * unitsPerOne = (2 ^ 54 - 1) * 2 ^ 2044 := by
  decide +kernel

/-! ## Quotients -/

/-- A quotient is rounded to an even number or beyond from half below that number on. -/
theorem le_roundHalfEven_iff {k num den : Nat} (hk : k % 2 = 1) (hden : 0 < den) :
    k + 1 ≤ roundHalfEven num den ↔ (2 * k + 1) * den ≤ 2 * num := by
  have hmod := Nat.mod_lt num hden
  have hnum := Nat.div_add_mod num den
  rcases lt_trichotomy k (num / den) with hlt | heq | hgt
  · have hle : (k + 1) * den ≤ den * (num / den) := by
      rw [Nat.mul_comm]
      exact Nat.mul_le_mul_left den hlt
    have hround := le_roundHalfEven num den
    rw [Nat.add_mul, Nat.one_mul] at hle ⊢
    rw [Nat.mul_assoc]
    omega
  · rw [← heq, Nat.mul_comm den] at hnum
    rw [Nat.add_mul, Nat.one_mul, Nat.mul_assoc, roundHalfEven, ← heq]
    split
    · omega
    · split <;> omega
  · have hle : den * (num / den + 1) ≤ k * den := by
      rw [Nat.mul_comm]
      exact Nat.mul_le_mul_right den hgt
    have hround := roundHalfEven_le num den
    rw [Nat.mul_add, Nat.mul_one] at hle
    rw [Nat.add_mul, Nat.one_mul, Nat.mul_assoc]
    omega

/-- A quotient is nearest to a power of two or beyond from half a step below the power on. -/
theorem le_nearestRank_iff {k num den : Nat} (hden : 0 < den) :
    (k + 3) * 2 ^ 52 ≤ nearestRank num den ↔ (2 ^ 54 - 1) * 2 ^ k * den ≤ num := by
  have hrank (rounded : Nat) : (k + 3) * 2 ^ 52 ≤ (k + 1) * 2 ^ 52 + rounded ↔
      2 ^ 53 - 1 + 1 ≤ rounded := by omega
  have hupper := roundHalfEven_shifted_le num den
  have hlower := @le_roundHalfEven_shifted num den
  rw [nearestRank_eq]
  -- The power has the least of all significands at the shift `k + 2`.
  rcases lt_trichotomy (Nat.log2 (num / den)) (53 + k) with hlt | heq | hgt
  · have hquotient : num / den < (2 ^ 54 - 1) * 2 ^ k := calc
      num / den < 2 ^ (Nat.log2 (num / den) + 1) := Nat.lt_log2_self
      _ ≤ 2 ^ (53 + k) := Nat.pow_le_pow_right (by omega) (by omega)
      _ = 2 ^ 53 * 2 ^ k := Nat.pow_add ..
      _ ≤ (2 ^ 54 - 1) * 2 ^ k := Nat.mul_le_mul_right _ (by decide)
    have hnum := (Nat.div_lt_iff_lt_mul hden).1 hquotient
    have hshift : (Nat.log2 (num / den) - 52) * 2 ^ 52 ≤ k * 2 ^ 52 :=
      Nat.mul_le_mul_right _ (by omega)
    exact iff_of_false (by omega) (Nat.not_le_of_lt hnum)
  · have hshift : Nat.log2 (num / den) - 52 = k + 1 := by omega
    have hround : 2 ^ 53 - 1 + 1 ≤ roundHalfEven num (den * 2 ^ (k + 1)) ↔
        (2 * (2 ^ 53 - 1) + 1) * (den * 2 ^ (k + 1)) ≤ 2 * num :=
      le_roundHalfEven_iff (by decide) (Nat.mul_pos hden (Nat.two_pow_pos (k + 1)))
    have hhalf : (2 * (2 ^ 53 - 1) + 1) * (den * 2 ^ (k + 1)) =
        2 * ((2 ^ 54 - 1) * 2 ^ k * den) := by
      rw [Nat.pow_succ]
      ring
    rw [hhalf, Nat.mul_le_mul_left_iff (by decide)] at hround
    rw [hshift, hrank, hround]
  · have hquotient : (2 ^ 54 - 1) * 2 ^ k ≤ num / den := calc
      (2 ^ 54 - 1) * 2 ^ k ≤ 2 ^ 54 * 2 ^ k := Nat.mul_le_mul_right _ (by decide)
      _ = 2 ^ (54 + k) := (Nat.pow_add ..).symm
      _ ≤ 2 ^ Nat.log2 (num / den) := Nat.pow_le_pow_right (by omega) (by omega)
      _ ≤ num / den := Nat.log2_self_le fun hzero ↦ by simp [hzero] at hgt
    have hshift : (k + 2) * 2 ^ 52 ≤ (Nat.log2 (num / den) - 52) * 2 ^ 52 :=
      Nat.mul_le_mul_right _ (by omega)
    have hround := hlower (by omega)
    refine iff_of_true ?_ ((Nat.le_div_iff_mul_le hden).1 hquotient)
    calc (k + 3) * 2 ^ 52 = (k + 2) * 2 ^ 52 + 2 ^ 52 := Nat.succ_mul ..
      _ ≤ _ := Nat.add_le_add hshift hround

/-- **A quotient is nearest to infinity from the bound on.** -/
theorem finiteCount_le_nearestRank_iff {num den : Nat} (hden : 0 < den) :
    finiteCount ≤ nearestRank (num * unitsPerOne) den ↔ overflowBound * den ≤ num := by
  have hcount : finiteCount = (2044 + 3) * 2 ^ 52 := by decide
  have hunits {bound : Nat} (h : overflowBound * unitsPerOne = bound) :
      bound * den ≤ num * unitsPerOne ↔ overflowBound * den ≤ num := by
    rw [← h, Nat.mul_right_comm, Nat.mul_le_mul_right_iff unitsPerOne_pos]
  rw [hcount]
  exact (le_nearestRank_iff hden).trans (hunits overflowBound_mul_unitsPerOne)

theorem isFinite_ofRank {negative : Bool} {rank : Nat} :
    isFinite ⟨negative, .ofRank rank⟩ = true ↔ rank < finiteCount := by
  by_cases h : rank < finiteCount
  · have hfinite : Magnitude.ofRank rank = .finite ⟨rank, h⟩ := dif_pos h
    rw [hfinite]
    exact iff_of_true rfl h
  · have hinfinite : Magnitude.ofRank rank = .infinite := dif_neg h
    rw [hinfinite]
    exact iff_of_false Bool.false_ne_true h

theorem isFinite_ofRatio {negative : Bool} {num den : Nat} (hden : 0 < den) :
    (ofRatio negative num den).isFinite = true ↔ num < overflowBound * den := by
  rw [ofRatio, ofUnits, isFinite_ofRank, ← Nat.not_le, finiteCount_le_nearestRank_iff hden,
    Nat.not_le]

end Binary64

/-! ## Decimals -/

namespace Decimal

/-- Is the decimal too large for a finite number, whatever its sign? -/
def Overflows (d : Decimal) : Prop :=
  Binary64.overflowBound * 10 ^ (-d.exponent).toNat ≤ d.digits * 10 ^ d.exponent.toNat

instance (d : Decimal) : Decidable d.Overflows := by
  unfold Overflows
  infer_instance

end Decimal

namespace Binary64

variable {d : Decimal}

/-- **A decimal has a finite binary number unless it is too large.** -/
theorem isFinite_ofDecimal : (ofDecimal d).isFinite = true ↔ ¬ d.Overflows := by
  rw [ofDecimal_eq, isFinite_ofRatio (Nat.pow_pos (by omega)), Decimal.Overflows, Nat.not_le]

/-- A decimal that is too large has an infinite binary number. -/
theorem ofDecimal_eq_infinite (h : d.Overflows) : ofDecimal d = ⟨d.negative, .infinite⟩ := by
  have hfinite := mt isFinite_ofDecimal.1 (not_not_intro h)
  rw [ofDecimal_eq, ofRatio, ofUnits, Magnitude.ofRank] at hfinite ⊢
  split at hfinite
  · exact absurd rfl hfinite
  · rename_i hrank
    rw [dif_neg hrank]

end Binary64

end SurveyQuests
