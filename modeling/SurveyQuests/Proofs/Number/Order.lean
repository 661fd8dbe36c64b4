import Mathlib.Data.Nat.Log
import Mathlib.Order.Monotone.Basic
import Mathlib.Tactic.Positivity
import SurveyQuests.Proofs.Number.Rounding

/-!
# Arithmetic keeps the order of numbers

Greater counts of units have greater ranks, and greater quotients are rounded to ranks that are not
smaller.  So multiplying by a positive number, rounding, and taking the whole part keep the order of
the numbers that are not negative, and so does taking what is behind the point, of numbers with the
same whole part.

Such a number is known by its rank, in which the two zeros agree and which is `finiteCount` for
infinity (`IsAt`).  For each operation there is one lemma that tells the rank, or the integer, that
it gives.

## What is here

* `units_strictMono`, `nearestRank_mono` — ranks, units and rounding in the same order;
* `IsAt`, with one lemma for each operation;
* `round_mono`, `trunc_mono`, `mul_mono`, `fract_mono` — **the operations keep the order**;
* `fract_le_belowOne` — what is behind a point is at most the number before one.
-/

set_option autoImplicit false

namespace SurveyQuests.Binary64

/-! ## Quotients -/

theorem le_roundHalfEven (num den : Nat) : num / den ≤ roundHalfEven num den := by
  unfold roundHalfEven
  dsimp only
  split
  · exact le_rfl
  · split <;> omega

theorem roundHalfEven_le (num den : Nat) : roundHalfEven num den ≤ num / den + 1 := by
  unfold roundHalfEven
  dsimp only
  split
  · omega
  · split <;> omega

theorem roundHalfEven_mono {num num' den : Nat} (h : num ≤ num') :
    roundHalfEven num den ≤ roundHalfEven num' den := by
  rcases (Nat.div_le_div_right (c := den) h).eq_or_lt with heq | hlt
  · have hnum := Nat.div_add_mod num den
    have hnum' := Nat.div_add_mod num' den
    rw [← heq] at hnum'
    have hmod : num % den ≤ num' % den := by omega
    unfold roundHalfEven
    rw [← heq]
    dsimp only
    split_ifs <;> omega
  · calc roundHalfEven num den ≤ num / den + 1 := roundHalfEven_le num den
      _ ≤ num' / den := hlt
      _ ≤ roundHalfEven num' den := le_roundHalfEven num' den

/-! ## Ranks -/

/-- The rounded quotient of a rank has at most 53 binary digits, or is the next power of two. -/
theorem roundHalfEven_shifted_le (num den : Nat) :
    roundHalfEven num (den * 2 ^ (Nat.log2 (num / den) - 52)) ≤ 2 ^ 53 := by
  have hlt : num / den < 2 ^ 53 * 2 ^ (Nat.log2 (num / den) - 52) := calc
    num / den < 2 ^ (Nat.log2 (num / den) + 1) := Nat.lt_log2_self
    _ ≤ 2 ^ (53 + (Nat.log2 (num / den) - 52)) := Nat.pow_le_pow_right (by omega) (by omega)
    _ = 2 ^ 53 * 2 ^ (Nat.log2 (num / den) - 52) := Nat.pow_add ..
  have hdiv : num / (den * 2 ^ (Nat.log2 (num / den) - 52)) < 2 ^ 53 := by
    rw [← Nat.div_div_eq_div_mul]
    exact Nat.div_lt_of_lt_mul (by rwa [Nat.mul_comm])
  exact (roundHalfEven_le _ _).trans hdiv

/-- Where something is shifted out, it has at least 53 binary digits. -/
theorem le_roundHalfEven_shifted {num den : Nat} (h : 0 < Nat.log2 (num / den) - 52) :
    2 ^ 52 ≤ roundHalfEven num (den * 2 ^ (Nat.log2 (num / den) - 52)) := by
  have hne : num / den ≠ 0 := by
    intro hzero
    rw [hzero] at h
    exact absurd h (by decide)
  have hle : 2 ^ 52 * 2 ^ (Nat.log2 (num / den) - 52) ≤ num / den := calc
    2 ^ 52 * 2 ^ (Nat.log2 (num / den) - 52) = 2 ^ Nat.log2 (num / den) := by
      rw [← Nat.pow_add]
      congr 1
      omega
    _ ≤ num / den := Nat.log2_self_le hne
  have hdiv : 2 ^ 52 ≤ num / (den * 2 ^ (Nat.log2 (num / den) - 52)) := by
    rw [← Nat.div_div_eq_div_mul]
    exact (Nat.le_div_iff_mul_le (Nat.two_pow_pos _)).2 hle
  exact hdiv.trans (le_roundHalfEven _ _)

/-- **Greater quotients are not nearest to smaller ranks.** -/
theorem nearestRank_mono {num num' den : Nat} (h : num ≤ num') :
    nearestRank num den ≤ nearestRank num' den := by
  rw [nearestRank_eq, nearestRank_eq]
  have hlog : Nat.log2 (num / den) ≤ Nat.log2 (num' / den) := by
    rw [Nat.log2_eq_log_two, Nat.log2_eq_log_two]
    exact Nat.log_mono_right (Nat.div_le_div_right h)
  rcases (Nat.sub_le_sub_right hlog 52).eq_or_lt with heq | hlt
  · rw [heq]
    exact Nat.add_le_add_left (roundHalfEven_mono h) _
  · have hupper := roundHalfEven_shifted_le num den
    have hlower := le_roundHalfEven_shifted (Nat.zero_lt_of_lt hlt)
    generalize Nat.log2 (num / den) - 52 = s at hlt hupper ⊢
    generalize Nat.log2 (num' / den) - 52 = s' at hlt hlower ⊢
    have hshift : (s + 1) * 2 ^ 52 ≤ s' * 2 ^ 52 := Nat.mul_le_mul_right _ hlt
    omega

theorem shift_mono : Monotone shift := by
  intro rank rank' h
  rw [shift_eq, shift_eq]
  omega

/-- The next rank is as many units greater as neighbours are apart. -/
theorem units_succ (rank : Nat) : units (rank + 1) = units rank + 2 ^ shift rank := by
  have hshift : shift rank = rank / 2 ^ 52 - 1 := shift_eq rank
  rw [units_eq, units_eq, significand_eq, significand_eq]
  by_cases h : shift (rank + 1) = shift rank
  · have hsucc : rank + 1 - shift rank * 2 ^ 52 = rank - shift rank * 2 ^ 52 + 1 := by omega
    rw [h, hsucc, Nat.add_mul, Nat.one_mul]
  · -- The rank is the last one before neighbours are twice as far apart.
    have hnext : shift (rank + 1) = shift rank + 1 := by
      rw [shift_eq] at h ⊢
      omega
    have hrank : rank + 1 = (shift rank + 2) * 2 ^ 52 := by
      rw [shift_eq] at h hnext
      omega
    have hlow : rank - shift rank * 2 ^ 52 = 2 ^ 53 - 1 := by omega
    have hhigh : rank + 1 - (shift rank + 1) * 2 ^ 52 = 2 ^ 52 := by omega
    rw [hnext, hlow, hhigh, Nat.pow_succ]
    omega

/-- **Greater ranks are more units.** -/
theorem units_strictMono : StrictMono units := by
  refine strictMono_nat_of_lt_succ fun rank ↦ ?_
  rw [units_succ]
  exact Nat.lt_add_of_pos_right (Nat.two_pow_pos _)

theorem roundHalfUp_mono {num num' den : Nat} (h : num ≤ num') :
    roundHalfUp num den ≤ roundHalfUp num' den :=
  Nat.div_le_div_right (by omega)

theorem roundHalfUp_zero {den : Nat} (h : 0 < den) : roundHalfUp 0 den = 0 :=
  Nat.div_eq_of_lt (by omega)

theorem unitsPerOne_pos : 0 < unitsPerOne := by
  rw [unitsPerOne_eq]
  positivity

theorem units_zero : units 0 = 0 := by decide

/-! ## Numbers that are not negative -/

/-- The number is not negative and has this rank, which is `finiteCount` for infinity. -/
def IsAt (x : Binary64) (rank : Nat) : Prop := x.place? = some (rank : Int)

instance (x : Binary64) (rank : Nat) : Decidable (IsAt x rank) := decEq _ _

variable {x y c : Binary64} {rank rank' : Nat}

theorem isAt_zero : IsAt zero 0 := by decide

/-- What is not less than such a number is one too. -/
theorem exists_isAt_of_le (hx : IsAt x rank) (h : x.le y = true) :
    ∃ rank', IsAt y rank' ∧ rank ≤ rank' := by
  rw [le, compareBy, hx] at h
  cases hplace : y.place? with
  | none => simp [hplace] at h
  | some p =>
    rw [hplace] at h
    have hle : (rank : Int) ≤ p := of_decide_eq_true h
    refine ⟨p.toNat, ?_, by omega⟩
    rw [IsAt, hplace, Int.toNat_of_nonneg (by omega)]

theorem exists_isAt (h : zero.le x = true) : ∃ rank, IsAt x rank := by
  obtain ⟨rank, hx, -⟩ := exists_isAt_of_le isAt_zero h
  exact ⟨rank, hx⟩

namespace IsAt

theorem le_iff (hx : IsAt x rank) (hy : IsAt y rank') : x.le y = true ↔ rank ≤ rank' := by
  rw [le, compareBy, hx, hy, decide_eq_true_iff, Int.ofNat_le]

theorem zero_le (hx : IsAt x rank) : zero.le x = true := (isAt_zero.le_iff hx).2 (Nat.zero_le rank)

/-- Such a number is infinity without a sign, or finite, and then only zero can have a sign. -/
theorem cases (hx : IsAt x rank) :
    (x = ⟨false, .infinite⟩ ∧ rank = finiteCount) ∨
      ∃ h : rank < finiteCount,
        x.magnitude = .finite ⟨rank, h⟩ ∧ (x.negative = true → rank = 0) := by
  obtain ⟨negative, magnitude⟩ := x
  have hcount : 0 < finiteCount := by decide
  cases magnitude with
  | nan => cases hx
  | infinite =>
    left
    have hplace : signedUnits negative finiteCount = (rank : Int) := Option.some.inj hx
    cases negative with
    | true =>
      simp only [signedUnits, if_true] at hplace
      omega
    | false =>
      simp only [signedUnits, Bool.false_eq_true, if_false] at hplace
      exact ⟨rfl, by omega⟩
  | finite r =>
    right
    obtain ⟨r, hr⟩ := r
    have hplace : signedUnits negative r = (rank : Int) := Option.some.inj hx
    cases negative with
    | true =>
      simp only [signedUnits, if_true] at hplace
      obtain rfl : r = rank := by omega
      exact ⟨hr, rfl, fun _ ↦ by omega⟩
    | false =>
      simp only [signedUnits, Bool.false_eq_true, if_false] at hplace
      obtain rfl : r = rank := by omega
      exact ⟨hr, rfl, fun h ↦ absurd h Bool.false_ne_true⟩

theorem le_finiteCount (hx : IsAt x rank) : rank ≤ finiteCount := by
  rcases hx.cases with ⟨-, rfl⟩ | ⟨h, -⟩
  · exact le_rfl
  · exact h.le

/-- A finite number has units, and a zero is the only one whose sign may be set. -/
theorem units?_eq (hx : IsAt x rank) (h : rank < finiteCount) : x.units? = some (units rank) := by
  rcases hx.cases with ⟨-, rfl⟩ | ⟨hrank, hmagnitude, -⟩
  · exact absurd h (lt_irrefl _)
  · rw [Binary64.units?, hmagnitude]

theorem units?_eq_none (hx : IsAt x finiteCount) : x.units? = none := by
  rcases hx.cases with ⟨rfl, -⟩ | ⟨h, -⟩
  · rfl
  · exact absurd h (lt_irrefl _)

/-- The sign does not matter. -/
theorem signedUnits_eq (hx : IsAt x rank) {n : Nat} (h : rank = 0 → n = 0) :
    signedUnits x.negative n = n := by
  cases hsign : x.negative with
  | false => rfl
  | true =>
    have hzero : rank = 0 := by
      rcases hx.cases with ⟨rfl, -⟩ | ⟨-, -, hrank⟩
      · cases hsign
      · exact hrank hsign
    rw [h hzero]
    rfl

/-- Numbers with a rank. -/
theorem ofRank (negative : Bool) (rank : Nat) (h : negative = true → rank = 0) :
    IsAt ⟨negative, .ofRank rank⟩ (min rank finiteCount) := by
  rw [IsAt, Magnitude.ofRank]
  split
  · rename_i hlt
    rw [Nat.min_eq_left hlt.le]
    cases negative with
    | false => rfl
    | true =>
      obtain rfl := h rfl
      rfl
  · rename_i hlt
    rw [Nat.min_eq_right (Nat.le_of_not_lt hlt)]
    cases negative with
    | false => rfl
    | true =>
      obtain rfl := h rfl
      exact absurd (by decide) hlt

end IsAt

theorem zero_le_of_le (hx : zero.le x = true) (h : x.le y = true) : zero.le y = true := by
  obtain ⟨rank, hx⟩ := exists_isAt hx
  obtain ⟨rank', hy, -⟩ := exists_isAt_of_le hx h
  exact hy.zero_le

/-! ## Whole numbers -/

theorem IsAt.map_units? {f : Nat → Nat} (hzero : f 0 = 0) (hx : IsAt x rank)
    (h : rank < finiteCount) :
    (x.units?.map fun u ↦ signedUnits x.negative (f u)) = some ((f (units rank) : Nat) : Int) := by
  rw [hx.units?_eq h, Option.map_some, hx.signedUnits_eq]
  rintro rfl
  exact hzero

/-- Integers that are made of the units keep the order. -/
theorem map_units?_mono {f : Nat → Nat} (hf : Monotone f) (hzero : f 0 = 0)
    (hx : zero.le x = true) (h : x.le y = true) {j : Int}
    (hj : (y.units?.map fun u ↦ signedUnits y.negative (f u)) = some j) :
    ∃ i, (x.units?.map fun u ↦ signedUnits x.negative (f u)) = some i ∧ 0 ≤ i ∧ i ≤ j := by
  obtain ⟨rank, hx⟩ := exists_isAt hx
  obtain ⟨rank', hy, hle⟩ := exists_isAt_of_le hx h
  have hfinite : rank' < finiteCount := by
    refine hy.le_finiteCount.lt_of_ne ?_
    rintro rfl
    rw [hy.units?_eq_none] at hj
    cases hj
  rw [hy.map_units? hzero hfinite] at hj
  obtain rfl := Option.some.inj hj
  refine ⟨_, hx.map_units? hzero (hle.trans_lt hfinite), Int.natCast_nonneg _, ?_⟩
  exact Int.ofNat_le.2 (hf (units_strictMono.monotone hle))

/-- **Rounding keeps the order.** -/
theorem round_mono (hx : zero.le x = true) (h : x.le y = true) {j : Int} (hj : y.round = some j) :
    ∃ i, x.round = some i ∧ 0 ≤ i ∧ i ≤ j :=
  map_units?_mono (fun _ _ ↦ roundHalfUp_mono) (roundHalfUp_zero unitsPerOne_pos) hx h hj

/-- **Whole parts keep the order.** -/
theorem trunc_mono (hx : zero.le x = true) (h : x.le y = true) {j : Int} (hj : y.trunc = some j) :
    ∃ i, x.trunc = some i ∧ 0 ≤ i ∧ i ≤ j :=
  map_units?_mono (fun _ _ ↦ Nat.div_le_div_right) (Nat.zero_div _) hx h hj

/-! ## Products -/

theorem nearestRank_zero {den : Nat} (h : 0 < den) : nearestRank 0 den = 0 :=
  nearestRank_of_small (by omega)

/-- A finite number greater than zero has no sign. -/
theorem exists_eq_finite (hc : zero.lt c = true) (hfinite : c.isFinite = true) :
    ∃ k : Fin finiteCount, k.val ≠ 0 ∧ c = ⟨false, .finite k⟩ := by
  obtain ⟨negative, magnitude⟩ := c
  cases magnitude with
  | nan => cases hfinite
  | infinite => cases hfinite
  | finite k =>
    have hplace : 0 < signedUnits negative k := of_decide_eq_true hc
    cases negative with
    | false => exact ⟨k, by simpa [signedUnits, Nat.pos_iff_ne_zero] using hplace, rfl⟩
    | true =>
      simp only [signedUnits, if_true] at hplace
      omega

/-- A finite number times a positive one. -/
theorem IsAt.mul (hx : IsAt x rank) (h : rank < finiteCount) {k : Fin finiteCount} :
    IsAt (x.mul ⟨false, .finite k⟩)
      (min (nearestRank (units rank * units k) unitsPerOne) finiteCount) := by
  rcases hx.cases with ⟨-, rfl⟩ | ⟨hrank, hmagnitude, hsign⟩
  · exact absurd h (lt_irrefl _)
  · rw [Binary64.mul, hmagnitude]
    refine IsAt.ofRank _ _ fun hnegative ↦ ?_
    rw [Bool.bne_false] at hnegative
    dsimp only
    rw [hsign hnegative, units_zero, Nat.zero_mul, nearestRank_zero unitsPerOne_pos]

/-- Infinity times a positive number. -/
theorem IsAt.mul_infinite (hx : IsAt x finiteCount) {k : Fin finiteCount} (hk : k.val ≠ 0) :
    IsAt (x.mul ⟨false, .finite k⟩) finiteCount := by
  rcases hx.cases with ⟨rfl, -⟩ | ⟨h, -⟩
  · simp only [Binary64.mul, if_neg hk]
    decide
  · exact absurd h (lt_irrefl _)

/-- **Multiplying by a positive number keeps the order.** -/
theorem mul_mono (hc : zero.lt c = true) (hfinite : c.isFinite = true) (hx : zero.le x = true)
    (h : x.le y = true) : zero.le (x.mul c) = true ∧ (x.mul c).le (y.mul c) = true := by
  obtain ⟨k, hk, rfl⟩ := exists_eq_finite hc hfinite
  obtain ⟨rank, hx⟩ := exists_isAt hx
  obtain ⟨rank', hy, hle⟩ := exists_isAt_of_le hx h
  rcases hy.le_finiteCount.eq_or_lt with rfl | hrank'
  · have hy' := hy.mul_infinite hk
    rcases hle.eq_or_lt with rfl | hrank
    · have hx' := hx.mul_infinite hk
      exact ⟨hx'.zero_le, (hx'.le_iff hy').2 le_rfl⟩
    · have hx' := hx.mul hrank (k := k)
      exact ⟨hx'.zero_le, (hx'.le_iff hy').2 (Nat.min_le_right _ _)⟩
  · have hx' := hx.mul (hle.trans_lt hrank') (k := k)
    refine ⟨hx'.zero_le, (hx'.le_iff (hy.mul hrank')).2 (min_le_min_right _ (nearestRank_mono ?_))⟩
    exact Nat.mul_le_mul_right _ (units_strictMono.monotone hle)

/-! ## What is behind the point -/

/-- The rank of the greatest number below one. -/
def rankBelowOne : Nat := 0x3fefffffffffffff

/-- The greatest number below one. -/
def belowOne : Binary64 := ⟨false, .ofRank rankBelowOne⟩

theorem units_succ_rankBelowOne : units (rankBelowOne + 1) = unitsPerOne := by
  have hshift : shift (rankBelowOne + 1) = 1022 := by decide
  have hsignificand : significand (rankBelowOne + 1) = 2 ^ 52 := by decide
  have hexponent : unitExponent = 52 + 1022 := unitExponent_eq
  rw [units_eq, hshift, hsignificand, unitsPerOne_eq, hexponent, Nat.pow_add]

/-- A rest is a full step short of what is divided by. -/
theorem mod_add_le {a b k : Nat} (hb : 0 < b) (hkb : k ∣ b) (hka : k ∣ a) : a % b + k ≤ b := by
  obtain ⟨n, hn⟩ := (Nat.dvd_mod_iff hkb).2 hka
  obtain ⟨m, rfl⟩ := hkb
  have hlt : a % (k * m) < k * m := Nat.mod_lt a hb
  rw [hn] at hlt ⊢
  rw [← Nat.mul_succ]
  exact Nat.mul_le_mul_left k (Nat.lt_of_mul_lt_mul_left hlt)

/-- What is left of the units of a rank without whole ones is below one, and not nearest to one. -/
theorem units_mod_le (rank : Nat) : units rank % unitsPerOne ≤ units rankBelowOne := by
  rcases Nat.lt_or_ge rankBelowOne rank with hrank | hrank
  · -- From one on neighbours are as far apart as at one, which is farther than right below it.
    have hshift : shift (rankBelowOne + 1) ≤ shift rank := shift_mono hrank
    have hrest : units rank % unitsPerOne + 2 ^ shift (rankBelowOne + 1) ≤ unitsPerOne := by
      refine mod_add_le unitsPerOne_pos ?_ ?_
      · rw [← units_succ_rankBelowOne, units_eq]
        exact Nat.dvd_mul_left _ _
      · rw [units_eq]
        exact Dvd.dvd.mul_left (Nat.pow_dvd_pow 2 hshift) _
    have hstep : 2 ^ shift rankBelowOne ≤ 2 ^ shift (rankBelowOne + 1) :=
      Nat.pow_le_pow_right (by omega) (shift_mono (Nat.le_succ _))
    rw [← units_succ_rankBelowOne, units_succ] at hrest ⊢
    exact Nat.le_of_add_le_add_right ((Nat.add_le_add_left hstep _).trans hrest)
  · exact (Nat.mod_le _ _).trans (units_strictMono.monotone hrank)

theorem nearestRank_mod_le (rank : Nat) :
    nearestRank (units rank % unitsPerOne) 1 ≤ rankBelowOne := by
  rw [← nearestRank_units rankBelowOne]
  exact nearestRank_mono (units_mod_le rank)

theorem IsAt.fract (hx : IsAt x rank) (h : rank < finiteCount) :
    IsAt x.fract (nearestRank (units rank % unitsPerOne) 1) := by
  have hle := nearestRank_mod_le rank
  have hbelow : rankBelowOne < finiteCount := by decide
  have hsigned : signedUnits x.negative (units rank % unitsPerOne) =
      ((units rank % unitsPerOne : Nat) : Int) := by
    refine hx.signedUnits_eq ?_
    rintro rfl
    rw [units_zero, Nat.zero_mod]
  have hrank : IsAt ⟨false, .ofRank (nearestRank (units rank % unitsPerOne) 1)⟩
      (nearestRank (units rank % unitsPerOne) 1) := by
    have hat := IsAt.ofRank false (nearestRank (units rank % unitsPerOne) 1)
      (fun h ↦ absurd h Bool.false_ne_true)
    rwa [Nat.min_eq_left (hle.trans hbelow.le)] at hat
  rw [Binary64.fract, hx.units?_eq h]
  dsimp only
  rw [hsigned, ofSignedUnits]
  split
  · rename_i hzero
    rw [Int.natCast_eq_zero.1 hzero, nearestRank_zero Nat.one_pos] at hrank ⊢
    exact hrank
  · rwa [ofUnits, Int.natAbs_natCast, decide_eq_false (by omega)]

theorem IsAt.trunc_eq (hx : IsAt x rank) {n : Int} (h : x.trunc = some n) :
    rank < finiteCount ∧ ((units rank / unitsPerOne : Nat) : Int) = n := by
  have hfinite : rank < finiteCount := by
    refine hx.le_finiteCount.lt_of_ne ?_
    rintro rfl
    rw [trunc, hx.units?_eq_none] at h
    cases h
  have htrunc : x.trunc = some ((units rank / unitsPerOne : Nat) : Int) :=
    hx.map_units? (f := fun u ↦ u / unitsPerOne) (Nat.zero_div _) hfinite
  exact ⟨hfinite, Option.some.inj (htrunc.symm.trans h)⟩

/-- **What is behind the point keeps the order** of numbers with the same whole part. -/
theorem fract_mono (hx : zero.le x = true) (h : x.le y = true) {n : Int} (hxn : x.trunc = some n)
    (hyn : y.trunc = some n) : x.fract.le y.fract = true := by
  obtain ⟨rank, hx⟩ := exists_isAt hx
  obtain ⟨rank', hy, hle⟩ := exists_isAt_of_le hx h
  obtain ⟨hfinite, hn⟩ := hx.trunc_eq hxn
  obtain ⟨hfinite', hn'⟩ := hy.trunc_eq hyn
  refine ((hx.fract hfinite).le_iff (hy.fract hfinite')).2 (nearestRank_mono ?_)
  have hunits := units_strictMono.monotone hle
  have hdiv := Nat.div_add_mod (units rank) unitsPerOne
  have hdiv' := Nat.div_add_mod (units rank') unitsPerOne
  have hwhole : units rank / unitsPerOne = units rank' / unitsPerOne :=
    Int.ofNat_inj.1 (hn.trans hn'.symm)
  rw [hwhole] at hdiv
  omega

/-- What is behind the point of a number is less than one. -/
theorem fract_le_belowOne (hx : zero.le x = true) {n : Int} (h : x.trunc = some n) :
    zero.le x.fract = true ∧ x.fract.le belowOne = true := by
  obtain ⟨rank, hx⟩ := exists_isAt hx
  have hfract := hx.fract (hx.trunc_eq h).1
  have hbelow : IsAt belowOne rankBelowOne := by decide
  exact ⟨hfract.zero_le, (hfract.le_iff hbelow).2 (nearestRank_mod_le rank)⟩

end SurveyQuests.Binary64
