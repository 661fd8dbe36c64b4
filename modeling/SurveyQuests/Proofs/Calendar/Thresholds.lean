import SurveyQuests.Proofs.Calendar.LargerCounts
import SurveyQuests.Proofs.Calendar.Words

/-!
# Thresholds are exact

Where a count leads back to can be said without the steps that lead there.  A number of days is
rounded to the nearest integer and subtracted from the number of the day; a number of weeks is first
multiplied by seven, which is rounded too.  A whole number of months changes the month alone, but
for the days that the new month does not have, and a year is twelve months.  What lies before the
range of dates is its first day.

No other bound shows.  `Date.daysBefore?` gives up on more than `Date.maxDays` days, but so many do
not fit between the ends of the range; and no word is too short for what is counted
(`Date.goBackInWords_eq`).

## What is here

* `Binary64.IsNearest`, `Binary64.IsAt.exists_round` — rounding to the nearest integer;
* `Date.dayNumber_daysBefore?` — days are counted exactly;
* `Date.IsMonthsBefore`, `Date.isMonthsBefore_monthsBefore?` — months are steps of the calendar;
* `Date.goBack_exact` — **thresholds are exact**.
-/

set_option autoImplicit false

namespace SurveyQuests

open Calendar

namespace Binary64

variable {x : Binary64} {rank k : Nat} {n : Int}

/-- Is the integer nearest to the number, which is not negative, and the larger one from halfway
between two? -/
def IsNearest (x : Binary64) (n : Int) : Prop :=
  ∃ u : Nat, x.units? = some u ∧
    (2 * n - 1) * unitsPerOne ≤ 2 * (u : Int) ∧ 2 * (u : Int) < (2 * n + 1) * unitsPerOne

theorem roundHalfUp_bounds {den : Nat} (hden : 0 < den) (num : Nat) :
    (2 * (roundHalfUp num den : Int) - 1) * den ≤ 2 * (num : Int) ∧
      2 * (num : Int) < (2 * (roundHalfUp num den : Int) + 1) * den := by
  have hdiv := Nat.div_add_mod (2 * num + den) (2 * den)
  have hmod := Nat.mod_lt (2 * num + den) (Nat.mul_pos Nat.two_pos hden)
  rw [← roundHalfUp] at hdiv
  have hsum : 2 * (den : Int) * roundHalfUp num den + ((2 * num + den) % (2 * den) : Nat) =
      2 * num + den := by
    exact_mod_cast hdiv
  constructor <;> linarith

theorem IsAt.lt_of_isFinite (hx : IsAt x rank) (hfinite : x.isFinite = true) :
    rank < finiteCount := by
  rcases hx.cases with ⟨rfl, -⟩ | ⟨h, -⟩
  · cases hfinite
  · exact h

/-- A finite number is rounded to the nearest integer. -/
theorem IsAt.exists_round (hx : IsAt x rank) (h : rank < finiteCount) :
    ∃ n, x.round = some n ∧ 0 ≤ n ∧ x.IsNearest n :=
  ⟨_, hx.map_units? (roundHalfUp_zero unitsPerOne_pos) h, Int.natCast_nonneg _, _, hx.units?_eq h,
    roundHalfUp_bounds unitsPerOne_pos (units rank)⟩

/-- A whole number has its own value as whole part, and nothing behind the point. -/
theorem IsAt.trunc_and_fract (hx : IsAt x rank) (h : x.units? = some (k * unitsPerOne)) :
    x.trunc = some (k : Int) ∧ x.fract = zero := by
  have hrank : rank < finiteCount := by
    refine hx.le_finiteCount.lt_of_ne ?_
    rintro rfl
    rw [hx.units?_eq_none] at h
    cases h
  have hunits : units rank = k * unitsPerOne := by
    rw [hx.units?_eq hrank] at h
    exact Option.some.inj h
  constructor
  · rw [trunc, h, Option.map_some, Nat.mul_div_cancel _ unitsPerOne_pos, hx.signedUnits_eq]
    rintro rfl
    rw [units_zero] at hunits
    exact (Nat.mul_eq_zero.1 hunits.symm).resolve_right unitsPerOne_pos.ne'
  · rw [Binary64.fract, h]
    dsimp only
    rw [Nat.mul_mod_left]
    cases x.negative with
    | false => rfl
    | true => rfl

end Binary64

namespace Date

open Binary64

variable {d : Date} {count : Binary64} {k : Nat} {n : Int}

/-! ## Days -/

/-- **Days are counted exactly**, up to the first day of all. -/
theorem dayNumber_daysBefore? (hround : count.round = some n) (hn : 0 ≤ n) (d : Date) :
    ((d.daysBefore? count).getD earliest).dayNumber =
      max earliest.dayNumber (d.dayNumber - n) := by
  rcases lt_or_ge (d.dayNumber - n) earliest.dayNumber with hlt | hge
  · have hnone : d.daysBefore? count = none := by
      rw [Option.eq_none_iff_forall_ne_some]
      intro e he
      obtain ⟨i, hi, -, hnumber⟩ := daysBefore?_eq_some_iff.1 he
      obtain rfl := Option.some.inj (hround.symm.trans hi)
      have hearliest := le_iff.1 e.earliest_le
      omega
    rw [hnone, Option.getD_none, max_eq_left hlt.le]
  · -- The range of dates has fewer days than are moved back at once.
    have hrange : latest.dayNumber - earliest.dayNumber ≤ maxDays := by decide
    have hlatest := le_iff.1 d.le_latest
    obtain ⟨e, he, hnumber⟩ :=
      exists_daysBefore? (a := d) hround ⟨hn, by omega⟩ le_rfl hge
    rw [he, Option.getD_some, hnumber, max_eq_right hge]

theorem daysBefore?_of_round_zero (h : count.round = some 0) : d.daysBefore? count = some d :=
  daysBefore?_eq_some_iff.2 ⟨0, h, by decide, by omega⟩

/-! ## Months -/

/-- Is the second day so many months of the calendar before the first, on the same day of the month
or, where the month is shorter, the last one?  For a month before the range it is the first day of
all. -/
def IsMonthsBefore (d : Date) (months : Int) (r : Date) : Prop :=
  if 12 * minYear ≤ d.monthIndex - months then
    r.monthIndex = d.monthIndex - months ∧ r.day = min d.day (daysInMonth r.year r.month)
  else r = earliest

/-- **Months are steps of the calendar**, up to the first day of all. -/
theorem isMonthsBefore_monthsBefore? (hn : 0 ≤ n) (d : Date) :
    d.IsMonthsBefore n ((d.monthsBefore? n).getD earliest) := by
  rw [IsMonthsBefore]
  split
  · rename_i hin
    obtain ⟨e, he⟩ := exists_monthsBefore? hn hin
    obtain ⟨hindex, hday⟩ := monthsBefore?_eq_some_iff.1 he
    rw [monthLength, monthIndex_div, monthIndex_mod] at hday
    rw [he, Option.getD_some]
    exact ⟨hindex, hday⟩
  · rename_i hout
    have hnone : d.monthsBefore? n = none := by
      rw [Option.eq_none_iff_forall_ne_some]
      intro e he
      have hbounds := e.monthIndex_bounds
      have hindex := (monthsBefore?_eq_some_iff.1 he).1
      omega
    rw [hnone, Option.getD_none]

/-- Whole years are twelve months each, and no days. -/
theorem goBack?_years (htrunc : count.trunc = some n) (hfract : count.fract = zero) :
    d.goBack? count .years = d.monthsBefore? (n * 12) := by
  have hround : (zero.mul daysPerYear).round = some 0 := by decide +kernel
  rw [goBack?, htrunc, hfract]
  simp only [Option.bind_eq_bind, Option.bind_some, daysBefore?_of_round_zero hround,
    Option.bind_fun_some]

theorem goBack?_months (htrunc : count.trunc = some n) (hfract : count.fract = zero) :
    d.goBack? count .months = d.monthsBefore? n := by
  have hround : (zero.mul daysPerMonth).round = some 0 := by decide +kernel
  rw [goBack?, htrunc, hfract]
  simp only [Option.bind_eq_bind, Option.bind_some, daysBefore?_of_round_zero hround,
    Option.bind_fun_some]

/-! ## All units -/

/-- **Thresholds are exact**, for every finite count that is not negative.  They lie between the
first day of all and the day that is counted from.  Days, and seven times the weeks as far as the
product is finite, are rounded and counted without a bound, up to the first day of all, and whole
years and months are steps of the calendar.  For all counts whatever, infinite and negative ones
among them, the way back can be gone in words without an overflow. -/
theorem goBack_exact (day : Date) :
    (∀ count, zero.le count = true → count.isFinite = true →
      (∀ unit, earliest ≤ day.goBack count unit ∧ day.goBack count unit ≤ day) ∧
      (∃ n, count.IsNearest n ∧
        (day.goBack count .days).dayNumber = max earliest.dayNumber (day.dayNumber - n)) ∧
      ((∃ n, (count.mul daysPerWeek).IsNearest n ∧
          (day.goBack count .weeks).dayNumber = max earliest.dayNumber (day.dayNumber - n)) ∨
        count.mul daysPerWeek = ⟨false, .infinite⟩ ∧ day.goBack count .weeks = earliest) ∧
      ∀ whole : Nat, count.units? = some (whole * unitsPerOne) →
        day.IsMonthsBefore (12 * whole) (day.goBack count .years) ∧
          day.IsMonthsBefore whole (day.goBack count .months)) ∧
    ∀ count unit, day.goBackInWords count unit = .ok (day.goBack count unit) := by
  refine ⟨fun count hcount hfinite ↦ ?_, day.goBackInWords_eq⟩
  obtain ⟨rank, hat⟩ := exists_isAt hcount
  refine ⟨fun unit ↦ ⟨earliest_le _, goBack_le hcount unit day⟩, ?_, ?_, fun whole hwhole ↦ ?_⟩
  · obtain ⟨n, hround, hn, hnearest⟩ := hat.exists_round (hat.lt_of_isFinite hfinite)
    exact ⟨n, hnearest, dayNumber_daysBefore? hround hn day⟩
  · obtain ⟨hpos, hfinite'⟩ := daysPer_pos daysPerWeek (by simp)
    have hcount' := (mul_mono hpos hfinite' hcount ((hat.le_iff hat).2 le_rfl)).1
    obtain ⟨rank', hat'⟩ := exists_isAt hcount'
    rcases hat'.le_finiteCount.eq_or_lt with rfl | hlt
    · rcases hat'.cases with ⟨hinfinite, -⟩ | ⟨hlt, -⟩
      · refine .inr ⟨hinfinite, ?_⟩
        rw [goBack, goBack?, hinfinite]
        rfl
      · exact absurd hlt (lt_irrefl _)
    · obtain ⟨n, hround, hn, hnearest⟩ := hat'.exists_round hlt
      exact .inl ⟨n, hnearest, dayNumber_daysBefore? hround hn day⟩
  · obtain ⟨htrunc, hfract⟩ := hat.trunc_and_fract hwhole
    rw [goBack, goBack, goBack?_years htrunc hfract, goBack?_months htrunc hfract,
      Int.mul_comm 12]
    exact ⟨isMonthsBefore_monthsBefore? (by omega) day,
      isMonthsBefore_monthsBefore? (by omega) day⟩

/-- Thirteen years and thirteen months before a leap day. -/
theorem goBack_exact_leapDay :
    let day : Date := ⟨2024, 2, 29, by decide⟩
    let count : Binary64 := .ofRatio false 13 1
    zero.le count = true ∧ count.isFinite = true ∧ count.units? = some (13 * unitsPerOne) ∧
      day.IsMonthsBefore (12 * 13) (day.goBack count .years) ∧
      day.IsMonthsBefore 13 (day.goBack count .months) ∧
      day.goBackInWords count .years = .ok ⟨2011, 2, 28, by decide⟩ := by
  intro day count
  have hcount : zero.le count = true := by decide +kernel
  have hfinite : count.isFinite = true := by decide +kernel
  have hwhole : count.units? = some (13 * unitsPerOne) := by decide +kernel
  have hyears : day.goBack count .years = ⟨2011, 2, 28, by decide⟩ := by decide +kernel
  obtain ⟨hexact, hwords⟩ := goBack_exact day
  obtain ⟨hyearsBefore, hmonthsBefore⟩ := (hexact count hcount hfinite).2.2.2 13 hwhole
  refine ⟨hcount, hfinite, hwhole, hyearsBefore, hmonthsBefore, ?_⟩
  rw [hwords count .years, hyears]

end Date

end SurveyQuests
