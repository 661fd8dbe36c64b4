import Mathlib.Tactic.IntervalCases
import SurveyQuests.Proofs.Calendar.GoingBack
import SurveyQuests.Proofs.Number.Order

/-!
# Going back further

A larger count of units leads back at least as far, in years, in weeks and in days.  Weeks and days
are counted exactly.  What stands behind the point of a number of years counts for 365 days at most,
and the step to the year before spans as many, also where the day of the month is cut to the length
of February.

Months are different.  What stands behind the point counts for up to 30 days, but the step from one
month to the next may span 28 or 29 days only.  Then a count right below a whole number leads back
further than the whole number, by one day or two (`Date.Overshoots`).  This is all that can happen:
two months together have more than 30 days.

## What is here

* `Date.succ_monthsBefore?_le`, `Date.add_twelve_monthsBefore?_le` — how far the steps of the
  calendar reach;
* `Date.Overshoots`, `Date.Overshoots.bounds` — the exception;
* `Date.goBack_le_goBack_iff` — **larger counts lead back further, but for the exception**.
-/

set_option autoImplicit false

namespace SurveyQuests

namespace Calendar

/-! ## Months and years of the calendar -/

theorem monthLength_bounds (index : Int) : 28 ≤ monthLength index ∧ monthLength index ≤ 31 := by
  refine ⟨?_, daysInMonth_le _ _⟩
  unfold monthLength daysInMonth
  split_ifs <;> omega

/-- From a day of a month to the same day of the next month, or the last one there. -/
theorem monthStart_succ_le (index : Int) (day : Nat) :
    monthStart index + (min day (monthLength index) : Nat) + 28 ≤
      monthStart (index + 1) + (min day (monthLength (index + 1)) : Nat) := by
  have hlength := monthLength_bounds index
  have hnext := monthLength_bounds (index + 1)
  rw [monthStart_succ]
  omega

/-- From a day of a month to the same day a year later, or the last one of that month. -/
theorem daysBeforeMonth_le_next (year : Int) (day month : Nat) (hone : 1 ≤ month)
    (htwelve : month ≤ 12) :
    (daysBeforeMonth year month : Int) + (min day (daysInMonth year month) : Nat) + 365 ≤
      daysInYear year + daysBeforeMonth (year + 1) month +
        (min day (daysInMonth (year + 1) month) : Nat) := by
  interval_cases month <;> simp [daysBeforeMonth, daysInMonth, daysInYear] <;> split_ifs <;> omega

theorem monthStart_add_twelve_le (index : Int) (day : Nat) :
    monthStart index + (min day (monthLength index) : Nat) + 365 ≤
      monthStart (index + 12) + (min day (monthLength (index + 12)) : Nat) := by
  have hyear : (index + 12) / 12 = index / 12 + 1 := by omega
  have hmonth : (index + 12) % 12 = index % 12 := by omega
  have hle := daysBeforeMonth_le_next (index / 12) day ((index % 12).toNat + 1) (by omega)
    (by omega)
  rw [monthStart, monthStart, monthLength, monthLength, hyear, hmonth, yearStart_succ]
  omega

end Calendar

open Calendar

/-! ## What stands behind the point -/

namespace Binary64

variable {m n c : Binary64} {whole : Int}

/-- The days that the rest of a count makes, where the whole parts agree. -/
theorem round_fract_mul_mono (hc : zero.lt c = true) (hfinite : c.isFinite = true)
    (hm : zero.le m = true) (h : m.le n = true) (hmw : m.trunc = some whole)
    (hnw : n.trunc = some whole) {j : Int} (hj : (n.fract.mul c).round = some j) :
    ∃ i, (m.fract.mul c).round = some i ∧ 0 ≤ i ∧ i ≤ j := by
  have hfract := (fract_le_belowOne hm hmw).1
  obtain ⟨hzero, hle⟩ := mul_mono hc hfinite hfract (fract_mono hm h hmw hnw)
  exact round_mono hzero hle hj

/-- The most days that the rest of a count can make. -/
theorem exists_round_fract_mul (hc : zero.lt c = true) (hfinite : c.isFinite = true)
    (hm : zero.le m = true) (hmw : m.trunc = some whole) {most : Int}
    (hmost : (belowOne.mul c).round = some most) :
    ∃ i, (m.fract.mul c).round = some i ∧ 0 ≤ i ∧ i ≤ most := by
  obtain ⟨hfract, hbelow⟩ := fract_le_belowOne hm hmw
  obtain ⟨hzero, hle⟩ := mul_mono hc hfinite hfract hbelow
  exact round_mono hzero hle hmost

end Binary64

namespace Date

open Binary64

variable {a b d : Date} {k l : Int} {m n : Binary64}

/-! ## Steps of the calendar -/

theorem dayNumber_of_monthsBefore? (h : d.monthsBefore? k = some a) :
    a.dayNumber = monthStart (d.monthIndex - k) +
      (min d.day (monthLength (d.monthIndex - k)) : Nat) - 1 := by
  obtain ⟨hindex, hday⟩ := monthsBefore?_eq_some_iff.1 h
  rw [dayNumber_eq, hday, hindex]
  omega

/-- More months lead back further. -/
theorem exists_monthsBefore?_of_le (hk : 0 ≤ k) (hkl : k ≤ l) (hb : d.monthsBefore? l = some b) :
    ∃ a, d.monthsBefore? k = some a ∧ b ≤ a := by
  obtain ⟨hindex, hday⟩ := monthsBefore?_eq_some_iff.1 hb
  have hbounds := b.monthIndex_bounds
  obtain ⟨a, ha⟩ := exists_monthsBefore? (a := d) hk (by omega)
  obtain ⟨hindex', hday'⟩ := monthsBefore?_eq_some_iff.1 ha
  refine ⟨a, ha, le_iff_monthIndex.2 ?_⟩
  rcases hkl.eq_or_lt with rfl | hlt
  · rw [hday, hday', hindex, hindex']
    exact .inr ⟨rfl, le_rfl⟩
  · left
    omega

/-- **A step to the month before** spans 28 days at least. -/
theorem succ_monthsBefore?_le (ha : d.monthsBefore? k = some a)
    (hb : d.monthsBefore? (k + 1) = some b) : b.dayNumber + 28 ≤ a.dayNumber := by
  have hle := monthStart_succ_le (d.monthIndex - (k + 1)) d.day
  have hindex : d.monthIndex - (k + 1) + 1 = d.monthIndex - k := by omega
  rw [hindex] at hle
  rw [dayNumber_of_monthsBefore? ha, dayNumber_of_monthsBefore? hb]
  omega

/-- **A step to the year before** spans 365 days at least. -/
theorem add_twelve_monthsBefore?_le (ha : d.monthsBefore? k = some a)
    (hb : d.monthsBefore? (k + 12) = some b) : b.dayNumber + 365 ≤ a.dayNumber := by
  have hle := monthStart_add_twelve_le (d.monthIndex - (k + 12)) d.day
  have hindex : d.monthIndex - (k + 12) + 12 = d.monthIndex - k := by omega
  rw [hindex] at hle
  rw [dayNumber_of_monthsBefore? ha, dayNumber_of_monthsBefore? hb]
  omega

/-! ## Days -/

/-- There is such a day if there is an earlier one. -/
theorem exists_daysBefore? {count : Binary64} {i : Int} (hi : count.round = some i)
    (hbounds : 0 ≤ i ∧ i ≤ maxDays) {x : Int} (hx : earliest.dayNumber ≤ x)
    (hle : x ≤ a.dayNumber - i) :
    ∃ y, a.daysBefore? count = some y ∧ y.dayNumber = a.dayNumber - i := by
  have hmax := le_iff.1 a.le_latest
  obtain ⟨y, hy⟩ := exists_ofDayNumber?_iff (n := a.dayNumber - i).2 (by omega)
  have hnumber := ofDayNumber?_eq_some_iff.1 hy
  exact ⟨y, daysBefore?_eq_some_iff.2 ⟨i, hi, hbounds, hnumber⟩, hnumber⟩

/-- More days lead back further. -/
theorem NotLater.daysBefore?_of_le (hm : zero.le m = true) (h : m.le n = true) :
    NotLater (a.daysBefore? n) (a.daysBefore? m) := by
  intro x hx
  obtain ⟨j, hj, hbounds, hnumber⟩ := daysBefore?_eq_some_iff.1 hx
  obtain ⟨i, hi, hzero, hle⟩ := round_mono hm h hj
  obtain ⟨y, hy, hynumber⟩ := exists_daysBefore? (a := a) hi ⟨hzero, hle.trans hbounds.2⟩
    (le_iff.1 x.earliest_le) (by omega)
  refine ⟨y, hy, ?_⟩
  rw [le_iff]
  omega

/-- Steps of the calendar and days lead back further if they do so in sum. -/
theorem NotLater.calendar {i : Int} (hi : m.round = some i) (hbounds : 0 ≤ i ∧ i ≤ maxDays)
    (h : ∀ b j, d.monthsBefore? l = some b → n.round = some j →
      ∃ a, d.monthsBefore? k = some a ∧ b.dayNumber - j ≤ a.dayNumber - i) :
    NotLater ((d.monthsBefore? l).bind fun moved ↦ moved.daysBefore? n)
      ((d.monthsBefore? k).bind fun moved ↦ moved.daysBefore? m) := by
  intro x hx
  obtain ⟨b, hb, hx⟩ := Option.bind_eq_some_iff.1 hx
  obtain ⟨j, hj, -, hnumber⟩ := daysBefore?_eq_some_iff.1 hx
  obtain ⟨a, ha, hle⟩ := h b j hb hj
  obtain ⟨y, hy, hynumber⟩ :=
    exists_daysBefore? (a := a) hi hbounds (le_iff.1 x.earliest_le) (by omega)
  refine ⟨y, Option.bind_eq_some_iff.2 ⟨a, ha, hy⟩, ?_⟩
  rw [le_iff]
  omega

/-! ## The exception -/

/-- Going back by the first number of months overshoots going back by the second: the second has one
whole month more, but what stands behind the point of the first makes more days than this month and
what stands behind the point of the second. -/
def Overshoots (d : Date) (m n : Binary64) : Prop :=
  ∃ (whole : Int) (a b : Date) (i j : Int),
    m.trunc = some whole ∧ n.trunc = some (whole + 1) ∧
      d.monthsBefore? whole = some a ∧ d.monthsBefore? (whole + 1) = some b ∧
      (m.fract.mul daysPerMonth).round = some i ∧ (n.fract.mul daysPerMonth).round = some j ∧
      a.dayNumber - b.dayNumber + j < i

theorem daysPer_pos : ∀ c ∈ [daysPerYear, daysPerMonth, daysPerWeek],
    zero.lt c = true ∧ c.isFinite = true := by
  decide +kernel

theorem round_belowOne_mul : (belowOne.mul daysPerYear).round = some 365 ∧
    (belowOne.mul daysPerMonth).round = some 30 := by
  decide +kernel

/-- The rest of a number of months makes 30 days at most. -/
theorem exists_round_daysPerMonth (hm : zero.le m = true) (hmw : m.trunc = some k) :
    ∃ i, (m.fract.mul daysPerMonth).round = some i ∧ 0 ≤ i ∧ i ≤ 30 := by
  obtain ⟨hpos, hfinite⟩ := daysPer_pos daysPerMonth (by simp)
  exact exists_round_fract_mul hpos hfinite hm hmw round_belowOne_mul.2

/-! ## All units -/

/-- Where the whole parts agree, larger counts lead back further by their rests.  So it is enough to
look at counts with different whole parts. -/
theorem NotLater.whole_and_rest {months : Int → Int} {c : Binary64} {most : Int}
    (hc : c ∈ [daysPerYear, daysPerMonth, daysPerWeek])
    (hmost : (belowOne.mul c).round = some most) (hmax : most ≤ maxDays) (hm : zero.le m = true)
    (h : m.le n = true)
    (hmore : ∀ k l b i j, m.trunc = some k → n.trunc = some l → 0 ≤ k → k < l →
      d.monthsBefore? (months l) = some b → (m.fract.mul c).round = some i →
      (n.fract.mul c).round = some j → i ≤ most → 0 ≤ j →
        ∃ a, d.monthsBefore? (months k) = some a ∧ b.dayNumber - j ≤ a.dayNumber - i) :
    NotLater
      (n.trunc.bind fun whole ↦ (d.monthsBefore? (months whole)).bind fun moved ↦
        moved.daysBefore? (n.fract.mul c))
      (m.trunc.bind fun whole ↦ (d.monthsBefore? (months whole)).bind fun moved ↦
        moved.daysBefore? (m.fract.mul c)) := by
  obtain ⟨hpos, hfinite⟩ := daysPer_pos c hc
  intro x hx
  obtain ⟨l, hnw, hx⟩ := Option.bind_eq_some_iff.1 hx
  obtain ⟨k, hmw, hk, hkl⟩ := trunc_mono hm h hnw
  obtain ⟨i, hi, hzero, hle⟩ := exists_round_fract_mul hpos hfinite hm hmw hmost
  rw [hmw, Option.bind_some]
  refine NotLater.calendar hi ⟨hzero, hle.trans hmax⟩ (fun b j hb hj ↦ ?_) x hx
  rcases hkl.eq_or_lt with rfl | hlt
  · obtain ⟨i', hi', -, hij⟩ := round_fract_mul_mono hpos hfinite hm h hmw hnw hj
    obtain rfl := Option.some.inj (hi.symm.trans hi')
    exact ⟨b, hb, by omega⟩
  · obtain ⟨j', hj', hzero', -⟩ :=
      exists_round_fract_mul hpos hfinite (zero_le_of_le hm h) hnw hmost
    obtain rfl := Option.some.inj (hj.symm.trans hj')
    exact hmore k l b i j hmw hnw hk hlt hb hi hj hle hzero'

theorem NotLater.years_of_le (hm : zero.le m = true) (h : m.le n = true) :
    NotLater (d.goBack? n .years) (d.goBack? m .years) := by
  refine NotLater.whole_and_rest (by simp) round_belowOne_mul.1 (by decide) hm h ?_
  intro k l b i j _ _ hk hkl hb _ _ hi hj
  obtain ⟨c, hc, hbc⟩ := exists_monthsBefore?_of_le (k := k * 12 + 12) (by omega) (by omega) hb
  obtain ⟨a, ha, -⟩ := exists_monthsBefore?_of_le (k := k * 12) (by omega) (by omega) hc
  have hyear := add_twelve_monthsBefore?_le ha hc
  rw [le_iff] at hbc
  exact ⟨a, ha, by omega⟩

theorem NotLater.months_of_le (hm : zero.le m = true) (h : m.le n = true)
    (hnot : ¬ d.Overshoots m n) : NotLater (d.goBack? n .months) (d.goBack? m .months) := by
  refine NotLater.whole_and_rest (by simp) round_belowOne_mul.2 (by decide) hm h ?_
  intro k l b i j hmw hnw hk hkl hb hi hj hle hzero
  obtain ⟨c, hc, hbc⟩ := exists_monthsBefore?_of_le (k := k + 1) (by omega) (by omega) hb
  obtain ⟨a, ha, -⟩ := exists_monthsBefore?_of_le hk (by omega) hc
  refine ⟨a, ha, ?_⟩
  rcases (Int.add_one_le_of_lt hkl).eq_or_lt with rfl | hlt
  · -- One month more: this is where the rest may be too long for the month.
    by_contra hover
    obtain rfl := Option.some.inj (hb.symm.trans hc)
    exact hnot ⟨k, a, b, i, j, hmw, hnw, ha, hb, hi, hj, by omega⟩
  · obtain ⟨c', hc', hbc'⟩ := exists_monthsBefore?_of_le (k := k + 1 + 1) (by omega) (by omega) hb
    have hmonth := succ_monthsBefore?_le ha hc
    have hmonth' := succ_monthsBefore?_le hc hc'
    rw [le_iff] at hbc'
    omega

/-- Before a month of fewer than 30 days there is room for two days. -/
theorem earliest_add_two_le (ha : d.monthsBefore? k = some a)
    (hb : d.monthsBefore? (k + 1) = some b) (hstep : a.dayNumber < b.dayNumber + 30) :
    earliest.dayNumber + 2 ≤ b.dayNumber := by
  obtain ⟨hindex, -⟩ := monthsBefore?_eq_some_iff.1 ha
  obtain ⟨hindex', -⟩ := monthsBefore?_eq_some_iff.1 hb
  have hbounds := b.monthIndex_bounds
  have hearliest : earliest.dayNumber = monthStart (12 * minYear) := by decide
  have hlength : monthLength (12 * minYear) = 31 := by decide
  have hfirst := monthStart_succ (12 * minYear)
  rcases hbounds.1.eq_or_lt with heq | hlt
  · -- The first month of all has 31 days.
    have hday := a.day_bounds
    have hnext : a.monthIndex = 12 * minYear + 1 := by omega
    rw [dayNumber_eq a, dayNumber_eq b, hnext, ← heq] at hstep
    rw [dayNumber_eq b, ← heq]
    omega
  · have hle := (monthStart_strictMono.monotone hlt).trans b.monthStart_le_dayNumber
    omega

/-- An overshooting count leads back one day or two further, over a month of 28 or 29 days. -/
theorem Overshoots.bounds (hm : zero.le m = true) (h : m.le n = true) (hover : d.Overshoots m n) :
    (∃ whole a b, m.trunc = some whole ∧ d.monthsBefore? whole = some a ∧
      d.monthsBefore? (whole + 1) = some b ∧
      (a.dayNumber - b.dayNumber = 28 ∨ a.dayNumber - b.dayNumber = 29)) ∧
    (d.goBack m .months).dayNumber < (d.goBack n .months).dayNumber ∧
    (d.goBack n .months).dayNumber ≤ (d.goBack m .months).dayNumber + 2 := by
  obtain ⟨k, a, b, i, j, hmw, hnw, ha, hb, hi, hj, hlt⟩ := hover
  obtain ⟨i', hi', hzero, hle⟩ := exists_round_daysPerMonth hm hmw
  obtain rfl := Option.some.inj (hi.symm.trans hi')
  obtain ⟨j', hj', hzero', -⟩ := exists_round_daysPerMonth (zero_le_of_le hm h) hnw
  obtain rfl := Option.some.inj (hj.symm.trans hj')
  have hstep := succ_monthsBefore?_le ha hb
  have hroom := earliest_add_two_le ha hb (by omega)
  have hmax : (30 : Int) ≤ maxDays := by decide
  obtain ⟨x, hx, hxnumber⟩ :=
    exists_daysBefore? (a := a) hi ⟨hzero, hle.trans hmax⟩ le_rfl (by omega)
  obtain ⟨y, hy, hynumber⟩ := exists_daysBefore? (a := b) hj ⟨hzero', by omega⟩ le_rfl (by omega)
  have hgoBack : d.goBack m .months = x := by
    have hsome : d.goBack? m .months = some x :=
      Option.bind_eq_some_iff.2 ⟨k, hmw, Option.bind_eq_some_iff.2 ⟨a, ha, hx⟩⟩
    rw [goBack, hsome, Option.getD_some]
  have hgoBack' : d.goBack n .months = y := by
    have hsome : d.goBack? n .months = some y :=
      Option.bind_eq_some_iff.2 ⟨k + 1, hnw, Option.bind_eq_some_iff.2 ⟨b, hb, hy⟩⟩
    rw [goBack, hsome, Option.getD_some]
  rw [hgoBack, hgoBack', hxnumber, hynumber]
  exact ⟨⟨k, a, b, hmw, ha, hb, by omega⟩, by omega, by omega⟩

/-- **Larger counts lead back further**, in every unit, unless the smaller number of months
overshoots. -/
theorem goBack_le_goBack_iff (hm : zero.le m = true) (h : m.le n = true) (d : Date)
    (unit : DateUnit) :
    d.goBack n unit ≤ d.goBack m unit ↔ ¬ (unit = .months ∧ d.Overshoots m n) := by
  constructor
  · rintro hle ⟨rfl, hover⟩
    exact absurd (hover.bounds hm h).2.1 hle.not_gt
  · intro hnot
    apply NotLater.getD
    cases unit with
    | years => exact .years_of_le hm h
    | months => exact .months_of_le hm h fun hover ↦ hnot ⟨rfl, hover⟩
    | days => exact .daysBefore?_of_le hm h
    | weeks =>
      obtain ⟨hpos, hfinite⟩ := daysPer_pos daysPerWeek (by simp)
      obtain ⟨hzero, hle⟩ := mul_mono hpos hfinite hm h
      exact .daysBefore?_of_le hzero hle

end Date

end SurveyQuests
