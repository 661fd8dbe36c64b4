import Mathlib.Data.Int.ConditionallyCompleteOrder
import Mathlib.Tactic.Linarith
import SurveyQuests.Calendar.Arithmetic

/-!
# Counting the days of the calendar

`Date.dayNumber` counts days through years and months.  It is easier to reason about as a count
through months alone: `monthStart` is the number of the first day of a month, each month starts as
many days after the one before as that one has, and so the months lie one behind the other without
gaps.  The day number of a date is the start of its month and the days before it in the month
(`dayNumber_eq`).  With this the order of the day numbers is the order of the months, and of the
days of the month where these agree, and `Date.ofDayNumber?` undoes the counting.

## What is here

* `yearStart_succ`, `yearOf_eq_iff` — the years one behind the other;
* `monthStart`, `monthStart_succ`, `monthStart_strictMono` — the months one behind the other;
* `Date.dayNumber_lt_iff`, `Date.dayNumber_injective` — the order of days, and `LinearOrder Date`;
* `Date.ofDayNumber?_eq_some_iff` — **counting days is undone**;
* `Date.exists_ofDayNumber?_iff` — for exactly the numbers between the ends of the range.
-/

set_option autoImplicit false

namespace SurveyQuests

namespace Calendar

/-! ## Years -/

/-- The number of days of a year. -/
def daysInYear (year : Int) : Int := if isLeap year then 366 else 365

theorem isLeap_iff (year : Int) :
    isLeap year = true ↔ year % 4 = 0 ∧ (year % 100 ≠ 0 ∨ year % 400 = 0) := by
  simp [isLeap]

theorem yearStart_succ (year : Int) : yearStart (year + 1) = yearStart year + daysInYear year := by
  rw [daysInYear, yearStart, yearStart]
  split
  · rename_i h
    rw [isLeap_iff] at h
    omega
  · rename_i h
    rw [isLeap_iff] at h
    omega

theorem yearStart_mono : Monotone yearStart := by
  intro a b h
  rw [yearStart, yearStart]
  omega

/-- The estimate of the year is off by one at most, and is put right. -/
theorem yearOf_bounds (n : Int) : yearStart (yearOf n) ≤ n ∧ n < yearStart (yearOf n + 1) := by
  have hlow : yearStart (n * 400 / 146097 - 1) ≤ n := by
    rw [yearStart]
    omega
  have hhigh : n < yearStart (n * 400 / 146097 + 2) := by
    rw [yearStart]
    omega
  rw [yearOf]
  generalize n * 400 / 146097 = guess at hlow hhigh ⊢
  split
  · rename_i h
    exact ⟨hlow, by rwa [Int.sub_add_cancel]⟩
  · rename_i h
    split
    · rename_i h'
      exact ⟨h', by rwa [Int.add_assoc]⟩
    · rename_i h'
      exact ⟨Int.not_lt.1 h, Int.not_le.1 h'⟩

/-- **The year of a day number** is the one year that it lies in. -/
theorem yearOf_eq_iff {n year : Int} :
    yearOf n = year ↔ yearStart year ≤ n ∧ n < yearStart (year + 1) := by
  constructor
  · rintro rfl
    exact yearOf_bounds n
  · rintro ⟨hlow, hhigh⟩
    obtain ⟨hlow', hhigh'⟩ := yearOf_bounds n
    have hle := yearStart_mono.reflect_lt (hlow.trans_lt hhigh')
    have hge := yearStart_mono.reflect_lt (hlow'.trans_lt hhigh)
    omega

/-! ## Months -/

theorem daysBeforeMonth_succ (year : Int) {month : Nat} (h : 1 ≤ month) :
    daysBeforeMonth year (month + 1) = daysBeforeMonth year month + daysInMonth year month := by
  obtain ⟨month, rfl⟩ := Nat.exists_eq_add_of_le' h
  rfl

/-- The twelve months make up the year. -/
theorem daysBeforeMonth_thirteen (year : Int) :
    (daysBeforeMonth year 13 : Int) = daysInYear year := by
  simp [daysBeforeMonth, daysInMonth, daysInYear]
  split <;> rfl

/-- The number of the first day of a month, which is counted from January of year 0. -/
def monthStart (index : Int) : Int :=
  yearStart (index / 12) + daysBeforeMonth (index / 12) ((index % 12).toNat + 1)

/-- The number of days of a month, which is counted from January of year 0. -/
def monthLength (index : Int) : Nat := daysInMonth (index / 12) ((index % 12).toNat + 1)

theorem monthStart_succ (index : Int) :
    monthStart (index + 1) = monthStart index + monthLength index := by
  have hsucc := daysBeforeMonth_succ (index / 12) (Nat.le_add_left 1 (index % 12).toNat)
  rw [monthStart, monthStart, monthLength, Int.add_assoc, ← Int.natCast_add, ← hsucc]
  by_cases h : index % 12 = 11
  · have hyear : (index + 1) / 12 = index / 12 + 1 := by omega
    have hmonth : (index + 1) % 12 = 0 := by omega
    have hdays := daysBeforeMonth_thirteen (index / 12)
    rw [hyear, hmonth, h, yearStart_succ, ← hdays]
    exact Int.add_zero _
  · have hyear : (index + 1) / 12 = index / 12 := by omega
    have hmonth : ((index + 1) % 12).toNat = (index % 12).toNat + 1 := by omega
    rw [hyear, hmonth]

theorem monthStart_strictMono : StrictMono monthStart := by
  refine strictMono_int_of_lt_succ fun index ↦ ?_
  have hpos := one_le_daysInMonth (index / 12) ((index % 12).toNat + 1)
  rw [monthStart_succ, monthLength]
  omega

end Calendar

open Calendar

namespace Date

/-! ## The order of days -/

variable {a b d : Date}

theorem monthIndex_div (d : Date) : d.monthIndex / 12 = d.year := by
  obtain ⟨-, ⟨hone, htwelve⟩, -⟩ := d.isDay
  rw [monthIndex]
  omega

theorem monthIndex_mod (d : Date) : (d.monthIndex % 12).toNat + 1 = d.month := by
  obtain ⟨-, ⟨hone, htwelve⟩, -⟩ := d.isDay
  rw [monthIndex]
  omega

theorem dayNumber_eq (d : Date) :
    d.dayNumber = monthStart d.monthIndex + ((d.day : Int) - 1) := by
  rw [dayNumber, monthStart, monthIndex_div, monthIndex_mod]

theorem day_bounds (d : Date) : 1 ≤ d.day ∧ d.day ≤ monthLength d.monthIndex := by
  rw [monthLength, monthIndex_div, monthIndex_mod]
  exact d.isDay.2.2

/-- A date lies before the start of every later month. -/
theorem dayNumber_lt_monthStart {index : Int} (h : d.monthIndex < index) :
    d.dayNumber < monthStart index := by
  have hday := d.day_bounds
  have hle := monthStart_strictMono.monotone (Int.add_one_le_of_lt h)
  rw [monthStart_succ] at hle
  rw [dayNumber_eq]
  omega

theorem monthStart_le_dayNumber (d : Date) : monthStart d.monthIndex ≤ d.dayNumber := by
  have hday := d.day_bounds
  rw [dayNumber_eq]
  omega

/-- **Days are ordered by month, and in a month by the day of the month.** -/
theorem dayNumber_lt_iff :
    a.dayNumber < b.dayNumber ↔
      a.monthIndex < b.monthIndex ∨ a.monthIndex = b.monthIndex ∧ a.day < b.day := by
  rcases lt_trichotomy a.monthIndex b.monthIndex with h | h | h
  · have hlt := (dayNumber_lt_monthStart h).trans_le b.monthStart_le_dayNumber
    simp [h, hlt]
  · rw [dayNumber_eq, dayNumber_eq, h]
    omega
  · have hlt := (dayNumber_lt_monthStart h).trans_le a.monthStart_le_dayNumber
    omega

theorem eq_of_monthIndex_of_day (hindex : a.monthIndex = b.monthIndex) (hday : a.day = b.day) :
    a = b := by
  have hyear := congrArg (· / 12) hindex
  have hmonth := congrArg (fun index : Int ↦ (index % 12).toNat + 1) hindex
  simp only [monthIndex_div, monthIndex_mod] at hyear hmonth
  cases a
  cases b
  simp_all

/-- Different days have different numbers. -/
theorem dayNumber_injective : Function.Injective dayNumber := by
  intro a b h
  have hab := mt dayNumber_lt_iff.2 h.not_lt
  have hba := mt dayNumber_lt_iff.2 h.not_gt
  exact eq_of_monthIndex_of_day (by omega) (by omega)

/-- Days in the order of time. -/
instance : LinearOrder Date := LinearOrder.lift' dayNumber dayNumber_injective

theorem le_iff : a ≤ b ↔ a.dayNumber ≤ b.dayNumber := Iff.rfl

theorem lt_iff : a < b ↔ a.dayNumber < b.dayNumber := Iff.rfl

theorem le_iff_monthIndex :
    a ≤ b ↔ a.monthIndex < b.monthIndex ∨ a.monthIndex = b.monthIndex ∧ a.day ≤ b.day := by
  rw [le_iff, ← Int.not_lt, dayNumber_lt_iff]
  omega

theorem year_mono (h : a ≤ b) : a.year ≤ b.year := by
  have hindex := le_iff_monthIndex.1 h
  rw [← a.monthIndex_div, ← b.monthIndex_div]
  omega

theorem before_eq_true_iff : a.before b = true ↔ a < b := by
  rw [before, decide_eq_true_iff, lt_iff]

/-! ## Days by their number -/

/-- The search for a month goes through months until the day lies in one. -/
theorem monthOf_spec (year : Int) (left : Nat) {month n : Nat} (hmonth : 1 ≤ month)
    (h : daysBeforeMonth year month + n < daysBeforeMonth year (month + left + 1)) :
    (month ≤ (monthOf year month left n).1 ∧ (monthOf year month left n).1 ≤ month + left) ∧
      (1 ≤ (monthOf year month left n).2 ∧
        (monthOf year month left n).2 ≤ daysInMonth year (monthOf year month left n).1) ∧
      daysBeforeMonth year (monthOf year month left n).1 + (monthOf year month left n).2 =
        daysBeforeMonth year month + n + 1 := by
  have hsucc := daysBeforeMonth_succ year hmonth
  induction left generalizing month n with
  | zero =>
    rw [Nat.add_zero, hsucc] at h
    rw [monthOf]
    dsimp only
    omega
  | succ left ih =>
    rw [monthOf]
    split
    · dsimp only
      omega
    · have hnext : daysBeforeMonth year (month + 1) + (n - daysInMonth year month) =
          daysBeforeMonth year month + n := by omega
      have hwithin : daysBeforeMonth year (month + 1) + (n - daysInMonth year month) <
          daysBeforeMonth year (month + 1 + left + 1) := by
        rw [hnext, Nat.add_assoc month, Nat.add_comm 1 left]
        exact h
      have hmonth' : 1 ≤ month + 1 := Nat.le_add_left 1 month
      have hih := ih hmonth' hwithin (daysBeforeMonth_succ year hmonth')
      rw [hnext] at hih
      refine ⟨?_, hih.2⟩
      omega

/-- Month and day of the month of a number, within the year of the number. -/
theorem monthOf_yearOf (n : Int) :
    let found := monthOf (yearOf n) 1 11 (n - yearStart (yearOf n)).toNat
    (1 ≤ found.1 ∧ found.1 ≤ 12) ∧ (1 ≤ found.2 ∧ found.2 ≤ daysInMonth (yearOf n) found.1) ∧
      yearStart (yearOf n) + (daysBeforeMonth (yearOf n) found.1 : Int) + ((found.2 : Int) - 1) =
        n := by
  obtain ⟨hlow, hhigh⟩ := yearOf_bounds n
  rw [yearStart_succ, ← daysBeforeMonth_thirteen] at hhigh
  have hfirst : daysBeforeMonth (yearOf n) 1 = 0 := rfl
  have hwithin : daysBeforeMonth (yearOf n) 1 + (n - yearStart (yearOf n)).toNat <
      daysBeforeMonth (yearOf n) 13 := by omega
  obtain ⟨hmonth, hday, hcount⟩ := monthOf_spec (yearOf n) 11 le_rfl hwithin
  refine ⟨hmonth, hday, ?_⟩
  omega

/-- A date that is found has the number that was looked for. -/
theorem dayNumber_of_ofDayNumber? {n : Int} (h : ofDayNumber? n = some d) : d.dayNumber = n := by
  obtain ⟨hyear, hmonth, hday⟩ := ofCalendar?_eq_some_iff.1 h
  rw [dayNumber, hyear, hmonth, hday]
  exact (monthOf_yearOf n).2.2

/-- There is a date for the number of a day of the years of the range. -/
theorem exists_of_yearOf {n : Int} (hmin : minYear ≤ yearOf n) (hmax : yearOf n ≤ maxYear) :
    ∃ d, ofDayNumber? n = some d := by
  obtain ⟨hmonth, hday, -⟩ := monthOf_yearOf n
  exact ⟨⟨_, _, _, ⟨hmin, hmax⟩, hmonth, hday⟩, ofCalendar?_eq_some_iff.2 ⟨rfl, rfl, rfl⟩⟩

theorem yearOf_dayNumber (d : Date) : yearOf d.dayNumber = d.year := by
  have hyear := d.monthIndex_div
  have hstart : monthStart (12 * d.year) = yearStart d.year := by
    rw [monthStart, Int.mul_ediv_cancel_left _ (by omega), Int.mul_emod_right]
    exact Int.add_zero _
  have hnext : monthStart (12 * (d.year + 1)) = yearStart (d.year + 1) := by
    rw [monthStart, Int.mul_ediv_cancel_left _ (by omega), Int.mul_emod_right]
    exact Int.add_zero _
  rw [yearOf_eq_iff, ← hstart, ← hnext]
  refine ⟨?_, dayNumber_lt_monthStart (by omega)⟩
  exact (monthStart_strictMono.monotone (by omega)).trans d.monthStart_le_dayNumber

/-- **Counting days is undone.** -/
theorem ofDayNumber?_eq_some_iff {n : Int} : ofDayNumber? n = some d ↔ d.dayNumber = n := by
  refine ⟨dayNumber_of_ofDayNumber?, ?_⟩
  rintro rfl
  obtain ⟨⟨hmin, hmax⟩, -⟩ := d.isDay
  rw [← d.yearOf_dayNumber] at hmin hmax
  obtain ⟨d', hd'⟩ := exists_of_yearOf hmin hmax
  rw [hd', dayNumber_injective (dayNumber_of_ofDayNumber? hd')]

/-- The days of the years from 0 have no negative numbers. -/
theorem dayNumber_nonneg (h : 0 ≤ d.year) : 0 ≤ d.dayNumber := by
  have hstart : 0 ≤ yearStart d.year := yearStart_mono h
  have hbounds := yearOf_bounds d.dayNumber
  rw [d.yearOf_dayNumber] at hbounds
  exact hstart.trans hbounds.1

theorem earliest_le (d : Date) : earliest ≤ d := by
  obtain ⟨⟨hmin, -⟩, ⟨hmonth, -⟩, hday, -⟩ := d.isDay
  rw [le_iff_monthIndex]
  have hindex : earliest.monthIndex = 12 * minYear := rfl
  have hone : earliest.day = 1 := rfl
  rw [hindex, hone, monthIndex]
  omega

theorem le_latest (d : Date) : d ≤ latest := by
  obtain ⟨⟨-, hmax⟩, ⟨-, hmonth⟩, -, hday⟩ := d.isDay
  have hlength := daysInMonth_le d.year d.month
  rw [le_iff_monthIndex]
  have hindex : latest.monthIndex = 12 * maxYear + 11 := rfl
  have hlast : latest.day = 31 := rfl
  rw [hindex, hlast, monthIndex]
  omega

/-- **The numbers of days** are those between the ends of the range. -/
theorem exists_ofDayNumber?_iff {n : Int} :
    (∃ d, ofDayNumber? n = some d) ↔ earliest.dayNumber ≤ n ∧ n ≤ latest.dayNumber := by
  constructor
  · rintro ⟨d, hd⟩
    rw [← dayNumber_of_ofDayNumber? hd]
    exact ⟨d.earliest_le, d.le_latest⟩
  · rintro ⟨hmin, hmax⟩
    have hlow := (yearOf_bounds n).1
    have hhigh := (yearOf_bounds n).2
    refine exists_of_yearOf ?_ ?_
    · have hlt := yearStart_mono.reflect_lt
        ((yearOf_bounds earliest.dayNumber).1.trans_lt (hmin.trans_lt hhigh))
      rw [earliest.yearOf_dayNumber] at hlt
      exact Int.le_of_lt_add_one hlt
    · have hlt := yearStart_mono.reflect_lt
        (hlow.trans_lt (hmax.trans_lt (yearOf_bounds latest.dayNumber).2))
      rw [latest.yearOf_dayNumber] at hlt
      exact Int.le_of_lt_add_one hlt

end Date

end SurveyQuests
