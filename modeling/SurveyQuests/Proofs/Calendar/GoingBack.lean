import SurveyQuests.Proofs.Calendar.DayNumber

/-!
# Going back keeps the order of days

Of two days, the later one does not become the earlier one when both go back by the same count.
Days that fall on the end of a short month may become the same day, and so may days for which the
range of dates is left; but what leaves the range is taken for the first day of it, and the later of
two days leaves it only if the earlier one does.  `Date.NotLater` says this of results that may not
be there.

## What is here

* `Date.monthsBefore?_eq_some_iff`, `Date.daysBefore?_eq_some_iff` — what the two steps give;
* `Date.NotLater`, with one lemma for each step;
* `Date.goBack_mono` — **going back keeps the order of days**;
* `Date.goBack_le` — going back does not lead forward.
-/

set_option autoImplicit false

namespace SurveyQuests

open Calendar

namespace Binary64

/-- The whole part of a number that is not negative is not negative. -/
theorem trunc_nonneg {x : Binary64} {n : Int} (h : zero.le x = true) (hn : x.trunc = some n) :
    0 ≤ n := by
  obtain ⟨negative, magnitude⟩ := x
  cases magnitude with
  | infinite => cases hn
  | nan => cases hn
  | finite rank =>
    obtain rfl := Option.some.inj hn
    cases negative with
    | false => exact Int.natCast_nonneg _
    | true =>
      have hrank : 0 ≤ -((rank : Nat) : Int) := of_decide_eq_true h
      obtain ⟨rank, hlt⟩ := rank
      obtain rfl : rank = 0 := by
        dsimp only at hrank
        omega
      exact Int.le_of_eq (by simp [signedUnits, units, significand])

theorem zero_le_of_isFinite {x : Binary64} (hfinite : x.isFinite = true)
    (hsign : x.negative = false) : zero.le x = true := by
  obtain ⟨negative, magnitude⟩ := x
  obtain rfl : negative = false := hsign
  cases magnitude with
  | infinite => cases hfinite
  | nan => cases hfinite
  | finite rank =>
    have hrank : (0 : Int) ≤ (rank : Nat) := Int.natCast_nonneg _
    exact decide_eq_true hrank

end Binary64

namespace Date

variable {a b d : Date}

/-! ## What the steps give -/

theorem monthIndex_bounds (d : Date) :
    12 * minYear ≤ d.monthIndex ∧ d.monthIndex < 12 * (maxYear + 1) := by
  obtain ⟨⟨hmin, hmax⟩, ⟨hone, htwelve⟩, -⟩ := d.isDay
  rw [monthIndex]
  omega

/-- Whole months back is that many months earlier, on the same day or the last one of the month. -/
theorem monthsBefore?_eq_some_iff {months : Int} :
    a.monthsBefore? months = some d ↔
      d.monthIndex = a.monthIndex - months ∧ d.day = min a.day (monthLength d.monthIndex) := by
  rw [monthsBefore?, ofCalendar?_eq_some_iff]
  constructor
  · rintro ⟨hyear, hmonth, hday⟩
    have hindex : d.monthIndex = a.monthIndex - months := by
      rw [monthIndex, hyear, hmonth]
      omega
    exact ⟨hindex, by rw [hday, hindex, monthLength]⟩
  · rintro ⟨hindex, hday⟩
    rw [← hindex]
    exact ⟨d.monthIndex_div.symm, d.monthIndex_mod.symm, hday⟩

/-- There is such a day unless it lies before the range. -/
theorem exists_monthsBefore? {months : Int} (hmonths : 0 ≤ months)
    (h : 12 * minYear ≤ a.monthIndex - months) : ∃ d, a.monthsBefore? months = some d := by
  have hbounds := a.monthIndex_bounds
  have hday := a.day_bounds
  have hlength := one_le_daysInMonth ((a.monthIndex - months) / 12)
    (((a.monthIndex - months) % 12).toNat + 1)
  exact ⟨⟨_, _, _, by omega, by omega, by omega, by omega⟩,
    ofCalendar?_eq_some_iff.2 ⟨rfl, rfl, rfl⟩⟩

/-- Days back is the day whose number is smaller by the rounded count. -/
theorem daysBefore?_eq_some_iff {count : Binary64} :
    a.daysBefore? count = some d ↔
      ∃ n, count.round = some n ∧ (0 ≤ n ∧ n ≤ maxDays) ∧ d.dayNumber = a.dayNumber - n := by
  rw [daysBefore?, Option.bind_eq_bind, Option.bind_eq_some_iff]
  refine exists_congr fun n ↦ and_congr_right fun _ ↦ ?_
  split
  · rename_i h
    rw [ofDayNumber?_eq_some_iff]
    exact (and_iff_right h).symm
  · rename_i h
    constructor
    · intro hnone
      cases hnone
    · rintro ⟨hin, -⟩
      exact absurd hin h

/-! ## Going back -/

/-- If the first day is there, then so is the second one, and it is not the earlier of the two. -/
def NotLater (o p : Option Date) : Prop := ∀ d ∈ o, ∃ e ∈ p, d ≤ e

theorem NotLater.getD {o p : Option Date} (h : NotLater o p) :
    o.getD earliest ≤ p.getD earliest := by
  cases o with
  | none => exact earliest_le _
  | some d =>
    obtain ⟨e, rfl, hle⟩ := h d rfl
    exact hle

theorem NotLater.bind {o p : Option Date} {f : Date → Option Date} (h : NotLater o p)
    (hf : ∀ {a b : Date}, a ≤ b → NotLater (f a) (f b)) : NotLater (o.bind f) (p.bind f) := by
  intro d hd
  obtain ⟨a, rfl, hd⟩ := Option.bind_eq_some_iff.1 hd
  obtain ⟨b, rfl, hab⟩ := h a rfl
  exact hf hab d hd

theorem NotLater.monthsBefore? {months : Int} (hmonths : 0 ≤ months) (h : a ≤ b) :
    NotLater (a.monthsBefore? months) (b.monthsBefore? months) := by
  intro d hd
  obtain ⟨hindex, hday⟩ := monthsBefore?_eq_some_iff.1 hd
  have hbounds := d.monthIndex_bounds
  rw [le_iff_monthIndex] at h
  obtain ⟨e, he⟩ := exists_monthsBefore? (a := b) hmonths (by omega)
  obtain ⟨hindex', hday'⟩ := monthsBefore?_eq_some_iff.1 he
  refine ⟨e, he, le_iff_monthIndex.2 ?_⟩
  rcases h with hlt | ⟨heq, hle⟩
  · left
    omega
  · right
    have hsame : d.monthIndex = e.monthIndex := by omega
    refine ⟨hsame, ?_⟩
    rw [hday, hday', hsame]
    exact min_le_min_right _ hle

theorem NotLater.daysBefore? (count : Binary64) (h : a ≤ b) :
    NotLater (a.daysBefore? count) (b.daysBefore? count) := by
  intro d hd
  obtain ⟨n, hround, hn, hnumber⟩ := daysBefore?_eq_some_iff.1 hd
  rw [le_iff] at h
  have hmin := le_iff.1 d.earliest_le
  have hmax := le_iff.1 b.le_latest
  obtain ⟨e, he⟩ := exists_ofDayNumber?_iff (n := b.dayNumber - n).2 (by omega)
  have hnumber' := ofDayNumber?_eq_some_iff.1 he
  refine ⟨e, daysBefore?_eq_some_iff.2 ⟨n, hround, hn, hnumber'⟩, le_iff.2 ?_⟩
  omega

theorem NotLater.goBack? {count : Binary64} (hcount : Binary64.zero.le count = true)
    (unit : DateUnit) (h : a ≤ b) : NotLater (a.goBack? count unit) (b.goBack? count unit) := by
  have hmonths : ∀ {months : Int} (rest : Binary64), 0 ≤ months →
      NotLater ((a.monthsBefore? months).bind fun moved ↦ moved.daysBefore? rest)
        ((b.monthsBefore? months).bind fun moved ↦ moved.daysBefore? rest) :=
    fun rest hm ↦ (NotLater.monthsBefore? hm h).bind fun hle ↦ .daysBefore? rest hle
  cases unit with
  | weeks => exact .daysBefore? _ h
  | days => exact .daysBefore? _ h
  | years =>
    rw [Date.goBack?, Date.goBack?]
    cases htrunc : count.trunc with
    | none => exact fun d hd ↦ nomatch hd
    | some whole =>
      have hwhole := Binary64.trunc_nonneg hcount htrunc
      exact hmonths _ (by omega)
  | months =>
    rw [Date.goBack?, Date.goBack?]
    cases htrunc : count.trunc with
    | none => exact fun d hd ↦ nomatch hd
    | some whole => exact hmonths _ (Binary64.trunc_nonneg hcount htrunc)

/-- **Going back keeps the order of days**, by any count that is not negative, in any unit. -/
theorem goBack_mono {count : Binary64} (hcount : Binary64.zero.le count = true) (unit : DateUnit) :
    Monotone fun d : Date ↦ d.goBack count unit :=
  fun _ _ h ↦ (NotLater.goBack? hcount unit h).getD

theorem le_of_monthsBefore? {months : Int} (hmonths : 0 ≤ months)
    (h : a.monthsBefore? months = some d) : d ≤ a := by
  obtain ⟨hindex, hday⟩ := monthsBefore?_eq_some_iff.1 h
  rw [le_iff_monthIndex]
  omega

theorem le_of_daysBefore? {count : Binary64} (h : a.daysBefore? count = some d) : d ≤ a := by
  obtain ⟨n, -, hn, hnumber⟩ := daysBefore?_eq_some_iff.1 h
  rw [le_iff]
  omega

/-- **Going back does not lead forward**, by any count that is not negative. -/
theorem goBack_le {count : Binary64} (hcount : Binary64.zero.le count = true) (unit : DateUnit)
    (a : Date) : a.goBack count unit ≤ a := by
  have hmonths : ∀ {months : Int} {rest : Binary64} {d : Date}, 0 ≤ months →
      ((a.monthsBefore? months).bind fun moved ↦ moved.daysBefore? rest) = some d → d ≤ a := by
    intro months rest d hm hd
    obtain ⟨moved, hmoved, hd⟩ := Option.bind_eq_some_iff.1 hd
    exact (le_of_daysBefore? hd).trans (le_of_monthsBefore? hm hmoved)
  rw [goBack]
  cases h : a.goBack? count unit with
  | none => exact a.earliest_le
  | some d =>
    rw [Option.getD_some]
    cases unit with
    | weeks => exact le_of_daysBefore? h
    | days => exact le_of_daysBefore? h
    | years =>
      obtain ⟨whole, htrunc, h⟩ := Option.bind_eq_some_iff.1 h
      have hwhole := Binary64.trunc_nonneg hcount htrunc
      exact hmonths (by omega) h
    | months =>
      obtain ⟨whole, htrunc, h⟩ := Option.bind_eq_some_iff.1 h
      exact hmonths (Binary64.trunc_nonneg hcount htrunc) h

end Date

end SurveyQuests
