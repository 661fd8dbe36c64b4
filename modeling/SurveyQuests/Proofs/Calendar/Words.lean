import SurveyQuests.Calendar.Words
import SurveyQuests.Proofs.Calendar.GoingBack

/-!
# Going back in words does not overflow

A step back that is not provided for has a small result: the index of a month is made from a year
and a month, and days are only counted in seconds if there are at most `Date.maxDays` of them.  The
other results may be of any size, but whatever does not fit a word lies far outside the range of
dates, where `Date.goBack` finds no date either.  This is so also for a number whose word has been
cut to fit (`Date.monthsBefore?_toWord`).  What is infinite or not a number leaves no rest to be
counted in days.

## What is here

* `Word.exists_exact`, `Word.checked_eq_none`, `Word.narrow_eq_none` — which numbers fit;
* `Date.bounds_of_monthsBefore?` — how many months back there are dates;
* `Date.monthsBeforeInWords?_eq`, `Date.daysBeforeInWords?_eq` — the two steps;
* `Date.goBackInWords_eq` — **going back in words leads to the same day**.
-/

set_option autoImplicit false

namespace SurveyQuests

open Calendar

namespace Word

theorem exists_checked {n : Int} (hlow : -2 ^ 63 ≤ n) (hhigh : n < 2 ^ 63) :
    ∃ w, checked n = some w ∧ w.toInt = n := by
  have hword : (Int64.ofInt n).toInt = n := Int64.toInt_ofInt_of_le hlow hhigh
  exact ⟨_, checked_eq_some_iff.2 hword, hword⟩

theorem exists_exact {n : Int} (hlow : -2 ^ 63 ≤ n) (hhigh : n < 2 ^ 63) :
    ∃ w, exact n = .ok w ∧ w.toInt = n := by
  obtain ⟨w, hw, hn⟩ := exists_checked hlow hhigh
  exact ⟨w, by rw [exact, hw], hn⟩

theorem narrow_eq_some {n : Int} {w : Int32} (h : narrow n = some w) : w.toInt = n := by
  unfold narrow at h
  split at h
  · rw [← Option.some.inj h, Int32.toInt_ofIntLE]
  · cases h

theorem narrow_eq_none {n : Int} (h : narrow n = none) : n < -2 ^ 31 ∨ 2 ^ 31 ≤ n := by
  unfold narrow at h
  split at h
  · cases h
  · rename_i hfits
    rw [Int32.toInt_minValue, Int32.toInt_maxValue] at hfits
    omega

theorem checked_eq_none {n : Int} (h : checked n = none) : n < -2 ^ 63 ∨ 2 ^ 63 ≤ n := by
  by_contra hfits
  obtain ⟨w, hw, -⟩ := exists_checked (n := n) (by omega) (by omega)
  rw [h] at hw
  cases hw

end Word

open Word

namespace Binary64

/-- The word of a number is its whole part, or the number is as far off as its word. -/
theorem toWord_cases {x : Binary64} {n : Int} (h : x.trunc = some n) :
    x.toWord.toInt = n ∨ (x.toWord.toInt < -240000 ∧ n < -240000) ∨
      (240000 < x.toWord.toInt ∧ 240000 < n) := by
  obtain ⟨negative, magnitude⟩ := x
  cases magnitude with
  | nan => cases h
  | infinite => cases h
  | finite rank =>
    obtain rfl := Option.some.inj h
    rw [toWord]
    dsimp only
    generalize signedUnits negative (units rank / unitsPerOne) = n
    have hmin := Int64.toInt_minValue
    have hmax := Int64.toInt_maxValue
    rw [Int64.ofIntClamp]
    split
    · rename_i hle
      split
      · rename_i hge
        left
        rw [Int64.toInt_ofIntLE]
      · rename_i hlt
        right
        right
        omega
    · rename_i hlt
      right
      left
      omega

theorem fract_eq_nan {x : Binary64} (h : x.trunc = none) : x.fract = nan := by
  rw [trunc, Option.map_eq_none_iff] at h
  rw [fract, h]

end Binary64

namespace Date

variable {d e : Date} {k : Int}

theorem exists_monthIndexInWords (d : Date) :
    ∃ w, d.monthIndexInWords = .ok w ∧ w.toInt = d.monthIndex := by
  obtain ⟨⟨hmin, hmax⟩, ⟨hone, htwelve⟩, -⟩ := d.isDay
  rw [minYear] at hmin
  rw [maxYear] at hmax
  obtain ⟨months, hmonths, hm⟩ := exists_exact (n := d.year * 12) (by omega) (by omega)
  obtain ⟨next, hnext, hn⟩ := exists_exact (n := months.toInt + d.month) (by omega) (by omega)
  obtain ⟨index, hindex, hi⟩ := exists_exact (n := next.toInt - 1) (by omega) (by omega)
  refine ⟨index, ?_, ?_⟩
  · rw [monthIndexInWords, hmonths]
    dsimp only [bind, Except.bind]
    rw [hnext]
    exact hindex
  · rw [monthIndex]
    omega

/-- Only so many months back is there a date. -/
theorem bounds_of_monthsBefore? (h : d.monthsBefore? k = some e) : -240000 ≤ k ∧ k ≤ 240000 := by
  have hd := d.monthIndex_bounds
  have he := e.monthIndex_bounds
  rw [(monthsBefore?_eq_some_iff.1 h).1] at he
  rw [minYear, maxYear] at hd he
  omega

theorem monthsBefore?_eq_none (h : k < -240000 ∨ 240000 < k) : d.monthsBefore? k = none := by
  rw [Option.eq_none_iff_forall_ne_some]
  intro e he
  have hbounds := bounds_of_monthsBefore? he
  omega

/-- **The step of months does not overflow.** -/
theorem monthsBeforeInWords?_eq (d : Date) (months : Int64) :
    d.monthsBeforeInWords? months = .ok (d.monthsBefore? months.toInt) := by
  obtain ⟨current, hcurrent, hindex⟩ := d.exists_monthIndexInWords
  have hbounds := d.monthIndex_bounds
  rw [minYear, maxYear] at hbounds
  rw [monthsBeforeInWords?, hcurrent]
  dsimp only [bind, Except.bind]
  cases hchecked : checked (current.toInt - months.toInt) with
  | none =>
    have hfar := checked_eq_none hchecked
    rw [monthsBefore?_eq_none (by omega)]
    rfl
  | some index =>
    have hn := checked_eq_some_iff.1 hchecked
    dsimp only
    cases hnarrow : narrow (index.toInt / 12) with
    | none =>
      have hfar := narrow_eq_none hnarrow
      rw [monthsBefore?_eq_none (by omega)]
      rfl
    | some year =>
      have hyear := narrow_eq_some hnarrow
      obtain ⟨month, hmonth, hm⟩ := exists_exact (n := index.toInt % 12 + 1) (by omega) (by omega)
      have hnat : month.toInt.toNat = (index.toInt % 12).toNat + 1 := by omega
      dsimp only
      rw [hmonth]
      dsimp only
      rw [monthsBefore?, hnat, hyear, hn, hindex]
      rfl

/-- **The step of days does not overflow.** -/
theorem daysBeforeInWords?_eq (d : Date) (count : Binary64) :
    d.daysBeforeInWords? count = .ok (d.daysBefore? count) := by
  rw [daysBeforeInWords?, daysBefore?]
  cases count.round with
  | none => rfl
  | some n =>
    dsimp only [bind, Except.bind, Option.bind]
    split
    · rename_i hn
      rw [maxDays] at hn
      have hword : (Int64.ofIntClamp n).toInt = n :=
        Int64.toInt_ofIntClamp (by rw [Int64.toInt_minValue]; omega)
          (by rw [Int64.toInt_maxValue]; omega)
      obtain ⟨seconds, hseconds, hs⟩ :=
        exists_exact (n := n * Timestamp.secondsPerDay) (by rw [Timestamp.secondsPerDay]; omega)
          (by rw [Timestamp.secondsPerDay]; omega)
      rw [hword, hseconds]
      dsimp only
      rw [hs, Int.mul_ediv_cancel _ (by decide)]
      rfl
    · rfl

/-- Whole months are stepped back alike where the word of a number has been cut to fit. -/
theorem monthsBefore?_toWord {count : Binary64} {whole : Int} (h : count.trunc = some whole)
    {factor : Int} (hfactor : 0 < factor) :
    d.monthsBefore? (count.toWord.toInt * factor) = d.monthsBefore? (whole * factor) := by
  rcases count.toWord_cases h with heq | ⟨hword, hwhole⟩ | ⟨hword, hwhole⟩
  · rw [heq]
  · rw [monthsBefore?_eq_none (.inl _), monthsBefore?_eq_none (.inl _)]
    · nlinarith
    · nlinarith
  · rw [monthsBefore?_eq_none (.inr _), monthsBefore?_eq_none (.inr _)]
    · nlinarith
    · nlinarith

theorem stepsBeforeInWords?_eq (d : Date) (months : Int64) (count : Binary64) :
    d.stepsBeforeInWords? months count =
      .ok ((d.monthsBefore? months.toInt).bind fun moved ↦ moved.daysBefore? count) := by
  rw [stepsBeforeInWords?, monthsBeforeInWords?_eq]
  cases d.monthsBefore? months.toInt with
  | none => rfl
  | some moved => exact moved.daysBeforeInWords?_eq count

/-- What is not a number, or infinite, leads to no day. -/
theorem bind_daysBefore?_fract {count : Binary64} (h : count.trunc = none) (c : Binary64)
    (moved : Option Date) : (moved.bind fun a ↦ a.daysBefore? (count.fract.mul c)) = none := by
  rw [Binary64.fract_eq_nan h]
  cases moved with
  | none => rfl
  | some a => rfl

theorem goBackInWords?_eq (d : Date) (count : Binary64) (unit : DateUnit) :
    d.goBackInWords? count unit = .ok (d.goBack? count unit) := by
  cases unit with
  | weeks => exact d.daysBeforeInWords?_eq _
  | days => exact d.daysBeforeInWords?_eq _
  | months =>
    rw [goBackInWords?, goBack?, stepsBeforeInWords?_eq]
    congr 1
    cases htrunc : count.trunc with
    | none => exact bind_daysBefore?_fract htrunc _ _
    | some whole =>
      have hword := monthsBefore?_toWord (d := d) htrunc Int.one_pos
      rw [Int.mul_one, Int.mul_one] at hword
      rw [hword]
      rfl
  | years =>
    rw [goBackInWords?, goBack?]
    cases hchecked : checked (count.toWord.toInt * 12) with
    | none =>
      have hfar := checked_eq_none hchecked
      cases htrunc : count.trunc with
      | none => rfl
      | some whole =>
        have hword := monthsBefore?_toWord (d := d) htrunc (show (0 : Int) < 12 by decide)
        rw [monthsBefore?_eq_none (by omega)] at hword
        rw [Option.bind_eq_bind, Option.bind_some, ← hword]
        rfl
    | some months =>
      dsimp only
      rw [stepsBeforeInWords?_eq, checked_eq_some_iff.1 hchecked]
      congr 1
      cases htrunc : count.trunc with
      | none => exact bind_daysBefore?_fract htrunc _ _
      | some whole =>
        rw [monthsBefore?_toWord htrunc (by decide)]
        rfl

/-- **Going back does not overflow**, by any number whatever, and in words it leads to the same
day. -/
theorem goBackInWords_eq (d : Date) (count : Binary64) (unit : DateUnit) :
    d.goBackInWords count unit = .ok (d.goBack count unit) := by
  rw [goBackInWords, goBackInWords?_eq]
  rfl

end Date

end SurveyQuests
