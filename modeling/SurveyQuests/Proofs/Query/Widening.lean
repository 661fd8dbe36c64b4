import SurveyQuests.Proofs.Calendar.LargerCounts
import SurveyQuests.Proofs.Query.Ripening

/-!
# Comparisons with days further back

Whoever makes the count of an `older` larger asks for elements that have not been surveyed for
longer, and expects fewer of them.  This is so wherever the larger count leads back further, and so
it is in years, in weeks and in days.  In months it is so but for counts that overshoot
(`Date.Overshoots`): from the first of March 99 hundredths of a month lead back to the 30th of
January, and a whole month to the first of February.

## What is here

* `Condition.holds_older_of_le` — what is older than a day is older than a later one;
* `larger_counts_lead_further` — **larger counts match less, but for the overshooting ones**;
* `not_larger_counts_lead_further` — the exception cannot be left out.
-/

set_option autoImplicit false

namespace SurveyQuests

theorem Condition.holds_older_of_le {target : DateTarget} {a b : DateAnchor} {day : Date}
    {e : Element} {policy : PinningPolicy} (hle : a.resolve day ≤ b.resolve day)
    (h : (date target .older a).holds e ⟨day, policy⟩ = true) :
    (date target .older b).holds e ⟨day, policy⟩ = true := by
  rw [holds_date_iff] at h ⊢
  obtain ⟨d, hd, htest⟩ := h
  refine ⟨d, hd, ?_⟩
  rw [Direction.test, Date.before_eq_true_iff] at htest ⊢
  exact htest.trans_le hle

/-- **Larger counts match less, but for the overshooting ones.**  A larger count leads back at least
as far if and only if it is not one of months that the smaller one overshoots.  Where that happens,
the step to the month before has 28 or 29 days, and the larger count leads to a day that is at most
two days later.  Where it does not happen, an element that is older by the larger count is older by
the smaller one. -/
theorem larger_counts_lead_further {m n : Binary64} (hm : Binary64.zero.le m = true)
    (h : m.le n = true) (day : Date) (unit : DateUnit) :
    (day.goBack n unit ≤ day.goBack m unit ↔ ¬ (unit = .months ∧ day.Overshoots m n)) ∧
      (day.Overshoots m n →
        (∃ whole a b, m.trunc = some whole ∧ day.monthsBefore? whole = some a ∧
          day.monthsBefore? (whole + 1) = some b ∧
          (a.dayNumber - b.dayNumber = 28 ∨ a.dayNumber - b.dayNumber = 29)) ∧
        (day.goBack n .months).dayNumber ≤ (day.goBack m .months).dayNumber + 2) ∧
      (¬ (unit = .months ∧ day.Overshoots m n) →
        ∀ (target : DateTarget) (e : Element) (policy : PinningPolicy),
          (Condition.date target .older (.relative n unit)).holds e ⟨day, policy⟩ = true →
            (Condition.date target .older (.relative m unit)).holds e ⟨day, policy⟩ = true) := by
  refine ⟨Date.goBack_le_goBack_iff hm h day unit, fun hover ↦ ?_, fun hnot target e policy ↦ ?_⟩
  · obtain ⟨hstep, -, hle⟩ := hover.bounds hm h
    exact ⟨hstep, hle⟩
  · exact Condition.holds_older_of_le ((Date.goBack_le_goBack_iff hm h day unit).2 hnot)

/-- From the first of March 99 hundredths of a month lead two days further back than a month, but 99
hundredths of a year no further than a year. -/
theorem larger_counts_lead_further_march :
    let day : Date := ⟨2023, 3, 1, by decide⟩
    let m : Binary64 := .ofRatio false 99 100
    let n : Binary64 := .ofRatio false 1 1
    Binary64.zero.le m = true ∧ m.le n = true ∧ day.Overshoots m n ∧
      (day.goBack n .months).dayNumber ≤ (day.goBack m .months).dayNumber + 2 ∧
      day.goBack n .years ≤ day.goBack m .years := by
  intro day m n
  have hm : Binary64.zero.le m = true := by decide +kernel
  have h : m.le n = true := by decide +kernel
  have hover : day.Overshoots m n := by
    by_contra hnot
    have hle := (larger_counts_lead_further hm h day .months).1.2 fun hover ↦ hnot hover.2
    exact absurd hle (by decide +kernel)
  refine ⟨hm, h, hover, ((larger_counts_lead_further hm h day .months).2.1 hover).2, ?_⟩
  exact (larger_counts_lead_further hm h day .years).1.2 fun hmonths ↦ nomatch hmonths.1

/-- The exception cannot be left out. -/
theorem not_larger_counts_lead_further :
    ¬ ∀ (day : Date) (unit : DateUnit) (m n : Binary64), m.isFinite = true → n.isFinite = true →
      Binary64.zero.le m = true → m.le n = true → day.goBack n unit ≤ day.goBack m unit := by
  intro h
  have hle := h ⟨2023, 3, 1, by decide⟩ .months (.ofRatio false 99 100) (.ofRatio false 1 1)
    (by decide +kernel) (by decide +kernel) (by decide +kernel) (by decide +kernel)
  exact absurd hle (by decide +kernel)

end SurveyQuests
