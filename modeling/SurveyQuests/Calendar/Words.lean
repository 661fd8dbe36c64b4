import SurveyQuests.Calendar.Arithmetic
import SurveyQuests.Calendar.Timestamp

/-!
# Going back in words

`Date.goBack` counts in integers of any size.  Here the same way back is gone in words of 64 bits,
step by step.  A step can have a result that fits no word.  Where this is provided for, there is no
date, just as for a month before the range.  Everywhere else it is an *overflow*: the step has no
result at all, and neither has what follows.

A number with a point becomes a word by its whole part, cut to the least or the greatest word where
it does not fit; what is not a number becomes zero.  Days are subtracted as a span of seconds.

## What is here

* `Word.checked`, `Word.exact` — a result that may not fit, and one that has to;
* `Binary64.toWord` — the whole part as a word;
* `Date.monthsBeforeInWords?`, `Date.daysBeforeInWords?`, `Date.stepsBeforeInWords?` — the steps;
* `Date.goBackInWords` — a number of any unit back.
-/

set_option autoImplicit false

namespace SurveyQuests

open Calendar

namespace Word

/-- The result of an operation fits no word, and this was not provided for. -/
structure Overflow where
deriving DecidableEq, Repr

/-- The word of a number, if it fits. -/
def checked (n : Int) : Option Int64 :=
  if h : Int64.minValue.toInt ≤ n ∧ n ≤ Int64.maxValue.toInt then some (.ofIntLE n h.1 h.2)
  else none

/-- The word of a number that has to fit. -/
def exact (n : Int) : Except Overflow Int64 :=
  match checked n with
  | some w => .ok w
  | none => .error ⟨⟩

/-- The word of half the width, if the number fits. -/
def narrow (n : Int) : Option Int32 :=
  if h : Int32.minValue.toInt ≤ n ∧ n ≤ Int32.maxValue.toInt then some (.ofIntLE n h.1 h.2)
  else none

theorem checked_eq_some_iff {n : Int} {w : Int64} : checked n = some w ↔ w.toInt = n := by
  unfold checked
  split
  · rw [Option.some_inj, ← Int64.toInt_inj, Int64.toInt_ofIntLE]
    exact eq_comm
  · rename_i h
    constructor
    · intro hnone
      cases hnone
    · rintro rfl
      exact absurd ⟨w.minValue_le_toInt, w.toInt_le⟩ h

end Word

open Word

/-- The whole part as a word: the least or the greatest one where it does not fit, and zero for what
is not a number. -/
def Binary64.toWord (x : Binary64) : Int64 :=
  match x.magnitude with
  | .nan => 0
  | .infinite => if x.negative then Int64.minValue else Int64.maxValue
  | .finite rank => .ofIntClamp (signedUnits x.negative (units rank / unitsPerOne))

namespace Date

/-- The month that a date lies in, counted from January of year 0. -/
def monthIndexInWords (d : Date) : Except Overflow Int64 := do
  let months ← exact (d.year * 12)
  let next ← exact (months.toInt + d.month)
  exact (next.toInt - 1)

/-- The same day of the month so many months earlier, or the last day of that month. -/
def monthsBeforeInWords? (d : Date) (months : Int64) : Except Overflow (Option Date) := do
  let current ← d.monthIndexInWords
  match checked (current.toInt - months.toInt) with
  | none => return none
  | some index =>
    match narrow (index.toInt / 12) with
    | none => return none
    | some year =>
      let month ← exact (index.toInt % 12 + 1)
      return ofCalendar? year.toInt month.toInt.toNat
        (min d.day (daysInMonth year.toInt month.toInt.toNat))

/-- So many days earlier, the count rounded first, and the days counted in seconds. -/
def daysBeforeInWords? (d : Date) (count : Binary64) : Except Overflow (Option Date) := do
  match count.round with
  | none => return none
  | some n =>
    if 0 ≤ n ∧ n ≤ maxDays then
      let seconds ← exact ((Int64.ofIntClamp n).toInt * Timestamp.secondsPerDay)
      return ofDayNumber? (d.dayNumber - seconds.toInt / Timestamp.secondsPerDay)
    else return none

/-- So many months earlier, and from there so many days. -/
def stepsBeforeInWords? (d : Date) (months : Int64) (count : Binary64) :
    Except Overflow (Option Date) := do
  match ← d.monthsBeforeInWords? months with
  | none => return none
  | some moved => moved.daysBeforeInWords? count

/-- A number of units back, if there is a date to be had. -/
def goBackInWords? (d : Date) (count : Binary64) : DateUnit → Except Overflow (Option Date)
  | .years =>
    match checked (count.toWord.toInt * 12) with
    | none => .ok none
    | some months => d.stepsBeforeInWords? months (count.fract.mul daysPerYear)
  | .months => d.stepsBeforeInWords? count.toWord (count.fract.mul daysPerMonth)
  | .weeks => d.daysBeforeInWords? (count.mul daysPerWeek)
  | .days => d.daysBeforeInWords? count

/-- **The day a number of units before another**, in words. -/
def goBackInWords (d : Date) (count : Binary64) (unit : DateUnit) : Except Overflow Date :=
  (d.goBackInWords? count unit).map (·.getD earliest)

end Date

end SurveyQuests
