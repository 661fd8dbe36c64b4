import SurveyQuests.Calendar.Date
import SurveyQuests.Number.Binary64

/-!
# Going back in time

`Date.goBack` is the day that lies a number of years, months, weeks or days before another.  Years
and months are steps of the calendar: they change month and year and keep the day of the month, or
take the last day of the month where it has fewer days.  Weeks and days are counts of days.  What a
number of years or months has behind its point becomes days, at 365.25 days a year and 30.5 days a
month.  A result before the range of dates, or one that cannot be had, is the first day of the
range.

## What is here

* `Date.monthsBefore?` — whole months back, with the day of the month cut to the month's length;
* `Date.daysBefore?` — a rounded number of days back;
* `Date.goBack` — a number of any unit back.
-/

set_option autoImplicit false

namespace SurveyQuests

open Calendar

/-- The units that a filter can count back in. -/
inductive DateUnit where
  | years
  | months
  | weeks
  | days
deriving DecidableEq, Repr

namespace Date

/-- The month that a date lies in, counted from January of year 0. -/
def monthIndex (d : Date) : Int := 12 * d.year + ((d.month : Int) - 1)

/-- The same day of the month so many months earlier, or the last day of that month if it has no
such day. -/
def monthsBefore? (d : Date) (months : Int) : Option Date :=
  let index := d.monthIndex - months
  let year := index / 12
  let month := (index % 12).toNat + 1
  ofCalendar? year month (min d.day (daysInMonth year month))

/-- The most days that a date is moved back at once; more than the whole range of dates holds. -/
def maxDays : Int := 10000000

/-- So many days earlier, the count rounded to the nearest integer first.  There is no such day
when the count is negative or beyond `maxDays`, or when the range of dates ends before it. -/
def daysBefore? (d : Date) (count : Binary64) : Option Date := do
  let n ← count.round
  if 0 ≤ n ∧ n ≤ maxDays then ofDayNumber? (d.dayNumber - n) else none

/-- The days that a year counts for where only part of it is meant. -/
def daysPerYear : Binary64 := .ofRatio false 1461 4

/-- The days that a month counts for where only part of it is meant. -/
def daysPerMonth : Binary64 := .ofRatio false 61 2

/-- The days of a week. -/
def daysPerWeek : Binary64 := .ofRatio false 7 1

/-- A number of units back, if there is a date to be had. -/
def goBack? (d : Date) (count : Binary64) : DateUnit → Option Date
  | .years => do
    let whole ← count.trunc
    let moved ← d.monthsBefore? (whole * 12)
    moved.daysBefore? (count.fract.mul daysPerYear)
  | .months => do
    let whole ← count.trunc
    let moved ← d.monthsBefore? whole
    moved.daysBefore? (count.fract.mul daysPerMonth)
  | .weeks => d.daysBefore? (count.mul daysPerWeek)
  | .days => d.daysBefore? count

/-- **The day a number of units before another**, or the first day of the range. -/
def goBack (d : Date) (count : Binary64) (unit : DateUnit) : Date :=
  (d.goBack? count unit).getD earliest

end Date

end SurveyQuests
