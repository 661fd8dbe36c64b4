import SurveyQuests.Calendar.Date
import SurveyQuests.Number.Decimal
import SurveyQuests.Unicode.Character

/-!
# Dates that may be partial

The date that a survey leaves in a tag is a full one, a year and a month, or a year alone.  Such a
text names a *span* of days: the one day, the days of the month, or the days of the year.  To be
compared with another day a span is *pinned* to one of its days; which one is a matter of policy,
and under the cautious policy also of the direction of the comparison.

## What is here

* `DateSpan.read?` — the days that a text names;
* `Date.readIso?` — the day that a full date names;
* `PinningPolicy.pin` — the day of a span that is compared.
-/

set_option autoImplicit false

namespace SurveyQuests

/-- Days from the earliest to the latest one, both included. -/
structure DateSpan where
  earliest : Date
  latest : Date
deriving DecidableEq

/-- Splits a text at every occurrence of a character. -/
def splitAtEach (sep : Char) : List Char → List (List Char)
  | [] => [[]]
  | c :: cs =>
    if c = sep then [] :: splitAtEach sep cs
    else match splitAtEach sep cs with
      | [] => [[c]]
      | part :: parts => (c :: part) :: parts

/-- The number that a text of exactly `count` ASCII digits stands for. -/
def exactDigits? (count : Nat) (cs : List Char) : Option Nat :=
  if cs.length = count ∧ cs.all Char.isDigit then some (Decimal.ofDigits cs) else none

namespace DateSpan

/-- The span of a single day. -/
def single (d : Date) : DateSpan := ⟨d, d⟩

/-- The days of a year. -/
def ofYear? (year : Int) : Option DateSpan := do
  let first ← Date.ofCalendar? year 1 1
  let last ← Date.ofCalendar? year 12 31
  some ⟨first, last⟩

/-- The days of a month. -/
def ofMonth? (year : Int) (month : Nat) : Option DateSpan := do
  let first ← Date.ofCalendar? year month 1
  let last ← Date.ofCalendar? year month (Calendar.daysInMonth year month)
  some ⟨first, last⟩

/-- Reads a year of four digits, which may be followed by a month and a day of two digits each,
with dashes between them.  White space around the text does not count. -/
def read? (cs : List Char) : Option DateSpan :=
  match splitAtEach '-' (Character.trim cs) with
  | [year] => do
    ofYear? (← exactDigits? 4 year)
  | [year, month] => do
    ofMonth? (← exactDigits? 4 year) (← exactDigits? 2 month)
  | [year, month, day] => do
    let d ← Date.ofCalendar? (← exactDigits? 4 year) (← exactDigits? 2 month)
      (← exactDigits? 2 day)
    some (single d)
  | _ => none

end DateSpan

/-- Reads a full date. -/
def Date.readIso? (cs : List Char) : Option Date := do
  let span ← DateSpan.read? cs
  if span.earliest = span.latest then some span.earliest else none

/-! ## Pinning a span to a day -/

/-- The directions of a comparison with a day. -/
inductive Direction where
  | older
  | newer
deriving DecidableEq, Repr

/-- How a span of several days is pinned to one day before it is compared. -/
inductive PinningPolicy where
  /-- The latest day for `older` and the earliest for `newer`, so that the comparison holds only if
  it holds for every day of the span. -/
  | conservative
  /-- Always the first day. -/
  | earliestDay
  /-- Always the last day. -/
  | latestDay
deriving DecidableEq, Repr

namespace PinningPolicy

instance : Inhabited PinningPolicy := ⟨.conservative⟩

/-- The day of a span that is compared. -/
def pin (policy : PinningPolicy) (direction : Direction) (span : DateSpan) : Date :=
  match policy, direction with
  | .earliestDay, _ => span.earliest
  | .latestDay, _ => span.latest
  | .conservative, .older => span.latest
  | .conservative, .newer => span.earliest

/-- The name of a policy in a catalog. -/
def name : PinningPolicy → String
  | .conservative => "conservative"
  | .earliestDay => "earliest_day"
  | .latestDay => "latest_day"

/-- The policy with a name. -/
def ofName? (s : String) : Option PinningPolicy :=
  [conservative, earliestDay, latestDay].find? fun p ↦ p.name == s

end PinningPolicy

end SurveyQuests
