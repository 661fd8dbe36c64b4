/-!
# Calendar days

A `Date` is a day of the Gregorian calendar, extended backwards without a break, in a year from
-9999 to 9999.  Days are counted from the first day of year 0: `Date.dayNumber` gives the count and
`Date.ofDayNumber?` goes back.  One day is before another when its number is the smaller one.

## What is here

* `Calendar.isLeap`, `Calendar.daysInMonth` — the rules of the calendar;
* `Date`, `Date.ofCalendar?` — a day from year, month and day of the month;
* `Date.dayNumber`, `Date.ofDayNumber?` — the count of days and its inverse;
* `Date.earliest`, `Date.latest` — the ends of the range;
* `Date.text` — year, month and day with dashes between them.
-/

set_option autoImplicit false

namespace SurveyQuests

namespace Calendar

/-- Every fourth year is a leap year, but of the full centuries only every fourth. -/
def isLeap (year : Int) : Bool :=
  year % 4 == 0 && (year % 100 != 0 || year % 400 == 0)

/-- The number of days of a month, 1 standing for January. -/
def daysInMonth (year : Int) (month : Nat) : Nat :=
  if month = 2 then if isLeap year then 29 else 28
  else if month = 4 ∨ month = 6 ∨ month = 9 ∨ month = 11 then 30
  else 31

theorem one_le_daysInMonth (year : Int) (month : Nat) : 1 ≤ daysInMonth year month := by
  unfold daysInMonth
  split
  · split <;> omega
  · split <;> omega

theorem daysInMonth_le (year : Int) (month : Nat) : daysInMonth year month ≤ 31 := by
  unfold daysInMonth
  split
  · split <;> omega
  · split <;> omega

/-- The first and the last year that dates can have. -/
def minYear : Int := -9999

/-- The last year that dates can have. -/
def maxYear : Int := 9999

/-- Do year, month and day name a day of the calendar, within the range of years? -/
def IsDay (year : Int) (month day : Nat) : Prop :=
  (minYear ≤ year ∧ year ≤ maxYear) ∧ (1 ≤ month ∧ month ≤ 12) ∧
    1 ≤ day ∧ day ≤ daysInMonth year month

instance (year : Int) (month day : Nat) : Decidable (IsDay year month day) := by
  unfold IsDay
  infer_instance

/-- The number of the first day of a year. -/
def yearStart (year : Int) : Int :=
  365 * year + (year + 3) / 4 - (year + 99) / 100 + (year + 399) / 400

/-- How many days of a year lie before a month. -/
def daysBeforeMonth (year : Int) : Nat → Nat
  | 0 | 1 => 0
  | month + 2 => daysBeforeMonth year (month + 1) + daysInMonth year (month + 1)

/-- The year that a day number falls in. The average length of a year gives an estimate that is
off by one at most. -/
def yearOf (n : Int) : Int :=
  let guess := n * 400 / 146097
  if n < yearStart guess then guess - 1
  else if yearStart (guess + 1) ≤ n then guess + 1
  else guess

/-- Month and day of the month of a day of the year, counted from zero; `left` months are looked
at, starting with `month`. -/
def monthOf (year : Int) (month : Nat) : Nat → Nat → Nat × Nat
  | 0, n => (month, n + 1)
  | left + 1, n =>
    if n < daysInMonth year month then (month, n + 1)
    else monthOf year (month + 1) left (n - daysInMonth year month)

end Calendar

open Calendar

/-- A day of the calendar. -/
structure Date where
  year : Int
  /-- The month, 1 standing for January. -/
  month : Nat
  /-- The day of the month, counted from 1. -/
  day : Nat
  isDay : IsDay year month day
deriving DecidableEq

namespace Date

/-- The day of a year, a month and a day of the month, if there is one. -/
def ofCalendar? (year : Int) (month day : Nat) : Option Date :=
  if h : IsDay year month day then some ⟨year, month, day, h⟩ else none

theorem ofCalendar?_eq_some_iff {year : Int} {month day : Nat} {d : Date} :
    ofCalendar? year month day = some d ↔ d.year = year ∧ d.month = month ∧ d.day = day := by
  unfold ofCalendar?
  split
  · constructor
    · rintro h
      cases h
      exact ⟨rfl, rfl, rfl⟩
    · rintro ⟨rfl, rfl, rfl⟩
      rfl
  · rename_i h
    constructor
    · intro h'
      cases h'
    · rintro ⟨rfl, rfl, rfl⟩
      exact absurd d.isDay h

@[simp] theorem ofCalendar?_self (d : Date) : ofCalendar? d.year d.month d.day = some d :=
  ofCalendar?_eq_some_iff.2 ⟨rfl, rfl, rfl⟩

/-- The first day of the range. -/
def earliest : Date := ⟨-9999, 1, 1, by decide⟩

/-- The last day of the range. -/
def latest : Date := ⟨9999, 12, 31, by decide⟩

instance : Inhabited Date := ⟨earliest⟩

/-! ## Counting days -/

/-- How many days lie between the first day of year 0 and this one. -/
def dayNumber (d : Date) : Int :=
  yearStart d.year + (daysBeforeMonth d.year d.month : Int) + ((d.day : Int) - 1)

/-- The day with a number, if it is in the range of years. -/
def ofDayNumber? (n : Int) : Option Date :=
  let year := yearOf n
  let (month, day) := monthOf year 1 11 (n - yearStart year).toNat
  ofCalendar? year month day

/-! ## Order -/

/-- Is the first day before the second one? -/
def before (a b : Date) : Bool := decide (a.dayNumber < b.dayNumber)

/-- The later one of two days. -/
def later (a b : Date) : Date := if a.before b then b else a

/-- The latest day of a list, if there is one. -/
def latestOf? : List Date → Option Date
  | [] => none
  | d :: ds => some (ds.foldl later d)

/-! ## Text -/

/-- The decimal digits of a number, with zeros in front up to a width. -/
def padded (width n : Nat) : List Char :=
  let ds := Nat.toDigits 10 n
  List.replicate (width - ds.length) '0' ++ ds

/-- Year, month and day with dashes between them: four digits and perhaps a minus sign for the
year, two digits for each of the others. -/
def text (d : Date) : String :=
  String.ofList <|
    (if d.year < 0 then ['-'] else []) ++ padded 4 d.year.natAbs ++
      '-' :: padded 2 d.month ++ '-' :: padded 2 d.day

end Date

end SurveyQuests
