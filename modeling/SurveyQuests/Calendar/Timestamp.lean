import SurveyQuests.Calendar.Span

/-!
# Points in time

A point in time is given by a local date, a time of day and the offset of the local clock from
universal time, or by the seconds since the first moment of 1970 in universal time.  For an edit of
an element only the day in universal time matters: `Timestamp.universalDay` and `unixDay` count it
in days from the first day of year 0, as `Date.dayNumber` does.

## What is here

* `Timestamp.read?` — reads date, time of day and offset, separated as in
  `2020-01-01T00:30:00+01:00`;
* `Timestamp.universalDay` — the number of the day in universal time;
* `unixDay` — the number of the day of a count of seconds.
-/

set_option autoImplicit false

namespace SurveyQuests

/-- A date and time of day on a local clock. -/
structure Timestamp where
  date : Date
  /-- Seconds since the start of the day. -/
  second : Nat
  /-- Minutes that the local clock is ahead of universal time. -/
  offset : Int

namespace Timestamp

/-- The number of seconds of a day. -/
def secondsPerDay : Int := 86400

/-- Seconds in universal time since the start of the first day of year 0. -/
def universalSecond (t : Timestamp) : Int :=
  t.date.dayNumber * secondsPerDay + t.second - t.offset * 60

/-- The number of the day in universal time. -/
def universalDay (t : Timestamp) : Int := t.universalSecond / secondsPerDay

/-- May a leap second follow: is this the last second of a month in universal time? -/
def precedesLeapSecond (t : Timestamp) : Bool :=
  t.universalSecond % secondsPerDay == secondsPerDay - 1 &&
    match Date.ofDayNumber? t.universalDay with
    | some d => d.day == Calendar.daysInMonth d.year d.month
    | none => false

/-! ## Reading -/

/-- Takes exactly `count` digits from the front of a text. -/
def takeDigits? (count : Nat) (cs : List Char) : Option (Nat × List Char) :=
  (exactDigits? count (cs.take count)).map fun n ↦ (n, cs.drop count)

/-- Takes a character from the front of a text. -/
def takeChar? (c : Char) : List Char → Option (List Char)
  | [] => none
  | d :: rest => if d = c then some rest else none

/-- Takes any one ASCII character from the front of a text. -/
def takeAscii? : List Char → Option (List Char)
  | [] => none
  | c :: rest => if c.toNat < 0x80 then some rest else none

/-- Takes a fraction of a second, a point and at least one digit, if a point is there. -/
def takeFraction? : List Char → Option (List Char)
  | '.' :: rest =>
    if (rest.takeWhile Char.isDigit).isEmpty then none else some (rest.dropWhile Char.isDigit)
  | cs => some cs

/-- Reads the offset that ends a timestamp: the letter `Z`, or a sign and hours and minutes with a
colon between them. -/
def readOffset? (cs : List Char) : Option Int :=
  match cs with
  | [] => none
  | c :: rest =>
    if c = 'Z' ∨ c = 'z' then if rest.isEmpty then some 0 else none
    else if c = '+' ∨ c = '-' then do
      let (hours, rest) ← takeDigits? 2 rest
      let rest ← takeChar? ':' rest
      let (minutes, rest) ← takeDigits? 2 rest
      if hours ≤ 23 ∧ minutes ≤ 59 ∧ rest.isEmpty then
        let total : Int := hours * 60 + minutes
        some (if c = '-' then -total else total)
      else none
    else none

/-- Reads a date, any ASCII character, a time of day and an offset.  The time may have a fraction
of a second, and it may be a leap second where one can occur; that counts as the second before. -/
def read? (cs : List Char) : Option Timestamp := do
  let (year, cs) ← takeDigits? 4 cs
  let cs ← takeChar? '-' cs
  let (month, cs) ← takeDigits? 2 cs
  let cs ← takeChar? '-' cs
  let (day, cs) ← takeDigits? 2 cs
  let cs ← takeAscii? cs
  let (hour, cs) ← takeDigits? 2 cs
  let cs ← takeChar? ':' cs
  let (minute, cs) ← takeDigits? 2 cs
  let cs ← takeChar? ':' cs
  let (second, cs) ← takeDigits? 2 cs
  let cs ← takeFraction? cs
  let offset ← readOffset? cs
  let date ← Date.ofCalendar? year month day
  if hour < 24 ∧ minute < 60 ∧ second ≤ 60 then
    let leap := second == 60
    let t : Timestamp := ⟨date, (hour * 60 + minute) * 60 + (if leap then 59 else second), offset⟩
    if leap && !t.precedesLeapSecond then none else some t
  else none

end Timestamp

/-- The number of the first day of 1970. -/
def unixEpochDay : Int := 719528

/-- The number of the day that lies a count of seconds after the start of 1970. -/
def unixDay (seconds : Int) : Int := unixEpochDay + seconds / Timestamp.secondsPerDay

end SurveyQuests
