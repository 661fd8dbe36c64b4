import SurveyQuests.Calendar.Timestamp
import SurveyQuests.Json.Basic

/-!
# Reading the day of an edit

The day of the last edit of an element comes as a date, as a point in time with an offset, or as
seconds since 1970.  A text is taken for a date if it can be read as one, and for a point in time
otherwise; of the latter the day in universal time counts.  A point in time late on the last day of
the calendar can be in the next year in universal time: then there is no day to be had, and
`EditDate.beyondCalendar` says so.  A count of seconds that leads out of the calendar is unreadable
like any other odd value.

## What is here

* `EditDate` — what there is to be read;
* `EditDate.ofText`, `EditDate.ofJson`;
* `EditDate.ofFirst` — the first of several values that is readable.
-/

set_option autoImplicit false

namespace SurveyQuests

/-- What a value reads as, taken for the day of an edit. -/
inductive EditDate where
  | day (d : Date)
  | unreadable
  /-- A point in time whose day in universal time lies behind the last day of the calendar. -/
  | beyondCalendar
deriving DecidableEq

namespace EditDate

/-- Reads a text. -/
def ofText (s : String) : EditDate :=
  match Date.readIso? s.toList with
  | some d => day d
  | none =>
    match Timestamp.read? (Character.trim s.toList) with
    | none => unreadable
    | some t =>
      match Date.ofDayNumber? t.universalDay with
      | some d => day d
      | none => beyondCalendar

/-- Reads a count of seconds since the start of 1970. -/
def ofSeconds (seconds : Int) : EditDate :=
  match Date.ofDayNumber? (unixDay seconds) with
  | some d => day d
  | none => unreadable

/-- Reads a value: a text, or an integer of at most 64 bits, which counts seconds. -/
def ofJson : Json → EditDate
  | .string (some s) => ofText s
  | .number n =>
    match n.word? with
    | some seconds => ofSeconds seconds
    | none => unreadable
  | _ => unreadable

/-- Reads the first value that is readable; one beyond the calendar ends the search. -/
def ofFirst : List Json → EditDate
  | [] => unreadable
  | v :: vs =>
    match ofJson v with
    | unreadable => ofFirst vs
    | r => r

end EditDate

end SurveyQuests
