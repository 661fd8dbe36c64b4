import Mathlib.Data.List.Basic
import SurveyQuests.Proofs.Calendar.IsoText
import SurveyQuests.Proofs.Element.EditDate

/-!
# The ways to write the day of an edit

The day of an edit may be given by a text of what a clock showed, with the offset of the clock from
universal time, or by a number of seconds.  Both stand for an instant, and it is the instant that
counts: seconds are counted from the start of year 0 here, so that the day of an instant is known by
its number.  A reading of a clock (`ClockReading`) has parts of the right size, so its text is read
piece by piece; no white space stands at its ends, and it is too long for a date.

A record has at most two values for the day of its edit, and no other use is made of them.  So it is
read as the record without the two is, except that the day is known if one of them is readable.

## What is here

* `TimeOfDay`, `ClockOffset`, `ClockReading` — what a clock shows, its text and its instant;
* `Date.Contains`, `Date.ofDayNumber?_div_eq_some_iff` — the day of an instant;
* `Timestamp.read?_chars`, `EditDate.ofText_text` — texts;
* `Json.Numeral.word?_ofInt`, `EditDate.ofJson_ofInt` — numbers;
* `Element.HasDates`, `Element.ofJson_of_hasDates` — a record with and without its two values;
* `Element.encodings_agree` — **the encodings agree, and the first readable one counts**.
-/

set_option autoImplicit false

namespace SurveyQuests

open Timestamp (secondsPerDay)

/-! ## What a clock shows -/

/-- A time of day, perhaps with digits of a fraction of a second. -/
structure TimeOfDay where
  hour : Nat
  minute : Nat
  second : Nat
  fraction : List Char := []
  hour_lt : hour < 24
  minute_lt : minute < 60
  second_lt : second < 60
  isDigit_fraction : ∀ c ∈ fraction, c.isDigit = true

namespace TimeOfDay

/-- Whole seconds since the start of the day. -/
def seconds (t : TimeOfDay) : Nat := (t.hour * 60 + t.minute) * 60 + t.second

/-- The text of a fraction of a second: none, or a point and digits. -/
def fractionChars (t : TimeOfDay) : List Char :=
  if t.fraction.isEmpty then [] else '.' :: t.fraction

/-- The text of a time of day. -/
def chars (t : TimeOfDay) : List Char :=
  Date.padded 2 t.hour ++ ':' :: (Date.padded 2 t.minute ++ ':' ::
    (Date.padded 2 t.second ++ t.fractionChars))

end TimeOfDay

/-- How far a clock is ahead of universal time, or behind it. -/
structure ClockOffset where
  behind : Bool
  hours : Nat
  minutes : Nat
  hours_le : hours ≤ 23
  minutes_le : minutes ≤ 59

namespace ClockOffset

/-- Minutes that the clock is ahead of universal time. -/
def ahead (o : ClockOffset) : Int :=
  if o.behind then -((o.hours : Int) * 60 + o.minutes) else (o.hours : Int) * 60 + o.minutes

theorem ahead_lt (o : ClockOffset) : o.ahead < 1440 := by
  have hhours := o.hours_le
  have hminutes := o.minutes_le
  rw [ahead]
  split <;> omega

/-- The text of an offset. -/
def chars (o : ClockOffset) : List Char :=
  (if o.behind then '-' else '+') :: (Date.padded 2 o.hours ++ ':' :: Date.padded 2 o.minutes)

end ClockOffset

/-- What a clock shows on a day of one of the years from 0, and how it is set. -/
structure ClockReading where
  date : Date
  time : TimeOfDay
  offset : ClockOffset
  /-- What stands between date and time. -/
  separator : Char := 'T'
  year_nonneg : 0 ≤ date.year
  separator_lt : separator.toNat < 0x80

/-- The first day of 1970. -/
def Date.unixEpoch : Date := ⟨1970, 1, 1, by decide⟩

namespace ClockReading

/-- The characters of a reading, as in `2020-01-01T00:30:00+01:00`. -/
def chars (r : ClockReading) : List Char :=
  r.date.text.toList ++ r.separator :: (r.time.chars ++ r.offset.chars)

/-- The text of a reading. -/
def text (r : ClockReading) : String := String.ofList r.chars

/-- The instant of a reading: whole seconds in universal time since the start of year 0. -/
def instant (r : ClockReading) : Int :=
  r.date.dayNumber * secondsPerDay + r.time.seconds - r.offset.ahead * 60

/-- Whole seconds from the start of 1970 to the instant of a reading. -/
def unixSeconds (r : ClockReading) : Int :=
  r.instant - Date.unixEpoch.dayNumber * secondsPerDay

theorem earliest_le_instant (r : ClockReading) :
    Date.earliest.dayNumber * secondsPerDay ≤ r.instant := by
  have hday := Date.dayNumber_nonneg r.year_nonneg
  have hearliest : Date.earliest.dayNumber ≤ -1 := by decide
  have hahead := r.offset.ahead_lt
  rw [instant, secondsPerDay]
  omega

end ClockReading

/-! ## The day of an instant -/

namespace Date

/-- Does the instant lie on the day? -/
def Contains (d : Date) (instant : Int) : Prop :=
  d.dayNumber * secondsPerDay ≤ instant ∧ instant < (d.dayNumber + 1) * secondsPerDay

instance (d : Date) (instant : Int) : Decidable (d.Contains instant) := by
  unfold Contains
  infer_instance

theorem ofDayNumber?_div_eq_some_iff {d : Date} {instant : Int} :
    ofDayNumber? (instant / secondsPerDay) = some d ↔ d.Contains instant := by
  rw [ofDayNumber?_eq_some_iff, Contains, secondsPerDay]
  omega

/-- An instant from the start of the first day to the end of the last one lies on a day. -/
theorem exists_contains {instant : Int} (hmin : earliest.dayNumber * secondsPerDay ≤ instant)
    (hmax : instant < (latest.dayNumber + 1) * secondsPerDay) : ∃ d : Date, d.Contains instant := by
  have hday : earliest.dayNumber ≤ instant / secondsPerDay ∧
      instant / secondsPerDay ≤ latest.dayNumber := by
    rw [secondsPerDay] at hmin hmax ⊢
    omega
  obtain ⟨d, hd⟩ := exists_ofDayNumber?_iff.2 hday
  exact ⟨d, ofDayNumber?_div_eq_some_iff.1 hd⟩

end Date

/-- The instant of a number of seconds since the start of 1970. -/
theorem unixDay_eq (seconds : Int) :
    unixDay seconds = (Date.unixEpoch.dayNumber * secondsPerDay + seconds) / secondsPerDay := by
  have hepoch : unixEpochDay = Date.unixEpoch.dayNumber := by decide
  rw [unixDay, hepoch, secondsPerDay]
  omega

/-! ## Texts -/

namespace Timestamp

theorem takeDigits?_padded {count n : Nat} (hcount : 0 < count) (h : n < 10 ^ count)
    (rest : List Char) :
    takeDigits? count (Date.padded count n ++ rest) = some (n, rest) := by
  have hlength := Date.length_padded hcount h
  rw [takeDigits?, List.take_left' hlength, List.drop_left' hlength,
    Date.exactDigits?_padded hcount h]
  rfl

theorem takeChar?_cons (c : Char) (rest : List Char) : takeChar? c (c :: rest) = some rest :=
  if_pos rfl

theorem takeAscii?_cons {c : Char} (h : c.toNat < 0x80) (rest : List Char) :
    takeAscii? (c :: rest) = some rest :=
  if_pos h

theorem takeFraction?_append (t : TimeOfDay) {c : Char} (hdigit : c.isDigit = false)
    (hpoint : c ≠ '.') (rest : List Char) :
    takeFraction? (t.fractionChars ++ c :: rest) = some (c :: rest) := by
  rw [TimeOfDay.fractionChars]
  by_cases hnil : t.fraction = []
  · simp [hnil, takeFraction?, hpoint]
  · have hsplit : Decimal.splitDigits (t.fraction ++ c :: rest) = (t.fraction, c :: rest) :=
      splitDigits_append t.isDigit_fraction (by simp [hdigit])
    obtain ⟨htake, hdrop⟩ := Prod.mk.inj hsplit
    simp [hnil, takeFraction?, htake, hdrop]

theorem readOffset?_chars (o : ClockOffset) : readOffset? o.chars = some o.ahead := by
  have hhours := o.hours_le
  have hminutes := o.minutes_le
  have htwo {n : Nat} (h : n < 100) (rest : List Char) :
      takeDigits? 2 (Date.padded 2 n ++ rest) = some (n, rest) :=
    takeDigits?_padded (by omega) h rest
  have hlast := htwo (show o.minutes < 100 by omega) []
  rw [List.append_nil] at hlast
  rw [ClockOffset.chars, ClockOffset.ahead]
  cases o.behind <;>
    simp [readOffset?, htwo (show o.hours < 100 by omega), takeChar?_cons, hlast, hhours, hminutes]

/-- **The text of a reading is read as the reading.** -/
theorem read?_chars (r : ClockReading) :
    read? r.chars = some ⟨r.date, r.time.seconds, r.offset.ahead⟩ := by
  obtain ⟨hyear, hmonth, hday⟩ := r.date.parts_lt
  have hhour := r.time.hour_lt
  have hminute := r.time.minute_lt
  have hsecond := r.time.second_lt
  have hnat : ((r.date.year.natAbs : Nat) : Int) = r.date.year :=
    Int.natAbs_of_nonneg r.year_nonneg
  have hchars : r.chars = Date.padded 4 r.date.year.natAbs ++ '-' :: (Date.padded 2 r.date.month ++
      '-' :: (Date.padded 2 r.date.day ++ r.separator :: (Date.padded 2 r.time.hour ++
      ':' :: (Date.padded 2 r.time.minute ++ ':' :: (Date.padded 2 r.time.second ++
      (r.time.fractionChars ++ r.offset.chars)))))) := by
    rw [ClockReading.chars, Date.toList_text r.year_nonneg, TimeOfDay.chars]
    simp
  have hfraction : takeFraction? (r.time.fractionChars ++ r.offset.chars) =
      some r.offset.chars := by
    rw [ClockOffset.chars]
    cases r.offset.behind
    · exact takeFraction?_append r.time (by decide) (by decide) _
    · exact takeFraction?_append r.time (by decide) (by decide) _
  rw [hchars]
  refine Option.bind_eq_some_iff.2 ⟨_, takeDigits?_padded (by omega) hyear _, ?_⟩
  refine Option.bind_eq_some_iff.2 ⟨_, takeChar?_cons _ _, ?_⟩
  refine Option.bind_eq_some_iff.2 ⟨_, takeDigits?_padded (by omega) hmonth _, ?_⟩
  refine Option.bind_eq_some_iff.2 ⟨_, takeChar?_cons _ _, ?_⟩
  refine Option.bind_eq_some_iff.2 ⟨_, takeDigits?_padded (by omega) hday _, ?_⟩
  refine Option.bind_eq_some_iff.2 ⟨_, takeAscii?_cons r.separator_lt _, ?_⟩
  refine Option.bind_eq_some_iff.2 ⟨_, takeDigits?_padded (by omega) (by omega) _, ?_⟩
  refine Option.bind_eq_some_iff.2 ⟨_, takeChar?_cons _ _, ?_⟩
  refine Option.bind_eq_some_iff.2 ⟨_, takeDigits?_padded (by omega) (by omega) _, ?_⟩
  refine Option.bind_eq_some_iff.2 ⟨_, takeChar?_cons _ _, ?_⟩
  refine Option.bind_eq_some_iff.2 ⟨_, takeDigits?_padded (by omega) (by omega) _, ?_⟩
  refine Option.bind_eq_some_iff.2 ⟨_, hfraction, ?_⟩
  refine Option.bind_eq_some_iff.2 ⟨_, readOffset?_chars r.offset, ?_⟩
  refine Option.bind_eq_some_iff.2 ⟨r.date, ?_, ?_⟩
  · rw [hnat, Date.ofCalendar?_self]
  · have hleap : (r.time.second == 60) = false := beq_false_of_ne (by omega)
    rw [if_pos ⟨hhour, hminute, by omega⟩, hleap]
    rfl

end Timestamp

namespace ClockReading

variable (r : ClockReading)

/-- No white space stands at the ends of a reading. -/
theorem trim_chars : Character.trim r.chars = r.chars := by
  have hhead : ∃ back, r.chars = Date.padded 4 r.date.year.natAbs ++ back :=
    ⟨_, by rw [chars, Date.toList_text r.year_nonneg, List.append_assoc]⟩
  have hlast : ∃ front, r.chars = front ++ Date.padded 2 r.offset.minutes :=
    ⟨r.date.text.toList ++ r.separator :: (r.time.chars ++ (if r.offset.behind then '-' else '+') ::
      (Date.padded 2 r.offset.hours ++ [':'])), by simp [chars, ClockOffset.chars]⟩
  refine trim_of_ends ?_ ?_
  · obtain ⟨back, hback⟩ := hhead
    intro c hc
    rw [hback, List.head?_append_of_ne_nil _ Date.padded_ne_nil] at hc
    exact isSpace_of_isDigit (Date.isDigit_padded c (List.mem_of_mem_head? hc))
  · obtain ⟨front, hfront⟩ := hlast
    intro c hc
    rw [hfront, List.getLast?_append_of_ne_nil _ Date.padded_ne_nil] at hc
    exact isSpace_of_isDigit (Date.isDigit_padded c (List.mem_of_mem_getLast? hc))

end ClockReading

namespace EditDate

/-- **The text of a reading gives the day of its instant.** -/
theorem ofText_text {r : ClockReading} {d : Date} (h : d.Contains r.instant) :
    ofText r.text = .day d := by
  have hread : Timestamp.read? (Character.trim r.text.toList) =
      some ⟨r.date, r.time.seconds, r.offset.ahead⟩ := by
    rw [ClockReading.text, String.toList_ofList, r.trim_chars, Timestamp.read?_chars]
  have hday : Date.ofDayNumber?
      (Timestamp.universalDay ⟨r.date, r.time.seconds, r.offset.ahead⟩) = some d :=
    Date.ofDayNumber?_div_eq_some_iff.2 h
  rw [ofText, readIso?_eq_none hread, hread]
  dsimp only
  rw [hday]

end EditDate

/-! ## Numbers -/

namespace Json.Numeral

theorem integer?_ofInt (n : Int) : (ofInt n).integer? = some n := by
  rw [integer?, ofInt]
  simp only [List.isEmpty_nil, Option.isNone_none, Bool.and_self, if_true,
    Decimal.ofDigits_toDigits]
  by_cases h : n < 0
  · rw [if_pos (decide_eq_true h), if_neg (by omega), Option.some_inj]
    omega
  · rw [if_neg (by simpa using h), Option.some_inj]
    omega

theorem word?_ofInt {n : Int} (hmin : -(Nat.pow 2 63 : Int) ≤ n) (hmax : n < (Nat.pow 2 63 : Int)) :
    (ofInt n).word? = some n := by
  rw [word?, integer?_ofInt]
  exact if_pos ⟨hmin, hmax⟩

end Json.Numeral

namespace EditDate

/-- **A number of seconds gives the day of its instant.** -/
theorem ofJson_ofInt {d : Date} {seconds : Int}
    (h : d.Contains (Date.unixEpoch.dayNumber * secondsPerDay + seconds)) :
    ofJson (.ofInt seconds) = .day d := by
  have hword : (Json.Numeral.ofInt seconds).word? = some seconds := by
    have hmin := Date.le_iff.1 d.earliest_le
    have hmax := Date.le_iff.1 d.le_latest
    have hearliest : Date.earliest.dayNumber = -3652059 := by decide
    have hlatest : Date.latest.dayNumber = 3652424 := by decide
    have hepoch : Date.unixEpoch.dayNumber = 719528 := by decide
    have hpow : ((Nat.pow 2 63 : Nat) : Int) = 9223372036854775808 := by decide
    obtain ⟨hlow, hhigh⟩ := h
    rw [secondsPerDay] at hlow hhigh
    exact Json.Numeral.word?_ofInt (by omega) (by omega)
  have hday : Date.ofDayNumber? (unixDay seconds) = some d := by
    rw [unixDay_eq, Date.ofDayNumber?_div_eq_some_iff]
    exact h
  rw [Json.ofInt, ofJson, hword]
  delta ofSeconds
  dsimp only
  rw [hday]

end EditDate

/-! ## The first readable value -/

namespace EditDate

/-- The day that there is to be read. -/
def day? : EditDate → Option Date
  | day d => some d
  | unreadable => none
  | beyondCalendar => none

/-- The day that a value gives, if there is a readable one. -/
def readDay? (v : Option Json) : Option Date := v.bind fun v ↦ (ofJson v).day?

theorem ofFirst_toList (v : Option Json) :
    ofFirst v.toList = (v.map ofJson).getD unreadable := by
  rcases v with _ | v
  · rfl
  · rw [Option.toList_some, ofFirst]
    cases h : ofJson v <;> simp [ofFirst, h]

/-- Of two values the second one counts only if the first is not readable. -/
theorem ofFirst_append_toList {edited timestamp : Option Json} (hedited : ∀ v ∈ edited, ¬ IsLate v)
    (htimestamp : readDay? edited = none → ∀ v ∈ timestamp, ¬ IsLate v) :
    ofFirst (edited.toList ++ timestamp.toList) ≠ beyondCalendar ∧
      (ofFirst (edited.toList ++ timestamp.toList)).day? =
        (readDay? edited).or (readDay? timestamp) := by
  have hlast : readDay? edited = none → ofFirst timestamp.toList ≠ beyondCalendar ∧
      (ofFirst timestamp.toList).day? = readDay? timestamp := by
    intro hnone
    rw [ofFirst_toList]
    rcases timestamp with _ | v
    · exact ⟨EditDate.noConfusion, rfl⟩
    · exact ⟨mt ofJson_eq_beyondCalendar_iff.1 (htimestamp hnone v rfl), rfl⟩
  rcases edited with _ | v
  · exact hlast rfl
  · have hv := mt ofJson_eq_beyondCalendar_iff.1 (hedited v rfl)
    rw [Option.toList_some, List.singleton_append, ofFirst]
    cases hread : ofJson v with
    | day d => exact ⟨EditDate.noConfusion, by simp [readDay?, hread, day?]⟩
    | unreadable =>
      have hnone : readDay? (some v) = none := by simp [readDay?, hread, day?]
      rw [hnone, Option.none_or]
      exact hlast hnone
    | beyondCalendar => exact absurd hread hv

end EditDate

namespace Element

/-! ## Records with and without the day of an edit -/

variable {record bare : Json} {edited timestamp : Option Json} {parts : Parts}

/-- Is it the name of a value for the day of an edit? -/
def isDateName (name : Option String) : Bool := name = some "edited" || name = some "timestamp"

/-- The record has these values for the day of the edit, each of them once or not at all, and is
the bare record without them. -/
inductive HasDates : Json → Json → Option Json → Option Json → Prop
  | object {members : List (Option String × Json)} {edited timestamp : Option Json} :
      Json.fields "edited" members = edited.toList →
      Json.fields "timestamp" members = timestamp.toList →
      HasDates (.object members) (.object (members.filter fun m ↦ !isDateName m.1)) edited
        timestamp
  | array {kind : Json} {rest : List Json} : rest.length ≤ 4 →
      HasDates (.array (kind :: rest)) (.array (kind :: rest.take 2)) rest[2]? rest[3]?

theorem optionalField?_eq_some_iff {name : String} {members : List (Option String × Json)}
    {value : Option Json} :
    optionalField? name members = some value ↔ Json.fields name members = value.toList := by
  rw [optionalField?]
  rcases Json.fields name members with _ | ⟨v, _ | ⟨w, vs⟩⟩ <;> cases value <;> simp

theorem fields_filter {name : String} (members : List (Option String × Json))
    (h : isDateName (some name) = false) :
    Json.fields name (members.filter fun m ↦ !isDateName m.1) = Json.fields name members := by
  rw [Json.fields, List.filterMap_filter, Json.fields]
  refine List.filterMap_congr fun m _ ↦ ?_
  by_cases hm : m.1 = some name
  · simp [hm, h]
  · simp [hm]

theorem fields_filter_of_isDateName {name : String} (members : List (Option String × Json))
    (h : isDateName (some name) = true) :
    Json.fields name (members.filter fun m ↦ !isDateName m.1) = [] := by
  rw [Json.fields, List.filterMap_eq_nil_iff]
  intro m hm
  refine if_neg fun hname ↦ ?_
  have hkept := (List.mem_filter.1 hm).2
  rw [hname, h] at hkept
  cases hkept

/-- Names that are broken are no names of values for the day of an edit. -/
theorem all_isSome_filter (members : List (Option String × Json)) :
    (members.filter fun m ↦ !isDateName m.1).all (·.1.isSome) = members.all (·.1.isSome) := by
  rw [List.all_filter]
  congr 1
  funext ⟨name, v⟩
  cases name <;> simp [isDateName]

/-- **A record has the parts of the bare one**, and its values for the day of the edit. -/
theorem Parts.ofJson?_of_hasDates (h : HasDates record bare edited timestamp) :
    Parts.ofJson? record =
        (Parts.ofJson? bare).map ({ · with dates := edited.toList ++ timestamp.toList }) ∧
      ∀ parts ∈ Parts.ofJson? bare, parts.dates = [] := by
  cases h with
  | @object members edited timestamp hedited htimestamp =>
    have hfield : ∀ name, isDateName (some name) = false →
        optionalField? name (members.filter fun m ↦ !isDateName m.1) =
          optionalField? name members := by
      intro name hname
      rw [optionalField?, optionalField?, fields_filter members hname]
    have hdate : ∀ name, isDateName (some name) = true →
        optionalField? name (members.filter fun m ↦ !isDateName m.1) = some none := by
      intro name hname
      exact optionalField?_eq_some_iff.2 (fields_filter_of_isDateName members hname)
    rw [Parts.ofJson?, Parts.ofJson?, hfield "type" (by decide), hfield "id" (by decide),
      hfield "tags" (by decide), hdate "edited" (by decide), hdate "timestamp" (by decide),
      optionalField?_eq_some_iff.2 hedited, optionalField?_eq_some_iff.2 htimestamp,
      all_isSome_filter]
    rcases optionalField? "type" members with _ | _ | kind <;>
      rcases optionalField? "id" members with _ | id <;>
      rcases optionalField? "tags" members with _ | tags <;>
      by_cases hall : members.all (·.1.isSome) = true <;> simp [hall]
  | @array kind rest hlength =>
    have htake : (rest.take 2).length ≤ 4 := by
      rw [List.length_take]
      omega
    rw [Parts.ofJson?, Parts.ofJson?, if_pos hlength, if_pos htake]
    match rest, hlength with
    | [], _ | [_], _ | [_, _], _ | [_, _, _], _ | [_, _, _, _], _ => simp

/-- Without a late value the day of the edit does not decide whether there is an element. -/
theorem ofJson_of_parts {dates : List Json} (hbare : Parts.ofJson? bare = some parts)
    (hparts : Parts.ofJson? record = some { parts with dates }) (hnone : parts.dates = [])
    (hdates : dates.all isAdmissible = true)
    (hlate : EditDate.ofFirst dates ≠ .beyondCalendar) :
    ofJson record =
      (ofJson bare).map ({ · with edited := (EditDate.ofFirst dates).day? }) := by
  rw [ofJson, ofJson, hparts, hbare]
  dsimp only
  cases readKind? parts.kind with
  | none => rfl
  | some kind =>
    cases (parts.id.map readId?).getD (some 0) with
    | none => rfl
    | some id =>
      cases (parts.tags.map readTags?).getD (some .empty) with
      | none => rfl
      | some tags =>
        rw [hdates, hnone]
        cases hfirst : EditDate.ofFirst dates with
        | day d => rfl
        | unreadable => rfl
        | beyondCalendar => exact absurd hfirst hlate

/-- **A record is read as the bare one is**, with the first readable day. -/
theorem ofJson_of_hasDates (h : HasDates record bare edited timestamp)
    (hadmissible : ∀ v ∈ edited.toList ++ timestamp.toList, isAdmissible v = true)
    (hedited : ∀ v ∈ edited, ¬ EditDate.IsLate v)
    (htimestamp : EditDate.readDay? edited = none → ∀ v ∈ timestamp, ¬ EditDate.IsLate v) :
    ofJson record = (ofJson bare).map
      ({ · with edited := (EditDate.readDay? edited).or (EditDate.readDay? timestamp) }) := by
  obtain ⟨hrecord, hnone⟩ := Parts.ofJson?_of_hasDates h
  obtain ⟨hlate, hday⟩ := EditDate.ofFirst_append_toList hedited htimestamp
  cases hbare : Parts.ofJson? bare with
  | none =>
    rw [hbare, Option.map_none] at hrecord
    rw [ofJson, ofJson, hrecord, hbare]
    rfl
  | some parts =>
    rw [hbare, Option.map_some] at hrecord
    rw [ofJson_of_parts hbare hrecord (hnone parts hbare) (List.all_eq_true.2 hadmissible) hlate,
      hday]

/-- **The encodings of the day of an edit agree, and the first readable one counts.**  What a clock
shows at an instant up to the end of the last day gives the day of the instant, and so does the
number of its seconds.  A record in which any two values, either of them or none, stand for the day
of its edit is read as the record without them is, and has the day that `edited` gives, or else the
one that `timestamp` gives, or else none; unless the one that counts is a late point in time. -/
theorem encodings_agree :
    (∀ r : ClockReading, r.instant < (Date.latest.dayNumber + 1) * secondsPerDay →
      ∃ d : Date, d.Contains r.instant ∧ EditDate.ofText r.text = .day d ∧
        EditDate.ofJson (.ofInt r.unixSeconds) = .day d) ∧
      ∀ (record bare : Json) (edited timestamp : Option Json),
        HasDates record bare edited timestamp →
        (∀ v ∈ edited.toList ++ timestamp.toList, isAdmissible v = true) →
        (∀ v ∈ edited, ¬ EditDate.IsLate v) →
        (EditDate.readDay? edited = none → ∀ v ∈ timestamp, ¬ EditDate.IsLate v) →
        ofJson record = (ofJson bare).map
          ({ · with edited := (EditDate.readDay? edited).or (EditDate.readDay? timestamp) }) := by
  refine ⟨fun r hlast ↦ ?_, fun record bare edited timestamp ↦ ofJson_of_hasDates⟩
  obtain ⟨d, hd⟩ := Date.exists_contains r.earliest_le_instant hlast
  refine ⟨d, hd, EditDate.ofText_text hd, EditDate.ofJson_ofInt ?_⟩
  rw [ClockReading.unixSeconds, add_sub_cancel]
  exact hd

/-- Half past eleven at night on a clock two hours behind, after a value that is no day. -/
theorem encodings_agree_new_year :
    let r : ClockReading :=
      { date := ⟨2019, 12, 31, by decide⟩
        time := { hour := 23, minute := 30, second := 0, hour_lt := by decide,
                  minute_lt := by decide, second_lt := by decide, isDigit_fraction := by simp }
        offset := ⟨true, 2, 0, by decide, by decide⟩
        year_nonneg := by decide
        separator_lt := by decide }
    let day : Date := ⟨2020, 1, 1, by decide⟩
    let odd : Json := .array [.text "2021"]
    let record : Json := .record
      [("type", .text "node"), ("edited", odd), ("timestamp", .text r.text)]
    r.text = "2019-12-31T23:30:00-02:00" ∧ r.unixSeconds = 1577842200 ∧
      EditDate.ofText r.text = .day day ∧ EditDate.ofJson (.ofInt r.unixSeconds) = .day day ∧
      (ofJson record).map Element.edited = .ok (some day) := by
  intro r day odd record
  have htext : r.text = "2019-12-31T23:30:00-02:00" := by decide
  have hday : day.Contains r.instant := by decide
  obtain ⟨hclock, hrecord⟩ := encodings_agree
  obtain ⟨d, hd, htextDay, hseconds⟩ := hclock r (by decide)
  obtain rfl : d = day := Option.some.inj <|
    (Date.ofDayNumber?_div_eq_some_iff.2 hd).symm.trans (Date.ofDayNumber?_div_eq_some_iff.2 hday)
  have hodd : EditDate.readDay? (some odd) = none := rfl
  have hreadable : EditDate.readDay? (some (.text r.text)) = some day := by
    simp [EditDate.readDay?, Json.text, EditDate.ofJson, htextDay, EditDate.day?]
  have hbare : ofJson (.record [("type", .text "node")]) = .ok { kind := .node } := rfl
  have hnotLate : ∀ v, EditDate.ofJson v ≠ .beyondCalendar → ¬ EditDate.IsLate v :=
    fun v ↦ mt EditDate.ofJson_eq_beyondCalendar_iff.2
  have hread := hrecord record (.record [("type", .text "node")]) (some odd) (some (.text r.text))
    (.object rfl rfl) (by rw [htext]; decide) ?_ ?_
  · refine ⟨htext, by decide, htextDay, hseconds, ?_⟩
    rw [hread, hbare, hodd, hreadable]
    rfl
  · intro v hv
    obtain rfl := Option.some.inj hv
    exact hnotLate odd EditDate.noConfusion
  · intro _ v hv
    obtain rfl := Option.some.inj hv
    refine hnotLate (.text r.text) ?_
    rw [Json.text, EditDate.ofJson, htextDay]
    exact EditDate.noConfusion

end Element

end SurveyQuests
