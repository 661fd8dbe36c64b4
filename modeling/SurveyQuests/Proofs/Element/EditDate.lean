import SurveyQuests.Element.Reader
import SurveyQuests.Proofs.Calendar.DayNumber

/-!
# Edits beyond the calendar

There is one kind of value that no day of an edit can be had from, not even an unknown one: a point
in time on the last day of the calendar whose local clock is so far behind universal time that the
next year has begun there.  Such a point is *late*.  Every other text, and every number, gives a day
or is unreadable.  A record ends without an element in this way exactly if it is otherwise in order
and its first readable value for the day of the edit is late.

## What is here

* `Timestamp.IsLate`, `Timestamp.ofDayNumber?_eq_none_iff` — the days in universal time;
* `EditDate.IsLate`, `EditDate.ofJson_eq_beyondCalendar_iff` — values;
* `Element.HasLateEdit`, `Element.ofLine_eq_beyondCalendar_iff` — **lines**.
-/

set_option autoImplicit false

namespace SurveyQuests

/-! ## Lengths of dates and of points in time -/

/-- The parts of a text make it up, with a separator between any two of them. -/
theorem length_splitAtEach (sep : Char) (cs : List Char) :
    ((splitAtEach sep cs).map List.length).sum + (splitAtEach sep cs).length = cs.length + 1 := by
  induction cs with
  | nil => rfl
  | cons c cs ih =>
    rw [splitAtEach]
    split
    · rw [List.map_cons, List.sum_cons, List.length_nil, List.length_cons, List.length_cons]
      omega
    · cases hparts : splitAtEach sep cs with
      | nil =>
        rw [hparts] at ih
        cases ih
      | cons part parts =>
        rw [hparts] at ih
        simp only [List.map_cons, List.sum_cons, List.length_cons] at ih ⊢
        omega

theorem length_of_exactDigits? {count n : Nat} {cs : List Char}
    (h : exactDigits? count cs = some n) : cs.length = count := by
  rw [exactDigits?] at h
  split at h
  · rename_i hdigits
    exact hdigits.1
  · cases h

/-- A text that names a span of days is short. -/
theorem DateSpan.length_trim_le {cs : List Char} {s : DateSpan} (h : read? cs = some s) :
    (Character.trim cs).length ≤ 10 := by
  have hlength := length_splitAtEach '-' (Character.trim cs)
  rw [read?] at h
  split at h
  · rename_i year hparts
    obtain ⟨y, hyear, -⟩ := Option.bind_eq_some_iff.1 h
    simp [hparts, length_of_exactDigits? hyear] at hlength
    omega
  · rename_i year month hparts
    obtain ⟨y, hyear, h⟩ := Option.bind_eq_some_iff.1 h
    obtain ⟨m, hmonth, -⟩ := Option.bind_eq_some_iff.1 h
    simp [hparts, length_of_exactDigits? hyear, length_of_exactDigits? hmonth] at hlength
    omega
  · rename_i year month day hparts
    obtain ⟨y, hyear, h⟩ := Option.bind_eq_some_iff.1 h
    obtain ⟨m, hmonth, h⟩ := Option.bind_eq_some_iff.1 h
    obtain ⟨d, hday, -⟩ := Option.bind_eq_some_iff.1 h
    simp [hparts, length_of_exactDigits? hyear, length_of_exactDigits? hmonth,
      length_of_exactDigits? hday] at hlength
    omega
  · cases h

namespace Timestamp

theorem length_of_takeDigits? {count n : Nat} {cs rest : List Char}
    (h : takeDigits? count cs = some (n, rest)) : cs.length = count + rest.length := by
  obtain ⟨m, hm, hrest⟩ := Option.map_eq_some_iff.1 h
  cases hrest
  have hlength := length_of_exactDigits? hm
  rw [List.length_take] at hlength
  rw [List.length_drop]
  omega

theorem length_of_takeChar? {c : Char} {cs rest : List Char} (h : takeChar? c cs = some rest) :
    cs.length = rest.length + 1 := by
  cases cs with
  | nil => cases h
  | cons d cs =>
    rw [takeChar?] at h
    split at h
    · cases h
      rfl
    · cases h

theorem length_of_takeAscii? {cs rest : List Char} (h : takeAscii? cs = some rest) :
    cs.length = rest.length + 1 := by
  cases cs with
  | nil => cases h
  | cons c cs =>
    rw [takeAscii?] at h
    split at h
    · cases h
      rfl
    · cases h

/-- An offset is less than a day. -/
theorem offset_bounds {cs : List Char} {offset : Int} (h : readOffset? cs = some offset) :
    -1440 < offset ∧ offset < 1440 := by
  cases cs with
  | nil => cases h
  | cons c rest =>
    rw [readOffset?] at h
    split at h
    · split at h
      · cases h
        decide
      · cases h
    · split at h
      · obtain ⟨⟨hours, rest⟩, -, h⟩ := Option.bind_eq_some_iff.1 h
        obtain ⟨rest, -, h⟩ := Option.bind_eq_some_iff.1 h
        obtain ⟨⟨minutes, rest⟩, -, h⟩ := Option.bind_eq_some_iff.1 h
        dsimp only at h
        split at h
        · rename_i hbounds
          cases h
          split <;> omega
        · cases h
      · cases h

/-- What a text must be like to be read as a point in time. -/
theorem read?_bounds {cs : List Char} {t : Timestamp} (h : read? cs = some t) :
    10 < cs.length ∧ 0 ≤ t.date.year ∧ t.second < 86400 ∧ -1440 < t.offset ∧ t.offset < 1440 := by
  obtain ⟨⟨year, cs₁⟩, h₁, h⟩ := Option.bind_eq_some_iff.1 h
  obtain ⟨cs₂, h₂, h⟩ := Option.bind_eq_some_iff.1 h
  obtain ⟨⟨month, cs₃⟩, h₃, h⟩ := Option.bind_eq_some_iff.1 h
  obtain ⟨cs₄, h₄, h⟩ := Option.bind_eq_some_iff.1 h
  obtain ⟨⟨day, cs₅⟩, h₅, h⟩ := Option.bind_eq_some_iff.1 h
  obtain ⟨cs₆, h₆, h⟩ := Option.bind_eq_some_iff.1 h
  obtain ⟨⟨hour, cs₇⟩, -, h⟩ := Option.bind_eq_some_iff.1 h
  obtain ⟨cs₈, -, h⟩ := Option.bind_eq_some_iff.1 h
  obtain ⟨⟨minute, cs₉⟩, -, h⟩ := Option.bind_eq_some_iff.1 h
  obtain ⟨cs₁₀, -, h⟩ := Option.bind_eq_some_iff.1 h
  obtain ⟨⟨second, cs₁₁⟩, -, h⟩ := Option.bind_eq_some_iff.1 h
  obtain ⟨cs₁₂, -, h⟩ := Option.bind_eq_some_iff.1 h
  obtain ⟨offset, hoffset, h⟩ := Option.bind_eq_some_iff.1 h
  obtain ⟨date, hdate, h⟩ := Option.bind_eq_some_iff.1 h
  have hlength : 10 < cs.length := by
    rw [length_of_takeDigits? h₁, length_of_takeChar? h₂, length_of_takeDigits? h₃,
      length_of_takeChar? h₄, length_of_takeDigits? h₅, length_of_takeAscii? h₆]
    omega
  have hyear : 0 ≤ date.year := by
    rw [(Date.ofCalendar?_eq_some_iff.1 hdate).1]
    exact Int.natCast_nonneg year
  obtain ⟨htime, h⟩ := Option.ite_none_right_eq_some.1 h
  obtain ⟨-, h⟩ := Option.ite_none_left_eq_some.1 h
  obtain rfl := Option.some.inj h
  refine ⟨hlength, hyear, ?_, offset_bounds hoffset⟩
  have hclock : (if (second == 60) = true then 59 else second) < 60 := by
    split
    · omega
    · rename_i hleap
      rw [beq_iff_eq] at hleap
      omega
  dsimp only
  omega

/-! ## Days in universal time -/

/-- Is it the last day of the calendar on the local clock, and the day after it in universal
time? -/
def IsLate (t : Timestamp) : Prop :=
  t.date = .latest ∧ secondsPerDay ≤ t.second - t.offset * 60

/-- **There is no day in universal time exactly for late points in time.** -/
theorem ofDayNumber?_eq_none_iff {cs : List Char} {t : Timestamp} (h : read? cs = some t) :
    Date.ofDayNumber? t.universalDay = none ↔ t.IsLate := by
  obtain ⟨-, hyear, hsecond, hoffset, hoffset'⟩ := read?_bounds h
  have hfirst := Date.dayNumber_nonneg hyear
  have hlast := Date.le_iff.1 t.date.le_latest
  have hearliest : Date.earliest.dayNumber ≤ -1 := by decide
  have hdate : t.date = .latest ↔ t.date.dayNumber = Date.latest.dayNumber :=
    Date.dayNumber_injective.eq_iff.symm
  have hnone : Date.ofDayNumber? t.universalDay = none ↔
      ¬ (Date.earliest.dayNumber ≤ t.universalDay ∧ t.universalDay ≤ Date.latest.dayNumber) := by
    rw [← Date.exists_ofDayNumber?_iff, Option.eq_none_iff_forall_ne_some, not_exists]
  rw [hnone, IsLate, hdate, universalDay, universalSecond, secondsPerDay]
  omega

end Timestamp

namespace EditDate

/-! ## Values for the day of an edit -/

/-- A text that can be read as a point in time is no date. -/
theorem readIso?_eq_none {cs : List Char} {t : Timestamp}
    (h : Timestamp.read? (Character.trim cs) = some t) : Date.readIso? cs = none := by
  have hlength := (Timestamp.read?_bounds h).1
  cases hspan : DateSpan.read? cs with
  | none =>
    rw [Date.readIso?, hspan]
    rfl
  | some span => exact absurd (DateSpan.length_trim_le hspan) (Nat.not_le_of_lt hlength)

theorem ofText_eq_beyondCalendar_iff {s : String} :
    ofText s = .beyondCalendar ↔
      ∃ t, Timestamp.read? (Character.trim s.toList) = some t ∧ t.IsLate := by
  rw [ofText]
  cases ht : Timestamp.read? (Character.trim s.toList) with
  | none => cases Date.readIso? s.toList <;> simp
  | some t =>
    have hlate := Timestamp.ofDayNumber?_eq_none_iff ht
    rw [readIso?_eq_none ht]
    cases hday : Date.ofDayNumber? t.universalDay with
    | none => simpa [hday] using hlate
    | some d => simpa [hday] using hlate

/-- Does the value hold the text of a late point in time? -/
def IsLate (v : Json) : Prop :=
  ∃ s t, v = .string (some s) ∧ Timestamp.read? (Character.trim s.toList) = some t ∧ t.IsLate

/-- **Every value but late points in time gives a day or is unreadable.** -/
theorem ofJson_eq_beyondCalendar_iff {v : Json} : ofJson v = .beyondCalendar ↔ IsLate v := by
  cases v with
  | string s =>
    cases s with
    | none => simp [ofJson, IsLate]
    | some s =>
      rw [ofJson, ofText_eq_beyondCalendar_iff]
      simp [IsLate]
  | number n =>
    have hseconds : ∀ seconds, ofSeconds seconds ≠ .beyondCalendar := by
      intro seconds
      delta ofSeconds
      split <;> simp
    rw [ofJson]
    split <;> simp [IsLate, hseconds]
  | _ => simp [ofJson, IsLate]

/-- The first readable value decides. -/
theorem ofFirst_eq_beyondCalendar_iff {vs : List Json} :
    ofFirst vs = .beyondCalendar ↔
      ∃ front v back, vs = front ++ v :: back ∧ (∀ u ∈ front, ofJson u = .unreadable) ∧
        IsLate v := by
  induction vs with
  | nil => simp [ofFirst]
  | cons v vs ih =>
    rw [ofFirst]
    split
    · rename_i hv
      rw [ih]
      constructor
      · rintro ⟨front, u, back, rfl, hfront, hu⟩
        exact ⟨v :: front, u, back, rfl, List.forall_mem_cons.2 ⟨hv, hfront⟩, hu⟩
      · rintro ⟨front, u, back, heq, hfront, hu⟩
        cases front with
        | nil =>
          obtain ⟨rfl, rfl⟩ := List.cons.inj heq
          rw [← ofJson_eq_beyondCalendar_iff, hv] at hu
          cases hu
        | cons w front =>
          obtain ⟨rfl, rfl⟩ := List.cons.inj heq
          exact ⟨front, u, back, rfl, (List.forall_mem_cons.1 hfront).2, hu⟩
    · rename_i hv
      rw [ofJson_eq_beyondCalendar_iff]
      constructor
      · intro hlate
        exact ⟨[], v, vs, rfl, by simp, hlate⟩
      · rintro ⟨front, u, back, heq, hfront, hu⟩
        cases front with
        | nil => exact (List.cons.inj heq).1 ▸ hu
        | cons w front =>
          obtain ⟨rfl, rfl⟩ := List.cons.inj heq
          exact absurd (hfront v List.mem_cons_self) hv

end EditDate

namespace Element

/-! ## Records -/

/-- Is everything in order with the values of a record, whatever the day of the edit? -/
structure Parts.InOrder (parts : Parts) : Prop where
  kind : (readKind? parts.kind).isSome
  id : ((parts.id.map readId?).getD (some 0)).isSome
  tags : ((parts.tags.map readTags?).getD (some .empty)).isSome
  dates : parts.dates.all isAdmissible = true

variable {v : Json} {parts : Parts}

theorem ofJson_of_inOrder (hparts : Parts.ofJson? v = some parts) (h : parts.InOrder) :
    ofJson v = .error .beyondCalendar ↔ EditDate.ofFirst parts.dates = .beyondCalendar := by
  obtain ⟨kind, hkind⟩ := Option.isSome_iff_exists.1 h.kind
  obtain ⟨id, hid⟩ := Option.isSome_iff_exists.1 h.id
  obtain ⟨tags, htags⟩ := Option.isSome_iff_exists.1 h.tags
  rw [ofJson, hparts]
  dsimp only
  rw [hkind, hid]
  dsimp only
  rw [htags]
  dsimp only
  rw [h.dates]
  cases EditDate.ofFirst parts.dates <;> simp [pure, Except.pure, throw, throwThe,
    MonadExceptOf.throw]

theorem ofJson_of_not_inOrder (hparts : Parts.ofJson? v = some parts) (h : ¬ parts.InOrder) :
    ofJson v = .error .invalid := by
  rw [ofJson, hparts]
  dsimp only
  cases hkind : readKind? parts.kind with
  | none => rfl
  | some kind =>
    cases hid : (parts.id.map readId?).getD (some 0) with
    | none => rfl
    | some id =>
      cases htags : (parts.tags.map readTags?).getD (some .empty) with
      | none => rfl
      | some tags =>
        cases hdates : parts.dates.all isAdmissible with
        | false => rfl
        | true => exact absurd ⟨by simp [hkind], by simp [hid], by simp [htags], hdates⟩ h

/-- Is it a record in order whose first readable value for the day of the edit is late? -/
def HasLateEdit (v : Json) : Prop :=
  ∃ parts front late back, Parts.ofJson? v = some parts ∧ parts.InOrder ∧
    parts.dates = front ++ late :: back ∧ (∀ u ∈ front, EditDate.ofJson u = .unreadable) ∧
      EditDate.IsLate late

theorem ofJson_eq_beyondCalendar_iff : ofJson v = .error .beyondCalendar ↔ HasLateEdit v := by
  constructor
  · intro h
    cases hparts : Parts.ofJson? v with
    | none =>
      rw [ofJson, hparts] at h
      cases h
    | some parts =>
      have horder : parts.InOrder := by
        by_contra hnot
        rw [ofJson_of_not_inOrder hparts hnot] at h
        cases h
      rw [ofJson_of_inOrder hparts horder, EditDate.ofFirst_eq_beyondCalendar_iff] at h
      obtain ⟨front, late, back, hdates, hfront, hlate⟩ := h
      exact ⟨parts, front, late, back, hparts, horder, hdates, hfront, hlate⟩
  · rintro ⟨parts, front, late, back, hparts, horder, hdates, hfront, hlate⟩
    rw [ofJson_of_inOrder hparts horder, EditDate.ofFirst_eq_beyondCalendar_iff]
    exact ⟨front, late, back, hdates, hfront, hlate⟩

/-- **A line ends beyond the calendar exactly if it begins with a record that has a late edit.** -/
theorem ofLine_eq_beyondCalendar_iff {cs : List Char} :
    ofLine cs = .error .beyondCalendar ↔
      ∃ v rest, Json.readValue? cs = some (v, rest) ∧ HasLateEdit v := by
  rw [ofLine]
  cases hread : Json.readValue? cs with
  | none => simp [throw, throwThe, MonadExceptOf.throw]
  | some found =>
    obtain ⟨v, rest⟩ := found
    have hexists : (∃ v' rest', some (v, rest) = some (v', rest') ∧ HasLateEdit v') ↔
        HasLateEdit v := by
      simp
    rw [hexists, ← ofJson_eq_beyondCalendar_iff]
    dsimp only
    cases ofJson v with
    | error e => rfl
    | ok element =>
      change (if (Json.skipSpace rest).isEmpty then pure element else throw RecordError.invalid) =
        Except.error RecordError.beyondCalendar ↔
        Except.ok element = Except.error RecordError.beyondCalendar
      split <;> simp [pure, Except.pure, throw, throwThe, MonadExceptOf.throw]

end Element

end SurveyQuests
