import Mathlib.Data.List.Basic
import Mathlib.Data.List.Induction
import SurveyQuests.Proofs.Calendar.DayNumber
import SurveyQuests.Proofs.Calendar.IsoText

/-!
# A partial date covers the days that it names

A tag may give a day, a month or a year, and what is read from it is a first and a last day.  Which
days lie between the two can be told from the texts alone: those whose own text begins with what the
tag says.  Digits of a fixed number are known by the number that they stand for
(`IsDigits.eq_padded`), so the text of a day begins with a year of four digits if it is the year of
the day, and likewise for the month.  On the other side, the days between the first and the last day
of a year are those of the year, in whatever months, and the days between the first and the last day
of a month are those of the month, however long it is.

A full date is what covers a single day, since every month has more than one.

## What is here

* `splitAtEach_eq_splitOn`, `IsDigits` — the parts of a text, and digits of a fixed number;
* `Date.between_year`, `Date.between_month` — the days of a year and of a month;
* `Date.year_prefix_iff`, `Date.month_prefix_iff`, `Date.day_prefix_iff` — how the text of a day
  begins;
* `DateSpan.NamesDays`, `DateSpan.Names` — texts and the days that they name;
* `Date.readIso?_eq_some_iff` — full dates;
* `DateSpan.read?_covers` — **a text covers exactly the days that it names**.
-/

set_option autoImplicit false

namespace SurveyQuests

open Calendar

/-! ## Texts in parts -/

theorem splitAtEach_eq_splitOn (sep : Char) (cs : List Char) :
    splitAtEach sep cs = cs.splitOn sep := by
  induction cs with
  | nil => rw [splitAtEach, List.splitOn_nil]
  | cons c cs ih =>
    rw [splitAtEach, List.splitOn_cons_eq_if_modifyHead, ih]
    by_cases h : c = sep
    · rw [if_pos h, if_pos (by simpa using h)]
    · rw [if_neg h, if_neg (by simpa using h)]
      cases hparts : cs.splitOn sep with
      | nil => exact absurd hparts (List.splitOn_ne_nil _ _)
      | cons part parts => rfl

/-- A text is its parts with the character between them. -/
theorem intercalate_splitAtEach (sep : Char) (cs : List Char) :
    [sep].intercalate (splitAtEach sep cs) = cs := by
  rw [splitAtEach_eq_splitOn, List.intercalate_splitOn]

/-! ## Digits of a fixed number -/

/-- Is the text so many ASCII digits? -/
def IsDigits (count : Nat) (cs : List Char) : Prop := cs.length = count ∧ ∀ c ∈ cs, c.isDigit = true

namespace Decimal

theorem ofDigits_concat (cs : List Char) (c : Char) :
    ofDigits (cs ++ [c]) = 10 * ofDigits cs + digitValue c := by
  rw [ofDigits, List.foldl_append, ofDigits]
  rfl

theorem toNat_eq_of_isDigit {c : Char} (h : c.isDigit = true) :
    c.toNat = digitValue c + 48 ∧ digitValue c < 10 := by
  have hc := Character.toNat_of_isDigit h
  have hzero : '0'.toNat = 48 := rfl
  rw [digitValue]
  omega

theorem ofDigits_lt {cs : List Char} (h : ∀ c ∈ cs, c.isDigit = true) :
    ofDigits cs < 10 ^ cs.length := by
  induction cs using List.reverseRecOn with
  | nil => decide
  | append_singleton cs c ih =>
    have hlt := ih fun d hd ↦ h d (List.mem_append_left [c] hd)
    have hc := (toNat_eq_of_isDigit (h c (by simp))).2
    rw [ofDigits_concat, List.length_append, List.length_singleton, Nat.pow_succ]
    omega

/-- Digits of a fixed number are known by the number that they stand for. -/
theorem eq_of_ofDigits_eq {cs ds : List Char} (hcs : ∀ c ∈ cs, c.isDigit = true)
    (hds : ∀ c ∈ ds, c.isDigit = true) (hlength : cs.length = ds.length)
    (h : ofDigits cs = ofDigits ds) : cs = ds := by
  induction cs using List.reverseRecOn generalizing ds with
  | nil => exact (List.length_eq_zero_iff.1 hlength.symm).symm
  | append_singleton cs c ih =>
    obtain rfl | ⟨ds, d, rfl⟩ := List.eq_nil_or_concat' ds
    · simp at hlength
    · obtain ⟨hc, hc'⟩ := toNat_eq_of_isDigit (hcs c (by simp))
      obtain ⟨hd, hd'⟩ := toNat_eq_of_isDigit (hds d (by simp))
      rw [ofDigits_concat, ofDigits_concat] at h
      have hlast : c = d := Char.toNat_inj.1 (by omega)
      have hrest := ih (fun x hx ↦ hcs x (List.mem_append_left [c] hx))
        (fun x hx ↦ hds x (List.mem_append_left [d] hx)) (by simpa using hlength) (by omega)
      rw [hlast, hrest]

end Decimal

open Decimal

theorem exactDigits?_eq_some_iff {count n : Nat} {cs : List Char} :
    exactDigits? count cs = some n ↔ IsDigits count cs ∧ ofDigits cs = n := by
  rw [exactDigits?, IsDigits, ← List.all_eq_true]
  split
  · rename_i h
    rw [Option.some_inj]
    exact (and_iff_right h).symm
  · rename_i h
    constructor
    · intro hnone
      cases hnone
    · rintro ⟨hdigits, -⟩
      exact absurd hdigits h

/-- Whoever goes on with the number has read its digits. -/
theorem bind_exactDigits?_eq_some {α : Type} {count : Nat} {cs : List Char} {f : Nat → Option α}
    {a : α} (h : (exactDigits? count cs).bind f = some a) :
    IsDigits count cs ∧ f (ofDigits cs) = some a := by
  obtain ⟨n, hn, h⟩ := Option.bind_eq_some_iff.1 h
  obtain ⟨hcs, rfl⟩ := exactDigits?_eq_some_iff.1 hn
  exact ⟨hcs, h⟩

namespace IsDigits

variable {count : Nat} {cs : List Char}

theorem exactDigits?_eq (h : IsDigits count cs) : exactDigits? count cs = some (ofDigits cs) :=
  exactDigits?_eq_some_iff.2 ⟨h, rfl⟩

theorem ofDigits_lt (h : IsDigits count cs) : ofDigits cs < 10 ^ count :=
  h.1 ▸ Decimal.ofDigits_lt h.2

theorem ne_dash (h : IsDigits count cs) : ∀ c ∈ cs, c ≠ '-' :=
  fun c hc ↦ ne_dash_of_isDigit (h.2 c hc)

/-- The digits are those that their number is written with. -/
theorem eq_padded (hcount : 0 < count) (h : IsDigits count cs) {n : Nat} (hn : ofDigits cs = n) :
    cs = Date.padded count n := by
  subst hn
  refine eq_of_ofDigits_eq h.2 Date.isDigit_padded ?_ ?_
  · rw [Date.length_padded hcount h.ofDigits_lt, h.1]
  · have hread := Date.exactDigits?_padded hcount h.ofDigits_lt
    exact (exactDigits?_eq_some_iff.1 hread).2.symm

end IsDigits

theorem isDigits_padded {count n : Nat} (hcount : 0 < count) (h : n < 10 ^ count) :
    IsDigits count (Date.padded count n) :=
  (exactDigits?_eq_some_iff.1 (Date.exactDigits?_padded hcount h)).1

theorem ofDigits_padded {count n : Nat} (hcount : 0 < count) (h : n < 10 ^ count) :
    ofDigits (Date.padded count n) = n :=
  (exactDigits?_eq_some_iff.1 (Date.exactDigits?_padded hcount h)).2

/-- Digits at the front of a text that begins with as many digits. -/
theorem IsDigits.append_prefix_iff {count n : Nat} {cs ds rest : List Char} (hcount : 0 < count)
    (h : IsDigits count cs) (hn : n < 10 ^ count) :
    cs ++ ds <+: Date.padded count n ++ rest ↔ ofDigits cs = n ∧ ds <+: rest := by
  constructor
  · rintro ⟨back, hback⟩
    rw [List.append_assoc] at hback
    obtain ⟨hcs, hds⟩ := List.append_inj hback (h.1.trans (Date.length_padded hcount hn).symm)
    exact ⟨by rw [hcs, ofDigits_padded hcount hn], back, hds⟩
  · rintro ⟨hcs, hds⟩
    rw [h.eq_padded hcount hcs]
    exact (List.prefix_append_right_inj _).2 hds

theorem IsDigits.prefix_iff {count n : Nat} {cs rest : List Char} (hcount : 0 < count)
    (h : IsDigits count cs) (hn : n < 10 ^ count) :
    cs <+: Date.padded count n ++ rest ↔ ofDigits cs = n := by
  have hprefix : cs ++ [] <+: Date.padded count n ++ rest ↔ ofDigits cs = n ∧ [] <+: rest :=
    h.append_prefix_iff hcount hn
  rwa [List.append_nil, and_iff_left List.nil_prefix] at hprefix

namespace Date

variable {d first last : Date} {year : Int} {month : Nat} {y m dd : List Char}

/-! ## Days of a year and of a month -/

theorem between_year (hfirst : ofCalendar? year 1 1 = some first)
    (hlast : ofCalendar? year 12 31 = some last) : first ≤ d ∧ d ≤ last ↔ d.year = year := by
  obtain ⟨-, ⟨hone, htwelve⟩, hday, hlength⟩ := d.isDay
  have hmax := daysInMonth_le d.year d.month
  obtain ⟨rfl, hm1, hd1⟩ := ofCalendar?_eq_some_iff.1 hfirst
  obtain ⟨hy2, hm2, hd2⟩ := ofCalendar?_eq_some_iff.1 hlast
  rw [le_iff_monthIndex, le_iff_monthIndex, monthIndex, monthIndex, monthIndex, hm1, hd1, hy2, hm2,
    hd2]
  omega

theorem between_month (hfirst : ofCalendar? year month 1 = some first)
    (hlast : ofCalendar? year month (daysInMonth year month) = some last) :
    first ≤ d ∧ d ≤ last ↔ d.year = year ∧ d.month = month := by
  obtain ⟨-, ⟨hone, htwelve⟩, hday, hlength⟩ := d.isDay
  have hmonth := first.isDay.2.1
  obtain ⟨rfl, rfl, hd1⟩ := ofCalendar?_eq_some_iff.1 hfirst
  obtain ⟨hy2, hm2, hd2⟩ := ofCalendar?_eq_some_iff.1 hlast
  rw [le_iff_monthIndex, le_iff_monthIndex, monthIndex, monthIndex, monthIndex, hd1, hy2, hm2, hd2]
  constructor
  · intro h
    omega
  · rintro ⟨hyear, hmonth⟩
    rw [hyear, hmonth] at hlength ⊢
    omega

/-! ## Texts that begin alike -/

theorem year_prefix_iff (hy : IsDigits 4 y) (h : 0 ≤ d.year) :
    y <+: d.text.toList ↔ d.year = ofDigits y := by
  rw [toList_text h, hy.prefix_iff (by omega) d.parts_lt.1]
  omega

theorem month_prefix_iff (hy : IsDigits 4 y) (hm : IsDigits 2 m) (h : 0 ≤ d.year) :
    y ++ '-' :: m <+: d.text.toList ↔ d.year = ofDigits y ∧ d.month = ofDigits m := by
  rw [toList_text h, hy.append_prefix_iff (by omega) d.parts_lt.1, List.cons_prefix_cons,
    and_iff_right rfl, hm.prefix_iff (by omega) d.parts_lt.2.1]
  omega

theorem day_prefix_iff (hy : IsDigits 4 y) (hm : IsDigits 2 m) (hd : IsDigits 2 dd)
    (h : 0 ≤ d.year) :
    y ++ '-' :: (m ++ '-' :: dd) <+: d.text.toList ↔
      d.year = ofDigits y ∧ d.month = ofDigits m ∧ d.day = ofDigits dd := by
  have hday : dd <+: padded 2 d.day ↔ ofDigits dd = d.day := by
    have hprefix : dd <+: padded 2 d.day ++ [] ↔ ofDigits dd = d.day :=
      hd.prefix_iff (by omega) d.parts_lt.2.2
    rwa [List.append_nil] at hprefix
  rw [toList_text h, hy.append_prefix_iff (by omega) d.parts_lt.1, List.cons_prefix_cons,
    and_iff_right rfl, hm.append_prefix_iff (by omega) d.parts_lt.2.1, List.cons_prefix_cons,
    and_iff_right rfl, hday]
  omega

end Date

/-! ## Texts and the days that they name -/

namespace DateSpan

/-- Is the text a year of four digits, a year and one of the twelve months, or a day of the calendar
in full? -/
inductive NamesDays : List Char → Prop where
  | year {y : List Char} (hy : IsDigits 4 y) : NamesDays y
  | month {y m : List Char} (hy : IsDigits 4 y) (hm : IsDigits 2 m)
    (h : 1 ≤ ofDigits m ∧ ofDigits m ≤ 12) : NamesDays (y ++ '-' :: m)
  | day {y m d : List Char} (hy : IsDigits 4 y) (hm : IsDigits 2 m) (hd : IsDigits 2 d)
    (h : IsDay (ofDigits y) (ofDigits m) (ofDigits d)) : NamesDays (y ++ '-' :: (m ++ '-' :: d))

/-- Does the text name the days of the span?  They are those of a year, those of a month, or a
single one. -/
inductive Names : List Char → DateSpan → Prop where
  | year {y : List Char} {first last : Date} (hy : IsDigits 4 y)
    (hfirst : Date.ofCalendar? (ofDigits y) 1 1 = some first)
    (hlast : Date.ofCalendar? (ofDigits y) 12 31 = some last) : Names y ⟨first, last⟩
  | month {y m : List Char} {first last : Date} (hy : IsDigits 4 y) (hm : IsDigits 2 m)
    (hfirst : Date.ofCalendar? (ofDigits y) (ofDigits m) 1 = some first)
    (hlast : Date.ofCalendar? (ofDigits y) (ofDigits m)
      (daysInMonth (ofDigits y) (ofDigits m)) = some last) :
    Names (y ++ '-' :: m) ⟨first, last⟩
  | day {y m d : List Char} {e : Date} (hy : IsDigits 4 y) (hm : IsDigits 2 m) (hd : IsDigits 2 d)
    (he : Date.ofCalendar? (ofDigits y) (ofDigits m) (ofDigits d) = some e) :
    Names (y ++ '-' :: (m ++ '-' :: d)) (.single e)

namespace Names

variable {cs : List Char} {span : DateSpan}

/-- **What is read are the days that are named.** -/
theorem of_read? (h : read? cs = some span) : Names (Character.trim cs) span := by
  have hjoin := intercalate_splitAtEach '-' (Character.trim cs)
  rw [read?] at h
  split at h
  · rename_i y hsplit
    rw [hsplit] at hjoin
    obtain ⟨hy, h⟩ := bind_exactDigits?_eq_some h
    obtain ⟨first, hfirst, h⟩ := Option.bind_eq_some_iff.1 h
    obtain ⟨last, hlast, h⟩ := Option.bind_eq_some_iff.1 h
    obtain rfl := Option.some.inj h
    rw [← hjoin]
    simpa using Names.year hy hfirst hlast
  · rename_i y m hsplit
    rw [hsplit] at hjoin
    obtain ⟨hy, h⟩ := bind_exactDigits?_eq_some h
    obtain ⟨hm, h⟩ := bind_exactDigits?_eq_some h
    obtain ⟨first, hfirst, h⟩ := Option.bind_eq_some_iff.1 h
    obtain ⟨last, hlast, h⟩ := Option.bind_eq_some_iff.1 h
    obtain rfl := Option.some.inj h
    rw [← hjoin]
    simpa using Names.month hy hm hfirst hlast
  · rename_i y m d hsplit
    rw [hsplit] at hjoin
    obtain ⟨hy, h⟩ := bind_exactDigits?_eq_some h
    obtain ⟨hm, h⟩ := bind_exactDigits?_eq_some h
    obtain ⟨hd, h⟩ := bind_exactDigits?_eq_some h
    obtain ⟨e, he, h⟩ := Option.bind_eq_some_iff.1 h
    obtain rfl := Option.some.inj h
    rw [← hjoin]
    simpa using Names.day hy hm hd he
  · cases h

/-- What is named is read. -/
theorem read?_eq (h : Names (Character.trim cs) span) : read? cs = some span := by
  generalize htrim : Character.trim cs = text at h
  rw [read?, htrim]
  cases h with
  | year hy hfirst hlast =>
    rw [splitAtEach_of_forall hy.ne_dash]
    dsimp only
    rw [hy.exactDigits?_eq]
    simp only [Option.bind_eq_bind, Option.bind_some, ofYear?, hfirst, hlast]
  | month hy hm hfirst hlast =>
    rw [splitAtEach_append hy.ne_dash, splitAtEach_of_forall hm.ne_dash]
    dsimp only
    rw [hy.exactDigits?_eq, hm.exactDigits?_eq]
    simp only [Option.bind_eq_bind, Option.bind_some, ofMonth?, hfirst, hlast]
  | day hy hm hd he =>
    rw [splitAtEach_append hy.ne_dash, splitAtEach_append hm.ne_dash,
      splitAtEach_of_forall hd.ne_dash]
    dsimp only
    rw [hy.exactDigits?_eq, hm.exactDigits?_eq, hd.exactDigits?_eq]
    simp only [Option.bind_eq_bind, Option.bind_some, he]

theorem read?_iff : read? cs = some span ↔ Names (Character.trim cs) span :=
  ⟨of_read?, read?_eq⟩

/-- The texts that name days. -/
theorem exists_iff : (∃ span, Names cs span) ↔ NamesDays cs := by
  constructor
  · rintro ⟨span, h⟩
    cases h with
    | year hy => exact .year hy
    | @month _ _ first _ hy hm hfirst =>
      obtain ⟨-, hmonth, -⟩ := Date.ofCalendar?_eq_some_iff.1 hfirst
      exact .month hy hm (hmonth ▸ first.isDay.2.1)
    | @day _ _ _ e hy hm hd he =>
      obtain ⟨hyear, hmonth, hday⟩ := Date.ofCalendar?_eq_some_iff.1 he
      exact .day hy hm hd (hyear ▸ hmonth ▸ hday ▸ e.isDay)
  · intro h
    cases h with
    | year hy =>
      have hlt := hy.ofDigits_lt
      have hfirst : IsDay (ofDigits cs) 1 1 := by
        refine ⟨?_, by decide, le_rfl, one_le_daysInMonth _ _⟩
        rw [minYear, maxYear]
        omega
      have hlast : IsDay (ofDigits cs) 12 31 := ⟨hfirst.1, by decide, by decide, le_rfl⟩
      exact ⟨_, .year hy (dif_pos hfirst) (dif_pos hlast)⟩
    | @month y m hy hm h =>
      have hlt := hy.ofDigits_lt
      have hlength := one_le_daysInMonth (ofDigits y) (ofDigits m)
      have hfirst : IsDay (ofDigits y) (ofDigits m) 1 := by
        refine ⟨?_, h, le_rfl, hlength⟩
        rw [minYear, maxYear]
        omega
      exact ⟨_, .month hy hm (dif_pos hfirst) (dif_pos ⟨hfirst.1, h, hlength, le_rfl⟩)⟩
    | day hy hm hd h => exact ⟨_, .day hy hm hd (dif_pos h)⟩

/-- **The days that a text names** are those whose text begins with it. -/
theorem mem_iff (h : Names cs span) (d : Date) :
    span.earliest ≤ d ∧ d ≤ span.latest ↔ 0 ≤ d.year ∧ cs <+: d.text.toList := by
  cases h with
  | year hy hfirst hlast =>
    rw [Date.between_year hfirst hlast, and_congr_right (Date.year_prefix_iff hy)]
    omega
  | month hy hm hfirst hlast =>
    rw [Date.between_month hfirst hlast, and_congr_right (Date.month_prefix_iff hy hm)]
    omega
  | @day _ _ _ e hy hm hd he =>
    have hsame : e ≤ d ∧ d ≤ e ↔ e = d := le_antisymm_iff.symm
    rw [single, hsame, ← Option.some_inj, ← he, Date.ofCalendar?_eq_some_iff,
      and_congr_right (Date.day_prefix_iff hy hm hd)]
    omega

/-- A span of one day is named by the text of the day. -/
theorem eq_text (h : Names cs span) (hone : span.earliest = span.latest) :
    0 ≤ span.earliest.year ∧ cs = span.earliest.text.toList := by
  cases h with
  | year hy hfirst hlast =>
    have hm1 := (Date.ofCalendar?_eq_some_iff.1 hfirst).2.1
    have hm2 := (Date.ofCalendar?_eq_some_iff.1 hlast).2.1
    have hsame := congrArg Date.month hone
    dsimp only at hsame
    omega
  | @month y m _ _ hy hm hfirst hlast =>
    have hd1 := (Date.ofCalendar?_eq_some_iff.1 hfirst).2.2
    have hd2 := (Date.ofCalendar?_eq_some_iff.1 hlast).2.2
    have hlength : daysInMonth (ofDigits y) (ofDigits m) ≠ 1 := by
      unfold daysInMonth
      split_ifs <;> omega
    have hsame := congrArg Date.day hone
    dsimp only at hsame
    omega
  | day hy hm hd he =>
    obtain ⟨hyear, hmonth, hday⟩ := Date.ofCalendar?_eq_some_iff.1 he
    dsimp only [single]
    refine ⟨by omega, ?_⟩
    rw [Date.toList_text (by omega), ← hy.eq_padded (by omega) (by omega),
      ← hm.eq_padded (by omega) hmonth.symm, ← hd.eq_padded (by omega) hday.symm]

/-- The text of a day names this day. -/
theorem text {d : Date} (h : 0 ≤ d.year) : Names d.text.toList (.single d) := by
  obtain ⟨hyear, hmonth, hday⟩ := d.parts_lt
  have hnat : ((d.year.natAbs : Nat) : Int) = d.year := by omega
  rw [Date.toList_text h]
  refine .day (isDigits_padded (by omega) hyear) (isDigits_padded (by omega) hmonth)
    (isDigits_padded (by omega) hday) ?_
  rw [ofDigits_padded (by omega) hyear, ofDigits_padded (by omega) hmonth,
    ofDigits_padded (by omega) hday, hnat, Date.ofCalendar?_self]

end Names

end DateSpan

/-- A full date is read from the text of the day, and from no other text. -/
theorem Date.readIso?_eq_some_iff {cs : List Char} {d : Date} :
    readIso? cs = some d ↔ 0 ≤ d.year ∧ Character.trim cs = d.text.toList := by
  constructor
  · intro h
    obtain ⟨span, hspan, h⟩ := Option.bind_eq_some_iff.1 h
    split at h
    · rename_i hone
      obtain rfl := Option.some.inj h
      exact (DateSpan.Names.of_read? hspan).eq_text hone
    · cases h
  · rintro ⟨hyear, htrim⟩
    have hread : DateSpan.read? cs = some (.single d) :=
      DateSpan.Names.read?_eq (htrim ▸ DateSpan.Names.text hyear)
    rw [readIso?, hread]
    exact if_pos rfl

/-- **A text covers exactly the days that it names.**  It can be read as a date if it is, without
the white space around it, a year of four digits, a year and one of the twelve months, or a day of
the calendar in full; and then the days from the first to the last one are those days of the years
0 to 9999 whose text begins with it.  So a full date is read from the text of the day alone, and the
text of a day is read as the day. -/
theorem DateSpan.read?_covers (text : List Char) :
    ((read? text).isSome = true ↔ NamesDays (Character.trim text)) ∧
      (∀ span, read? text = some span → ∀ d : Date,
        span.earliest ≤ d ∧ d ≤ span.latest ↔
          0 ≤ d.year ∧ Character.trim text <+: d.text.toList) ∧
      (∀ d, Date.readIso? text = some d ↔ 0 ≤ d.year ∧ Character.trim text = d.text.toList) ∧
      ∀ d : Date, 0 ≤ d.year → Date.readIso? d.text.toList = some d := by
  refine ⟨?_, fun span hspan ↦ (Names.of_read? hspan).mem_iff,
    fun d ↦ Date.readIso?_eq_some_iff, fun d ↦ Date.readIso?_text⟩
  rw [Option.isSome_iff_exists, ← Names.exists_iff]
  exact exists_congr fun span ↦ Names.read?_iff

/-- February of a leap year, with a blank around it. -/
theorem DateSpan.read?_covers_february :
    let text := " 2020-02".toList
    let span : DateSpan := ⟨⟨2020, 2, 1, by decide⟩, ⟨2020, 2, 29, by decide⟩⟩
    read? text = some span ∧ NamesDays (Character.trim text) ∧
      ∀ d : Date, span.earliest ≤ d ∧ d ≤ span.latest ↔
        0 ≤ d.year ∧ Character.trim text <+: d.text.toList := by
  intro text span
  have hread : read? text = some span := by decide
  obtain ⟨hnames, hcovers, -⟩ := read?_covers text
  exact ⟨hread, hnames.1 (by rw [hread, Option.isSome_some]), hcovers span hread⟩

end SurveyQuests
