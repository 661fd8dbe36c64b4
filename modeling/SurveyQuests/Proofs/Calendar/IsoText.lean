import SurveyQuests.Calendar.Span
import SurveyQuests.Filter.Lexer
import SurveyQuests.Proofs.Number.RoundTrip

/-!
# Days are read back as they are written

A day of one of the years from 0 to 9999 is written as four digits, two and two, with dashes between
them.  The lexer takes such a text for a date, and reading it gives the day again.
-/

set_option autoImplicit false

namespace SurveyQuests

/-! ## Texts in parts -/

theorem splitAtEach_of_forall {sep : Char} {cs : List Char} (h : ∀ c ∈ cs, c ≠ sep) :
    splitAtEach sep cs = [cs] := by
  induction cs with
  | nil => rfl
  | cons c cs ih =>
    rw [splitAtEach, if_neg (h c List.mem_cons_self),
      ih fun d hd ↦ h d (List.mem_cons_of_mem c hd)]

theorem splitAtEach_append {sep : Char} {cs ds : List Char} (h : ∀ c ∈ cs, c ≠ sep) :
    splitAtEach sep (cs ++ sep :: ds) = cs :: splitAtEach sep ds := by
  induction cs with
  | nil => rw [List.nil_append, splitAtEach, if_pos rfl]
  | cons c cs ih =>
    rw [List.cons_append, splitAtEach, if_neg (h c List.mem_cons_self),
      ih fun d hd ↦ h d (List.mem_cons_of_mem c hd)]

theorem dropWhile_isSpace {cs : List Char} (h : ∀ c ∈ cs.head?, Character.isSpace c = false) :
    cs.dropWhile Character.isSpace = cs := by
  cases cs with
  | nil => rfl
  | cons c cs => exact List.dropWhile_cons_of_neg (by simp [h c rfl])

/-- White space inside a text is left alone. -/
theorem trim_of_ends {cs : List Char} (hhead : ∀ c ∈ cs.head?, Character.isSpace c = false)
    (hlast : ∀ c ∈ cs.getLast?, Character.isSpace c = false) : Character.trim cs = cs := by
  rw [Character.trim, dropWhile_isSpace hhead, dropWhile_isSpace (by simpa using hlast),
    List.reverse_reverse]

theorem trim_of_forall {cs : List Char} (h : ∀ c ∈ cs, Character.isSpace c = false) :
    Character.trim cs = cs :=
  trim_of_ends (fun c hc ↦ h c (List.mem_of_mem_head? hc))
    fun c hc ↦ h c (List.mem_of_mem_getLast? hc)

theorem isSpace_of_isDigit {c : Char} (h : c.isDigit = true) : Character.isSpace c = false := by
  have hc := Character.toNat_of_isDigit h
  rw [Bool.eq_false_iff]
  intro hs
  obtain ⟨r, hr, hle⟩ := (CodeSet.contains_iff _ _).1 hs
  simp only [Character.spaces, List.mem_cons, List.not_mem_nil, or_false] at hr
  rcases hr with rfl | rfl | rfl | rfl | rfl | rfl | rfl | rfl | rfl | rfl <;> omega

theorem ne_dash_of_isDigit {c : Char} (h : c.isDigit = true) : c ≠ '-' := by
  rintro rfl
  cases h

/-! ## Digits of a fixed number -/

namespace Date

theorem isDigit_padded {width n : Nat} : ∀ c ∈ padded width n, c.isDigit = true := by
  intro c hc
  exact (List.mem_append.1 hc).elim (Decimal.isDigit_zeros c) (Decimal.isDigit_toDigits c)

theorem padded_ne_nil {width n : Nat} : padded width n ≠ [] :=
  List.append_ne_nil_of_right_ne_nil _ Nat.toDigits_ne_nil

theorem length_padded {width n : Nat} (hwidth : 0 < width) (h : n < 10 ^ width) :
    (padded width n).length = width := by
  have hle := (Nat.length_toDigits_le_iff (b := 10) (by omega) hwidth).2 h
  rw [padded, List.length_append, List.length_replicate]
  omega

theorem exactDigits?_padded {width n : Nat} (hwidth : 0 < width) (h : n < 10 ^ width) :
    exactDigits? width (padded width n) = some n := by
  have hall : (padded width n).all Char.isDigit = true := List.all_eq_true.2 isDigit_padded
  rw [exactDigits?, if_pos ⟨length_padded hwidth h, hall⟩, padded,
    Decimal.ofDigits_zeros_append]

/-! ## Days -/

variable {d : Date}

theorem toList_text (h : 0 ≤ d.year) :
    d.text.toList =
      padded 4 d.year.natAbs ++ '-' :: (padded 2 d.month ++ '-' :: padded 2 d.day) := by
  rw [text, if_neg (by omega), String.toList_ofList]
  simp

theorem parts_lt (d : Date) : d.year.natAbs < 10 ^ 4 ∧ d.month < 10 ^ 2 ∧ d.day < 10 ^ 2 := by
  obtain ⟨⟨hmin, hmax⟩, ⟨-, hmonth⟩, -, hday⟩ := d.isDay
  have hmonthLength := Calendar.daysInMonth_le d.year d.month
  rw [Calendar.minYear] at hmin
  rw [Calendar.maxYear] at hmax
  omega

/-- The text of a day names the span of this day. -/
theorem read?_text (h : 0 ≤ d.year) : DateSpan.read? d.text.toList = some (.single d) := by
  obtain ⟨hyear, hmonth, hday⟩ := d.parts_lt
  have hsplit : splitAtEach '-' (Character.trim d.text.toList) =
      [padded 4 d.year.natAbs, padded 2 d.month, padded 2 d.day] := by
    have hspace : ∀ c ∈ d.text.toList, Character.isSpace c = false := by
      intro c hc
      rw [toList_text h] at hc
      have hdash : Character.isSpace '-' = false := by decide
      simp only [List.mem_append, List.mem_cons] at hc
      rcases hc with hc | rfl | hc | rfl | hc
      · exact isSpace_of_isDigit (isDigit_padded c hc)
      · exact hdash
      · exact isSpace_of_isDigit (isDigit_padded c hc)
      · exact hdash
      · exact isSpace_of_isDigit (isDigit_padded c hc)
    have hpart : ∀ {width n : Nat}, ∀ c ∈ padded width n, c ≠ '-' :=
      fun c hc ↦ ne_dash_of_isDigit (isDigit_padded c hc)
    rw [trim_of_forall hspace, toList_text h, splitAtEach_append hpart, splitAtEach_append hpart,
      splitAtEach_of_forall hpart]
  have hnat : ((d.year.natAbs : Nat) : Int) = d.year := by omega
  rw [DateSpan.read?, hsplit]
  dsimp only
  rw [exactDigits?_padded (by omega) hyear, exactDigits?_padded (by omega) hmonth,
    exactDigits?_padded (by omega) hday]
  simp only [Option.bind_eq_bind, Option.bind_some]
  rw [hnat, ofCalendar?_self]
  rfl

/-- **A day is read back as it is written.** -/
theorem readIso?_text (h : 0 ≤ d.year) : readIso? d.text.toList = some d := by
  rw [readIso?, read?_text h]
  exact if_pos rfl

theorem isDateShape_of_parts {year month day : List Char} (hyear : year.length = 4)
    (hmonth : month.length = 2) (hday : day.length = 2)
    (h : ∀ c ∈ year ++ month ++ day, c.isDigit = true) :
    isDateShape (year ++ '-' :: (month ++ '-' :: day)) = true := by
  match year, month, day, hyear, hmonth, hday with
  | [_, _, _, _], [_, _], [_, _], _, _, _ => exact List.all_eq_true.2 h

/-- The text of a day is what the lexer takes for a date. -/
theorem isDateShape_text (h : 0 ≤ d.year) : isDateShape d.text.toList = true := by
  obtain ⟨hyear, hmonth, hday⟩ := d.parts_lt
  rw [toList_text h]
  refine isDateShape_of_parts (length_padded (by omega) hyear) (length_padded (by omega) hmonth)
    (length_padded (by omega) hday) fun c hc ↦ ?_
  rw [List.mem_append, List.mem_append] at hc
  rcases hc with (hc | hc) | hc <;> exact isDigit_padded c hc

theorem year_ofCalendar? {year : Int} {month day : Nat} (h : ofCalendar? year month day = some d) :
    d.year = year :=
  (ofCalendar?_eq_some_iff.1 h).1

/-- A day that can be read is in no year before year 0. -/
theorem year_nonneg_of_readIso? {cs : List Char} (h : readIso? cs = some d) : 0 ≤ d.year := by
  obtain ⟨span, hspan, hd⟩ := Option.bind_eq_some_iff.1 h
  have hearliest : span.earliest = d := by
    split at hd
    · exact Option.some.inj hd
    · cases hd
  subst hearliest
  rw [DateSpan.read?] at hspan
  split at hspan
  · obtain ⟨year, -, hspan⟩ := Option.bind_eq_some_iff.1 hspan
    obtain ⟨first, hfirst, hspan⟩ := Option.bind_eq_some_iff.1 hspan
    obtain ⟨last, -, hspan⟩ := Option.bind_eq_some_iff.1 hspan
    cases hspan
    exact year_ofCalendar? hfirst ▸ Int.natCast_nonneg year
  · obtain ⟨year, -, hspan⟩ := Option.bind_eq_some_iff.1 hspan
    obtain ⟨month, -, hspan⟩ := Option.bind_eq_some_iff.1 hspan
    obtain ⟨first, hfirst, hspan⟩ := Option.bind_eq_some_iff.1 hspan
    obtain ⟨last, -, hspan⟩ := Option.bind_eq_some_iff.1 hspan
    cases hspan
    exact year_ofCalendar? hfirst ▸ Int.natCast_nonneg year
  · obtain ⟨year, -, hspan⟩ := Option.bind_eq_some_iff.1 hspan
    obtain ⟨month, -, hspan⟩ := Option.bind_eq_some_iff.1 hspan
    obtain ⟨day, -, hspan⟩ := Option.bind_eq_some_iff.1 hspan
    obtain ⟨first, hfirst, hspan⟩ := Option.bind_eq_some_iff.1 hspan
    cases hspan
    exact year_ofCalendar? hfirst ▸ Int.natCast_nonneg year
  · cases hspan

end Date

end SurveyQuests
