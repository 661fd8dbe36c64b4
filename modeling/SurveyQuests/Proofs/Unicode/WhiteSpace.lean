import SurveyQuests.Unicode.Character

/-!
# No white space among letters and numerals

Letters and numerals are read from tables of ranges, and white space is a set of ten ranges.  No
range of the tables meets one of these.  That is checked range by range, one line of a table at a
time; what it takes is that the ranges of a line are those of its list of characters.

## What is here

* `CodeSet.IsClearOf`, `CodeSet.contains_eq_false_of_isClearOf` — sets that have nothing in common;
* `Character.isAlphanumeric_of_isSpace` — **white space is neither a letter nor a numeral**.
-/

set_option autoImplicit false

namespace SurveyQuests

namespace CodeSet

/-- Does no range of the set meet the range? -/
def isClear (s : CodeSet) (r : Nat × Nat) : Bool :=
  s.ranges.all fun q ↦ decide (q.2 < r.1) || decide (r.2 < q.1)

/-- No range of the one set meets a range of the other. -/
def IsClearOf (s t : CodeSet) : Prop := ∀ r ∈ s.ranges, t.isClear r = true

/-- Sets whose ranges do not meet have nothing in common. -/
theorem contains_eq_false_of_isClearOf {s t : CodeSet} (h : s.IsClearOf t) {n : Nat}
    (hn : t.contains n = true) : s.contains n = false := by
  rw [Bool.eq_false_iff]
  intro hs
  obtain ⟨r, hr, hlo, hhi⟩ := (s.contains_iff n).1 hs
  obtain ⟨q, hq, hlo', hhi'⟩ := (t.contains_iff n).1 hn
  have hclear := List.all_eq_true.1 (h r hr) q hq
  simp only [Bool.or_eq_true, decide_eq_true_eq] at hclear
  omega

theorem IsClearOf.union {s s' t : CodeSet} (h : s.IsClearOf t) (h' : s'.IsClearOf t) :
    (s.union s').IsClearOf t :=
  List.forall_mem_append.2 ⟨h, h'⟩

theorem isClearOf_unions {sets : List CodeSet} {t : CodeSet} (h : ∀ s ∈ sets, s.IsClearOf t) :
    (unions sets).IsClearOf t := by
  intro r hr
  obtain ⟨s, hs, hr⟩ := List.mem_flatMap.1 hr
  exact h s hs r hr

/-! ## Tables -/

/-- The ranges of the characters of a line. -/
def rangesOfChars (cs : List Char) : List (Nat × Nat) :=
  (cs.foldl Reading.next ⟨none, none, []⟩).close.done.reverse

theorem rangesOfLine_ofList (cs : List Char) :
    rangesOfLine (String.ofList cs) = rangesOfChars cs := by
  rw [rangesOfLine, String.foldl_eq_foldl_toList, String.toList_ofList, rangesOfChars]

/-- A line, in the form in which its ranges can be computed. -/
theorem isClear_line {t : CodeSet} {cs : List Char} (h : (rangesOfChars cs).all t.isClear = true) :
    ∀ r ∈ rangesOfLine (String.ofList cs), t.isClear r = true := by
  rw [rangesOfLine_ofList]
  exact List.all_eq_true.1 h

theorem isClearOf_nil (t : CodeSet) : (ofLines []).IsClearOf t := by
  intro r hr
  cases hr

/-- A table is clear of a set line by line. -/
theorem isClearOf_cons {t : CodeSet} {line : String} {lines : List String}
    (hline : ∀ r ∈ rangesOfLine line, t.isClear r = true) (hlines : (ofLines lines).IsClearOf t) :
    (ofLines (line :: lines)).IsClearOf t :=
  List.forall_mem_append.2 ⟨hline, hlines⟩

end CodeSet

namespace Character

open CodeSet

/-- The tables in which letters and numerals are looked up. -/
def nameTables : List CodeSet :=
  [BinaryProperty.alphabetic, Latest.letters, GeneralCategory.decimalNumber,
    GeneralCategory.letterNumber, GeneralCategory.otherNumber, Latest.numerals]

theorem isClearOf_nameTables : ∀ s ∈ nameTables, s.IsClearOf spaces := by
  simp only [nameTables, List.forall_mem_cons]
  refine ⟨?_, ?_, ?_, ?_, ?_, ?_, List.forall_mem_nil _⟩
  all_goals
    repeat refine isClearOf_cons (isClear_line (by decide +kernel)) ?_
    exact isClearOf_nil _

theorem isClearOf_letters : letters.IsClearOf spaces :=
  (isClearOf_nameTables _ (by simp [nameTables])).union
    (isClearOf_nameTables _ (by simp [nameTables]))

theorem isClearOf_numerals : numerals.IsClearOf spaces :=
  isClearOf_unions fun s hs ↦ isClearOf_nameTables s (by
    simp only [List.mem_cons, List.not_mem_nil, or_false] at hs
    rcases hs with rfl | rfl | rfl | rfl <;> simp [nameTables])

/-- White space in ASCII comes before the digits and the letters. -/
theorem toNat_le_of_isSpace {c : Char} (h : isSpace c = true) (hascii : c.toNat < 0x80) :
    c.toNat ≤ 0x20 := by
  obtain ⟨r, hr, hlo, hhi⟩ := (spaces.contains_iff c.toNat).1 h
  simp only [spaces, List.mem_cons, List.not_mem_nil, or_false] at hr
  rcases hr with rfl | rfl | rfl | rfl | rfl | rfl | rfl | rfl | rfl | rfl <;>
    · simp only at hlo hhi
      omega

/-- **White space is neither a letter nor a numeral.** -/
theorem isAlphanumeric_of_isSpace {c : Char} (h : isSpace c = true) : isAlphanumeric c = false := by
  rw [isAlphanumeric, isAlphabetic, isNumeric, Bool.or_eq_false_iff]
  by_cases hascii : c.toNat < 0x80
  · have hle := toNat_le_of_isSpace h hascii
    rw [if_pos hascii, if_pos hascii, Bool.eq_false_iff, Bool.eq_false_iff]
    refine ⟨fun halpha ↦ ?_, fun hdigit ↦ ?_⟩
    · have := toNat_of_isAlpha halpha
      omega
    · have := toNat_of_isDigit hdigit
      omega
  · rw [if_neg hascii, if_neg hascii]
    exact ⟨contains_eq_false_of_isClearOf isClearOf_letters h,
      contains_eq_false_of_isClearOf isClearOf_numerals h⟩

end Character

end SurveyQuests
