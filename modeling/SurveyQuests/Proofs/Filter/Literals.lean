import Mathlib.Data.List.TakeWhile
import SurveyQuests.Filter.Text
import SurveyQuests.Proofs.Calendar.IsoText
import SurveyQuests.Proofs.Filter.Lexing

/-!
# Literals are read back as they are written

A key, a value or a pattern is written bare or quoted, and it is one lexeme either way: a name, a
number or a quoted text, and its text is the text that was written.  `literalToken` is the token.
So are numbers and days one lexeme each.

The other way round, what the lexer takes for a number is a numeral, without a sign.
-/

set_option autoImplicit false

namespace SurveyQuests

/-! ## Numerals -/

theorem isDigit_or_point_of_mem_numeral {whole part : List Char}
    (hwhole : ∀ c ∈ whole, c.isDigit = true) (hpart : ∀ c ∈ part, c.isDigit = true) :
    ∀ c ∈ numeral whole part, c.isDigit = true ∨ c = '.' := by
  intro c hc
  rw [numeral] at hc
  split at hc
  · exact .inl (hwhole c hc)
  · rcases List.mem_append.1 hc with hc | hc
    · exact .inl (hwhole c hc)
    · rcases List.mem_cons.1 hc with rfl | hc
      · exact .inr rfl
      · exact .inl (hpart c hc)

theorem numberText_numeral {whole part : List Char} (hne : whole ≠ [])
    (hwhole : ∀ c ∈ whole, c.isDigit = true) (hpart : ∀ c ∈ part, c.isDigit = true) :
    numberText (numeral whole part) = numeral whole part := by
  have hempty : whole.isEmpty = false := by simpa using hne
  by_cases h : part = []
  · subst h
    rw [numeral_nil, numberText, List.takeWhile_eq_self_iff.2 hwhole,
      List.dropWhile_eq_nil_iff.2 hwhole]
  · have hpartEmpty : part.isEmpty = false := by simpa using h
    rw [numeral_of_ne_nil whole h, numberText, List.takeWhile_append_of_pos hwhole,
      List.dropWhile_append_of_pos hwhole, List.takeWhile_cons_of_neg (by simp [isDigit_point]),
      List.dropWhile_cons_of_neg (by simp [isDigit_point]), List.append_nil]
    simp [List.takeWhile_eq_self_iff.2 hpart, hempty, hpartEmpty]

theorem dash_mem_of_isDateShape {cs : List Char} (h : isDateShape cs = true) : '-' ∈ cs := by
  unfold isDateShape at h
  split at h
  · simp
  · cases h

/-- A numeral is read as a number. -/
theorem read?_numeral {cs : List Char} (h : IsNumeral cs) :
    Lexeme.read? cs = some ⟨.number (String.ofList cs), cs, []⟩ := by
  obtain ⟨whole, part, hne, hwhole, hpart, rfl⟩ := h
  have hmem := isDigit_or_point_of_mem_numeral hwhole hpart
  have htext := numberText_numeral hne hwhole hpart
  obtain ⟨c, whole, rfl⟩ := List.exists_cons_of_ne_nil hne
  have hc : c.isDigit = true := hwhole c List.mem_cons_self
  rw [numeral_cons] at hmem htext ⊢
  have hdate : readDate? (c :: numeral whole part) = none := by
    rw [readDate?, if_neg]
    intro h
    have hdash := List.mem_of_mem_take (dash_mem_of_isDateShape (Bool.and_eq_true_iff.1 h).1)
    rcases hmem '-' hdash with h | h <;> cases h
  rw [Lexeme.read?_of_digit hc, hdate, Option.none_or, readNumber?, htext, List.drop_length]
  rfl

/-- A numeral is one lexeme. -/
theorem lexes_numeral {cs : List Char} (h : IsNumeral cs) :
    Lexes cs [.number (String.ofList cs)] :=
  .of_read? (read?_numeral h)

theorem numberText_cases (cs : List Char) :
    numberText cs = cs.takeWhile Char.isDigit ∨
      ∃ part : List Char, cs.takeWhile Char.isDigit ≠ [] ∧ part ≠ [] ∧
        (∀ c ∈ part, c.isDigit = true) ∧
        numberText cs = cs.takeWhile Char.isDigit ++ '.' :: part := by
  rw [numberText]
  split
  · rename_i r _
    dsimp only
    split
    · exact .inl rfl
    · rename_i hempty
      simp only [Bool.or_eq_true, not_or, List.isEmpty_iff] at hempty
      exact .inr ⟨r.takeWhile Char.isDigit, hempty.1, hempty.2,
        fun _ ↦ List.mem_takeWhile_imp, rfl⟩
  · exact .inl rfl

theorem isNumeral_numberText {cs : List Char} (h : numberText cs ≠ []) :
    IsNumeral (numberText cs) := by
  have hwhole : ∀ c ∈ cs.takeWhile Char.isDigit, c.isDigit = true := fun _ ↦ List.mem_takeWhile_imp
  obtain htext | ⟨part, hne, hpartNe, hpart, htext⟩ := numberText_cases cs
  · rw [htext] at h ⊢
    exact ⟨_, [], h, hwhole, by simp, (numeral_nil _).symm⟩
  · rw [htext]
    exact ⟨_, part, hne, hwhole, hpart, (numeral_of_ne_nil _ hpartNe).symm⟩

theorem isNumeral_of_read? {cs : List Char} {l : Lexeme} {s : String}
    (h : Lexeme.read? cs = some l) (hs : l.kind = .number s) : IsNumeral s.toList := by
  have hnumber := (Lexeme.kind_of_read? h).2 s hs
  simp only [readNumber?, Option.ite_none_right_eq_some, Option.some.injEq, Bool.and_eq_true]
    at hnumber
  obtain ⟨⟨hne, -⟩, rfl⟩ := hnumber
  obtain rfl := TokenKind.number.inj hs
  rw [String.toList_ofList]
  exact isNumeral_numberText (by simpa using hne)

/-- **What the lexer takes for a number is a numeral.** -/
theorem Lexes.isNumeral {cs : List Char} {ks : List TokenKind} (h : Lexes cs ks) {s : String}
    (hs : .number s ∈ ks) : IsNumeral s.toList := by
  induction h with
  | blank => cases hs
  | lexeme first _ ih =>
    rcases List.mem_cons.1 hs with hs | hs
    · exact isNumeral_of_read? first hs.symm
    · exact ih hs

/-! ## Numbers and days -/

/-- The tokens of a finite number: a minus sign if it has one, and a numeral. -/
def Binary64.tokens (x : Binary64) : List TokenKind :=
  (if x.negative then [.minus] else []) ++ [.number (String.ofList x.magnitude.plainText)]

theorem isNumeral_of_isFinite {x : Binary64} (h : x.isFinite = true) :
    IsNumeral x.magnitude.plainText := by
  obtain ⟨negative, magnitude⟩ := x
  cases magnitude with
  | finite rank => exact Binary64.isNumeral_plainText rank
  | infinite => cases h
  | nan => cases h

theorem lexes_plainText {x : Binary64} (h : x.isFinite = true) :
    Lexes x.plainText.toList x.tokens := by
  have hnumeral := lexes_numeral (isNumeral_of_isFinite h)
  have hnan : (x.magnitude != .nan) = true := by
    obtain ⟨negative, magnitude⟩ := x
    cases magnitude with
    | nan => cases h
    | _ => rfl
  rw [Binary64.plainText, String.toList_ofList, hnan, Bool.and_true, Binary64.tokens]
  split
  · exact .symbol rfl rfl hnumeral
  · exact hnumeral

theorem isDigit_head_of_isDateShape {c : Char} {r : List Char} (h : isDateShape (c :: r) = true) :
    c.isDigit = true := by
  unfold isDateShape at h
  split at h
  · rename_i heq
    obtain ⟨rfl, -⟩ := List.cons.inj heq
    exact (Bool.and_eq_true_iff.1 h).1
  · cases h

/-- A text in the shape of a date is read as a date. -/
theorem read?_date {cs : List Char} (h : isDateShape cs = true) :
    Lexeme.read? cs = some ⟨.date (String.ofList cs), cs, []⟩ := by
  obtain ⟨hlength, -⟩ := isIdentChar_of_isDateShape h
  have htake : cs.take 10 = cs := List.take_of_length_le (Nat.le_of_eq hlength)
  have hdrop : cs.drop 10 = [] := List.drop_eq_nil_of_le (Nat.le_of_eq hlength)
  have hdate : readDate? cs = some ⟨.date (String.ofList cs), cs, []⟩ := by
    rw [readDate?, htake, hdrop, h]
    rfl
  cases cs with
  | nil => cases h
  | cons c r =>
    rw [Lexeme.read?_of_digit (isDigit_head_of_isDateShape h), hdate, Option.some_or]

/-- A text in the shape of a date is one lexeme. -/
theorem lexes_date {cs : List Char} (h : isDateShape cs = true) :
    Lexes cs [.date (String.ofList cs)] :=
  .of_read? (read?_date h)

theorem lexes_day {d : Date} (h : 0 ≤ d.year) : Lexes d.text.toList [.date d.text] := by
  have hlex := lexes_date (Date.isDateShape_text h)
  rwa [String.ofList_toList] at hlex

/-! ## Keys, values and patterns -/

theorem isNumeral_of_isPlainNumber {cs : List Char} (h : isPlainNumber cs = true) :
    IsNumeral cs := by
  have happend : cs.takeWhile (· != '.') ++ cs.dropWhile (· != '.') = cs :=
    List.takeWhile_append_dropWhile
  rw [isPlainNumber] at h
  cases hdrop : cs.dropWhile (· != '.') with
  | nil =>
    rw [hdrop] at h happend
    simp only [Bool.and_eq_true, Bool.not_eq_true', List.isEmpty_eq_false_iff,
      List.all_eq_true] at h
    rw [List.append_nil] at happend
    rw [happend] at h
    exact ⟨cs, [], h.1.1.1, h.1.1.2, by simp, (numeral_nil cs).symm⟩
  | cons c part =>
    have hc : c = '.' := by
      have hne := List.head_dropWhile_not (· != '.') (l := cs) (by simp [hdrop])
      simpa [hdrop] using hne
    subst hc
    rw [hdrop] at h happend
    simp only [Bool.and_eq_true, Bool.not_eq_true', List.isEmpty_eq_false_iff,
      List.all_eq_true] at h
    obtain ⟨⟨⟨hwhole, hwholeDigits⟩, hpart⟩, hpartDigits⟩ := h
    refine ⟨_, part, hwhole, hwholeDigits, hpartDigits, ?_⟩
    rw [numeral_of_ne_nil _ hpart, happend]

theorem isDigit_head_of_isPlainNumber {cs : List Char} (h : isPlainNumber cs = true) :
    ∃ (c : Char) (r : List Char), cs = c :: r ∧ c.isDigit = true := by
  obtain ⟨whole, part, hne, hwhole, -, rfl⟩ := isNumeral_of_isPlainNumber h
  obtain ⟨c, whole, rfl⟩ := List.exists_cons_of_ne_nil hne
  exact ⟨c, numeral whole part, numeral_cons c whole part, hwhole c List.mem_cons_self⟩

/-- The token of a key, a value or a pattern as it is written. -/
def literalToken (s : String) : TokenKind :=
  if isBareLiteral s.toList then
    if s.toList.head?.any isIdentStart then .ident s else .number s
  else .str s

theorem readQuoted?_cons {quote c : Char} {cs value text rest : List Char} (hquote : c ≠ quote)
    (hescape : c ≠ '\\') (h : readQuoted? quote cs = some (value, text, rest)) :
    readQuoted? quote (c :: cs) = some (c :: value, c :: text, rest) := by
  cases cs with
  | nil => cases h
  | cons e r => rw [readQuoted?, if_neg hquote, if_neg hescape, h, Option.map_some]

/-- A text in quotes, the quotes and backslashes in it escaped. -/
theorem readQuoted?_literal (cs : List Char) :
    readQuoted? '\x22' (cs.flatMap literalChar ++ ['\x22']) =
      some (cs, cs.flatMap literalChar ++ ['\x22'], []) := by
  induction cs with
  | nil => rfl
  | cons c cs ih =>
    rw [List.flatMap_cons, List.append_assoc]
    by_cases hescape : c = '\\'
    · subst hescape
      rw [literalChar, if_pos rfl, List.cons_append, List.cons_append, List.nil_append, readQuoted?,
        if_neg (by decide), if_pos rfl, ih]
      rfl
    · by_cases hquote : c = '\x22'
      · subst hquote
        rw [literalChar, if_neg (by decide), if_pos rfl, List.cons_append, List.cons_append,
          List.nil_append, readQuoted?, if_neg (by decide), if_pos rfl, ih]
        rfl
      · rw [literalChar, if_neg hescape, if_neg hquote, List.cons_append, List.nil_append]
        exact readQuoted?_cons hquote hescape ih

theorem read?_quoted (cs : List Char) :
    Lexeme.read? ('\x22' :: cs.flatMap literalChar ++ ['\x22']) =
      some ⟨.str (String.ofList cs), '\x22' :: cs.flatMap literalChar ++ ['\x22'], []⟩ := by
  have hquote : isQuote '\x22' = true := by decide
  rw [List.cons_append, Lexeme.read?_of_quote hquote, readString?, if_pos hquote,
    readQuoted?_literal, Option.map_some]

theorem lexes_quoted (cs : List Char) :
    Lexes ('\x22' :: cs.flatMap literalChar ++ ['\x22']) [.str (String.ofList cs)] :=
  .of_read? (read?_quoted cs)

/-- A name is read as a name, unless it is reserved. -/
theorem read?_name {cs : List Char} (h : Lexes.IsWord cs)
    (hreserved : isReserved (String.ofList cs) = false) :
    Lexeme.read? cs = some ⟨.ident (String.ofList cs), cs, []⟩ := by
  have hkind : wordKind (String.ofList cs) = .ident (String.ofList cs) := by
    simp only [isReserved, Bool.or_eq_false_iff, Option.isSome_eq_false_iff,
      Option.isNone_iff_eq_none] at hreserved
    rw [wordKind, hreserved.1.1]
  obtain ⟨c, w, rfl, hc, hw⟩ := h
  have hread := Lexes.readWord?_eq hc (List.all_eq_true.1 hw) (r := []) rfl
  rwa [List.append_nil, hkind] at hread

/-- A name is one lexeme. -/
theorem lexes_name {cs : List Char} (h : Lexes.IsWord cs)
    (hreserved : isReserved (String.ofList cs) = false) :
    Lexes cs [.ident (String.ofList cs)] :=
  .of_read? (read?_name h hreserved)

/-- **A key, a value or a pattern is read as its token**, whose text is what was written. -/
theorem read?_literal (s : String) :
    Lexeme.read? (literalChars s) = some ⟨literalToken s, literalChars s, []⟩ := by
  unfold literalChars literalToken
  dsimp only
  split
  · rename_i hbare
    cases hs : s.toList with
    | nil =>
      rw [hs] at hbare
      cases hbare
    | cons c rest =>
      have hofList : String.ofList (c :: rest) = s := by rw [← hs, String.ofList_toList]
      rw [hs, isBareLiteral] at hbare
      rw [List.head?_cons, Option.any_some]
      split at hbare
      · rename_i hc
        rw [if_pos hc]
        simp only [Bool.and_eq_true, Bool.not_eq_true'] at hbare
        have hread := read?_name ⟨c, rest, rfl, hc, hbare.1⟩ hbare.2
        rwa [hofList] at hread
      · rename_i hc
        rw [if_neg hc]
        have hread := read?_numeral (isNumeral_of_isPlainNumber hbare)
        rwa [hofList] at hread
  · have hread := read?_quoted s.toList
    rwa [String.ofList_toList] at hread

/-- **A key, a value or a pattern is one lexeme**, and its text is what was written. -/
theorem lexes_literal (s : String) : Lexes (literalChars s) [literalToken s] :=
  .of_read? (read?_literal s)

theorem literalToken_cases (s : String) :
    literalToken s = .ident s ∨ literalToken s = .str s ∨ literalToken s = .number s := by
  rw [literalToken]
  split
  · split
    · exact .inl rfl
    · exact .inr (.inr rfl)
  · exact .inr (.inl rfl)

/-- Just the numerals are read back as numbers. -/
theorem literalToken_eq_number_iff {s : String} :
    literalToken s = .number s ↔ isPlainNumber s.toList = true := by
  rw [literalToken]
  constructor
  · intro h
    split at h
    · rename_i hbare
      split at h
      · cases h
      · rename_i hstart
        unfold isBareLiteral at hbare
        split at hbare
        · cases hbare
        · rename_i c rest hs
          rw [hs, List.head?_cons, Option.any_some] at hstart
          rwa [if_neg hstart] at hbare
    · cases h
  · intro h
    obtain ⟨c, rest, htext, hdigit⟩ := isDigit_head_of_isPlainNumber h
    have hstart := isIdentStart_of_isDigit hdigit
    have hbare : isBareLiteral s.toList = true := by
      rw [htext] at h ⊢
      rw [isBareLiteral, hstart]
      exact h
    rw [if_pos hbare, htext, List.head?_cons, Option.any_some, hstart]
    rfl

/-- No literal starts with a character that makes an exclamation mark longer. -/
theorem literalChars_eq_cons (s : String) :
    ∃ (c : Char) (r : List Char), literalChars s = c :: r ∧ c ≠ '=' ∧ c ≠ '~' := by
  have hstart : ∀ c : Char, isIdentStart c = true ∨ c.isDigit = true → c ≠ '=' ∧ c ≠ '~' := by
    intro c hc
    constructor <;>
    · rintro rfl
      rcases hc with hc | hc <;> exact absurd hc (by decide)
  unfold literalChars
  dsimp only
  split
  · rename_i hbare
    cases hs : s.toList with
    | nil =>
      rw [hs] at hbare
      cases hbare
    | cons c rest =>
      rw [hs, isBareLiteral] at hbare
      refine ⟨c, rest, rfl, hstart c ?_⟩
      split at hbare
      · rename_i hident
        exact .inl hident
      · obtain ⟨d, r, hcons, hdigit⟩ := isDigit_head_of_isPlainNumber hbare
        exact .inr ((List.cons.inj hcons).1 ▸ hdigit)
  · exact ⟨_, _, rfl, by decide, by decide⟩

end SurveyQuests
