import SurveyQuests.Filter.Lexer
import Mathlib.Data.List.Basic

/-!
# The tokens of a text put together from texts

A lexeme that is read from the front of a text is read from a longer text as well, provided that
what is added does not run into it.  It does not if it starts with a character that neither goes on
a name, as letters, digits, points and hyphens do, nor makes an operator longer; a blank, a
parenthesis and a comma are such characters.  So the tokens of a text that is put together from
others with such characters between them are the tokens of these texts, put together.

## What is here

* `Lexeme.read?_of_symbol`, `Lexeme.read?_of_quote`, `Lexeme.read?_of_digit`,
  `Lexeme.read?_of_identStart` — the first character tells what kind of lexeme there is;
* `IsDelimited`, `Lexeme.read?_append`;
* `Lexes` — the tokens of a text without their places, with `Lexes.append` and `Lexes.unique`;
* `tokenize_eq_ok` — these are the tokens that the lexer gives.
-/

set_option autoImplicit false

namespace SurveyQuests

/-! ## Classes of characters -/

theorem isIdentChar_of_isDigit {c : Char} (h : c.isDigit = true) : isIdentChar c = true := by
  rw [isIdentChar, Character.isAlphanumeric, Character.isNumeric_of_isDigit h]
  simp only [Bool.or_true, Bool.true_or]

theorem isIdentStart_of_isDigit {c : Char} (h : c.isDigit = true) : isIdentStart c = false := by
  have hc := Character.toNat_of_isDigit h
  have halpha : c.isAlpha = false := by
    rw [Bool.eq_false_iff]
    intro ha
    have := Character.toNat_of_isAlpha ha
    omega
  have hlow : (c == '_') = false := by
    rw [beq_eq_false_iff_ne]
    rintro rfl
    exact absurd hc.2 (by decide)
  have hlt : c.toNat < 0x80 := by omega
  rw [isIdentStart, Character.isAlphabetic, if_pos hlt, halpha, hlow]
  rfl

/-- Does an operator or a punctuation mark start with the character? -/
def isSymbolStart (c : Char) : Bool :=
  ['=', '~', '<', '>', '!', '-', '(', ')', ','].contains c

theorem isSymbolStart_cases {c : Char} (h : isSymbolStart c = true) :
    c = '=' ∨ c = '~' ∨ c = '<' ∨ c = '>' ∨ c = '!' ∨ c = '-' ∨ c = '(' ∨ c = ')' ∨ c = ',' := by
  simpa [isSymbolStart] using h

theorem isQuote_cases {c : Char} (h : isQuote c = true) : c = '\x22' ∨ c = '\x27' := by
  simpa [isQuote] using h

theorem isSymbolStart_of_isDigit {c : Char} (h : c.isDigit = true) : isSymbolStart c = false := by
  rw [Bool.eq_false_iff]
  intro hs
  rcases isSymbolStart_cases hs with rfl | rfl | rfl | rfl | rfl | rfl | rfl | rfl | rfl <;>
    exact absurd h (by decide)

theorem isSymbolStart_of_isIdentStart {c : Char} (h : isIdentStart c = true) :
    isSymbolStart c = false := by
  rw [Bool.eq_false_iff]
  intro hs
  rcases isSymbolStart_cases hs with rfl | rfl | rfl | rfl | rfl | rfl | rfl | rfl | rfl <;>
    exact absurd h (by decide)

theorem isQuote_of_isDigit {c : Char} (h : c.isDigit = true) : isQuote c = false := by
  rw [Bool.eq_false_iff]
  intro hs
  rcases isQuote_cases hs with rfl | rfl <;> exact absurd h (by decide)

theorem isQuote_of_isIdentStart {c : Char} (h : isIdentStart c = true) : isQuote c = false := by
  rw [Bool.eq_false_iff]
  intro hs
  rcases isQuote_cases hs with rfl | rfl <;> exact absurd h (by decide)

/-! ## The first character of a lexeme -/

theorem readSymbol?_eq_none {c : Char} {r : List Char} (h : isSymbolStart c = false) :
    readSymbol? (c :: r) = none := by
  unfold readSymbol?
  split <;> first | rfl | (rename_i hcs; cases hcs; exact absurd h (by decide))

theorem readString?_eq_none {c : Char} {r : List Char} (h : isQuote c = false) :
    readString? (c :: r) = none := by
  rw [readString?, h]
  rfl

theorem readDate?_eq_none {c : Char} {r : List Char} (h : c.isDigit = false) :
    readDate? (c :: r) = none := by
  rw [readDate?, if_neg]
  intro hs
  obtain ⟨hs, -⟩ := Bool.and_eq_true_iff.1 hs
  unfold isDateShape at hs
  split at hs
  · rename_i heq
    obtain ⟨rfl, -⟩ := List.cons.inj heq
    rw [List.all_cons, h] at hs
    cases hs
  · cases hs

theorem numberText_eq_nil {c : Char} {r : List Char} (h : c.isDigit = false) :
    numberText (c :: r) = [] := by
  have htake : (c :: r).takeWhile Char.isDigit = [] := List.takeWhile_cons_of_neg (by simp [h])
  rw [numberText]
  rw [htake]
  split <;> rfl

theorem readNumber?_eq_none {c : Char} {r : List Char} (h : c.isDigit = false) :
    readNumber? (c :: r) = none := by
  rw [readNumber?, numberText_eq_nil h]
  rfl

theorem readWord?_eq_none {c : Char} {r : List Char} (h : isIdentStart c = false) :
    readWord? (c :: r) = none := by
  rw [readWord?, h]
  rfl

namespace Lexeme

/-- Every first character of an operator or a punctuation mark is one by itself. -/
theorem exists_readSymbol? {c : Char} {r : List Char} (h : isSymbolStart c = true) :
    ∃ l, readSymbol? (c :: r) = some l := by
  rcases isSymbolStart_cases h with rfl | rfl | rfl | rfl | rfl | rfl | rfl | rfl | rfl <;>
    unfold readSymbol? <;> split <;> first | exact ⟨_, rfl⟩ | simp_all

theorem read?_of_symbol {c : Char} {r : List Char} (h : isSymbolStart c = true) :
    read? (c :: r) = readSymbol? (c :: r) := by
  obtain ⟨l, hl⟩ := exists_readSymbol? (r := r) h
  rw [read?, hl]
  rfl

theorem read?_of_quote {c : Char} {r : List Char} (h : isQuote c = true) :
    read? (c :: r) = readString? (c :: r) := by
  have hsymbol : isSymbolStart c = false ∧ c.isDigit = false ∧ isIdentStart c = false := by
    rcases isQuote_cases h with rfl | rfl <;> decide
  rw [read?, readSymbol?_eq_none hsymbol.1, readDate?_eq_none hsymbol.2.1,
    readNumber?_eq_none hsymbol.2.1, readWord?_eq_none hsymbol.2.2]
  cases readString? (c :: r) <;> rfl

theorem read?_of_digit {c : Char} {r : List Char} (h : c.isDigit = true) :
    read? (c :: r) = (readDate? (c :: r)).or (readNumber? (c :: r)) := by
  rw [read?, readSymbol?_eq_none (isSymbolStart_of_isDigit h),
    readString?_eq_none (isQuote_of_isDigit h), readWord?_eq_none (isIdentStart_of_isDigit h)]
  cases readDate? (c :: r) <;> cases readNumber? (c :: r) <;> rfl

theorem read?_of_identStart {c : Char} {r : List Char} (h : isIdentStart c = true) :
    read? (c :: r) = readWord? (c :: r) := by
  have hdigit : c.isDigit = false := by
    rw [Bool.eq_false_iff]
    intro hd
    rw [isIdentStart_of_isDigit hd] at h
    cases h
  rw [read?, readSymbol?_eq_none (isSymbolStart_of_isIdentStart h),
    readString?_eq_none (isQuote_of_isIdentStart h), readDate?_eq_none hdigit,
    readNumber?_eq_none hdigit]
  rfl

/-- No lexeme starts with any other character. -/
theorem starts_of_read? {c : Char} {r : List Char} {l : Lexeme} (h : read? (c :: r) = some l) :
    isSymbolStart c = true ∨ isQuote c = true ∨ c.isDigit = true ∨ isIdentStart c = true := by
  by_contra hnot
  simp only [not_or, Bool.not_eq_true] at hnot
  obtain ⟨hs, hq, hd, hi⟩ := hnot
  rw [read?, readSymbol?_eq_none hs, readString?_eq_none hq, readDate?_eq_none hd,
    readNumber?_eq_none hd, readWord?_eq_none hi] at h
  cases h

end Lexeme

/-! ## Texts that go on -/

/-- Does the text end a lexeme before it?  It starts with no character that could go on a name or a
number, or make an operator longer. -/
def IsDelimited (ds : List Char) : Prop :=
  ∀ c ∈ ds.head?, isIdentChar c = false ∧ c ≠ '=' ∧ c ≠ '~'

theorem isDelimited_cons {c : Char} {ds : List Char} :
    IsDelimited (c :: ds) ↔ isIdentChar c = false ∧ c ≠ '=' ∧ c ≠ '~' := by
  simp [IsDelimited]

/-- The lexeme with more text after it. -/
def Lexeme.withMore (l : Lexeme) (ds : List Char) : Lexeme := { l with rest := l.rest ++ ds }

theorem readQuoted?_append {quote : Char} {cs value text rest : List Char} (ds : List Char)
    (h : readQuoted? quote cs = some (value, text, rest)) :
    readQuoted? quote (cs ++ ds) = some (value, text, rest ++ ds) := by
  fun_induction readQuoted? quote cs generalizing value text rest with
  | case1 => cases h
  | case2 =>
    cases h
    cases ds <;> simp [readQuoted?]
  | case3 => cases h
  | case4 e r =>
    cases h
    simp [readQuoted?]
  | case5 e r hne ih =>
    obtain ⟨⟨v, t, s⟩, ht, he⟩ := Option.map_eq_some_iff.1 h
    cases he
    simp [readQuoted?, hne, ih ht]
  | case6 c e r hquote hescape ih =>
    obtain ⟨⟨v, t, s⟩, ht, he⟩ := Option.map_eq_some_iff.1 h
    cases he
    have hrest := ih ht
    rw [List.cons_append] at hrest
    simp [readQuoted?, hquote, hescape, hrest]

theorem readString?_append {cs : List Char} {l : Lexeme} (ds : List Char)
    (h : readString? cs = some l) : readString? (cs ++ ds) = some (l.withMore ds) := by
  cases cs with
  | nil => cases h
  | cons c r =>
    rw [List.cons_append, readString?]
    rw [readString?] at h
    split at h
    · rename_i hquote
      obtain ⟨⟨v, t, s⟩, ht, he⟩ := Option.map_eq_some_iff.1 h
      cases he
      rw [if_pos hquote, readQuoted?_append ds ht]
      rfl
    · cases h

theorem isIdentChar_of_isDateShape {cs : List Char} (h : isDateShape cs = true) :
    cs.length = 10 ∧ ∀ c ∈ cs, isIdentChar c = true := by
  unfold isDateShape at h
  split at h
  · refine ⟨rfl, fun x hx ↦ ?_⟩
    simp only [List.all_cons, List.all_nil, Bool.and_eq_true] at h
    obtain ⟨h₀, h₁, h₂, h₃, h₄, h₅, h₆, h₇, -⟩ := h
    simp only [List.mem_cons, List.not_mem_nil, or_false] at hx
    have hdash : isIdentChar '-' = true := by decide
    rcases hx with rfl | rfl | rfl | rfl | rfl | rfl | rfl | rfl | rfl | rfl <;>
      first | exact hdash | exact isIdentChar_of_isDigit ‹_›
  · cases h

/-! ### Names and numbers

They end where no name could go on, and nothing else matters to what follows them. -/

section

variable {ds : List Char} (hd : continuesName ds = false)

include hd

theorem takeWhile_append_of_ends {p : Char → Bool} (hp : ∀ c, p c = true → isIdentChar c = true)
    (cs : List Char) : (cs ++ ds).takeWhile p = cs.takeWhile p := by
  induction cs with
  | nil =>
    cases ds with
    | nil => rfl
    | cons d ds =>
      refine List.takeWhile_cons_of_neg fun h ↦ ?_
      have hident := hp d h
      rw [continuesName, hident] at hd
      cases hd
  | cons c cs ih => rw [List.cons_append, List.takeWhile_cons, List.takeWhile_cons, ih]

theorem dropWhile_append_of_ends {p : Char → Bool} (hp : ∀ c, p c = true → isIdentChar c = true)
    (cs : List Char) : (cs ++ ds).dropWhile p = cs.dropWhile p ++ ds := by
  induction cs with
  | nil =>
    cases ds with
    | nil => rfl
    | cons d ds =>
      refine List.dropWhile_cons_of_neg fun h ↦ ?_
      have hident := hp d h
      rw [continuesName, hident] at hd
      cases hd
  | cons c cs ih =>
    rw [List.cons_append, List.dropWhile_cons, List.dropWhile_cons, ih]
    split <;> rfl

theorem continuesName_append (cs : List Char) :
    continuesName (cs ++ ds) = continuesName cs := by
  cases cs with
  | cons c cs => rfl
  | nil => exact hd

theorem numberText_append (cs : List Char) : numberText (cs ++ ds) = numberText cs := by
  have hdigit : ∀ c : Char, c.isDigit = true → isIdentChar c = true :=
    fun c ↦ isIdentChar_of_isDigit
  rw [numberText, numberText]
  rw [takeWhile_append_of_ends hd hdigit, dropWhile_append_of_ends hd hdigit]
  cases cs.dropWhile Char.isDigit with
  | nil =>
    cases ds with
    | nil => rfl
    | cons d ds =>
      have hpoint : d ≠ '.' := by
        rintro rfl
        have hident : isIdentChar '.' = false := hd
        exact absurd hident (by decide)
      simp [hpoint]
  | cons c r =>
    by_cases hc : c = '.'
    · subst hc
      simp only [List.cons_append, takeWhile_append_of_ends hd hdigit]
    · simp [hc]

theorem readDate?_append (cs : List Char) :
    readDate? (cs ++ ds) = (readDate? cs).map fun l ↦ l.withMore ds := by
  unfold readDate?
  dsimp only
  by_cases hle : 10 ≤ cs.length
  · rw [List.take_append_of_le_length hle, List.drop_append_of_le_length hle,
      continuesName_append hd]
    split <;> rfl
  -- The text is too short for a date, and what is added cannot make it one.
  · have hshort : isDateShape (cs.take 10) = false := by
      rw [Bool.eq_false_iff]
      intro h
      have hlength := (isIdentChar_of_isDateShape h).1
      rw [List.length_take] at hlength
      omega
    have hlong : isDateShape ((cs ++ ds).take 10) = false := by
      rw [Bool.eq_false_iff]
      intro h
      obtain ⟨hlength, hident⟩ := isIdentChar_of_isDateShape h
      cases ds with
      | nil =>
        rw [List.append_nil] at h
        rw [h] at hshort
        cases hshort
      | cons d ds =>
        have hmem : d ∈ (cs ++ d :: ds).take 10 := by
          rw [List.take_append, List.mem_append]
          refine .inr ?_
          obtain ⟨n, hn⟩ : ∃ n, 10 - cs.length = n + 1 := ⟨9 - cs.length, by omega⟩
          rw [hn, List.take_succ_cons]
          exact List.mem_cons_self
        rw [continuesName, hident d hmem] at hd
        cases hd
    rw [hshort, hlong]
    rfl

theorem readNumber?_append (cs : List Char) :
    readNumber? (cs ++ ds) = (readNumber? cs).map fun l ↦ l.withMore ds := by
  have hle : (numberText cs).length ≤ cs.length := (numberText_isPrefixOf cs).length_le
  have hdrop : (cs ++ ds).drop (numberText cs).length = cs.drop (numberText cs).length ++ ds :=
    List.drop_append_of_le_length hle
  unfold readNumber?
  rw [numberText_append hd]
  dsimp only
  rw [hdrop, continuesName_append hd]
  split <;> rfl

theorem readWord?_append {c : Char} {r : List Char} :
    readWord? (c :: r ++ ds) = (readWord? (c :: r)).map fun l ↦ l.withMore ds := by
  have hp : ∀ c : Char, isIdentChar c = true → isIdentChar c = true := fun _ h ↦ h
  rw [List.cons_append, readWord?, readWord?, takeWhile_append_of_ends hd hp,
    dropWhile_append_of_ends hd hp]
  split <;> rfl

/-- A number, a date or a name stays as it is in front of what no name could go on with. -/
theorem Lexeme.read?_append_of_ends {c : Char} {r : List Char} {l : Lexeme}
    (hc : c.isDigit = true ∨ isIdentStart c = true) (h : Lexeme.read? (c :: r) = some l) :
    Lexeme.read? (c :: r ++ ds) = some (l.withMore ds) := by
  rcases hc with hc | hc
  · rw [read?_of_digit hc] at h
    rw [List.cons_append, read?_of_digit hc, ← List.cons_append, readDate?_append hd,
      readNumber?_append hd, ← Option.map_or, h]
    rfl
  · rw [read?_of_identStart hc] at h
    rw [List.cons_append, read?_of_identStart hc, ← List.cons_append, readWord?_append hd, h]
    rfl

end

/-! ### All lexemes -/

section

variable {ds : List Char} (hd : IsDelimited ds)

include hd

theorem IsDelimited.continuesName_eq_false : continuesName ds = false := by
  cases ds with
  | nil => rfl
  | cons d ds => exact (isDelimited_cons.1 hd).1

theorem readSymbol?_append {cs : List Char} {l : Lexeme} (h : readSymbol? cs = some l) :
    readSymbol? (cs ++ ds) = some (l.withMore ds) := by
  match cs with
  | [] => cases h
  | [c] =>
    cases ds with
    | nil =>
      rw [List.append_nil, h]
      simp [Lexeme.withMore]
    | cons d ds =>
      obtain ⟨-, hne, hnt⟩ := isDelimited_cons.1 hd
      unfold readSymbol? at h
      split at h <;> first
        | (cases h; done)
        | (rename_i heq; cases heq <;> cases h <;> simp [readSymbol?, Lexeme.withMore, hne, hnt])
  | c :: d :: r =>
    unfold readSymbol? at h
    split at h <;> first
      | (cases h; done)
      | (rename_i heq; cases heq; cases h; simp_all [readSymbol?, Lexeme.withMore])

/-- **A lexeme stays as it is when something is added that does not run into it.** -/
theorem Lexeme.read?_append {cs : List Char} {l : Lexeme} (h : Lexeme.read? cs = some l) :
    Lexeme.read? (cs ++ ds) = some (l.withMore ds) := by
  cases cs with
  | nil => cases h
  | cons c r =>
    rcases Lexeme.starts_of_read? h with hc | hc | hc
    · rw [read?_of_symbol hc] at h
      rw [List.cons_append, read?_of_symbol hc]
      exact readSymbol?_append hd h
    · rw [read?_of_quote hc] at h
      rw [List.cons_append, read?_of_quote hc]
      exact readString?_append ds h
    · exact read?_append_of_ends hd.continuesName_eq_false hc h

end

theorem isBlank_of_isIdentStart {c : Char} (h : isIdentStart c = true) : isBlank c = false := by
  rw [Bool.eq_false_iff]
  intro hb
  simp only [isBlank, Bool.or_eq_true, beq_iff_eq] at hb
  rcases hb with ((rfl | rfl) | rfl) | rfl <;> exact absurd h (by decide)

theorem isBlank_of_isDigit {c : Char} (h : c.isDigit = true) : isBlank c = false := by
  rw [Bool.eq_false_iff]
  intro hb
  simp only [isBlank, Bool.or_eq_true, beq_iff_eq] at hb
  rcases hb with ((rfl | rfl) | rfl) | rfl <;> cases h

/-- No lexeme starts with a blank. -/
theorem Lexeme.isBlank_of_read? {c : Char} {r : List Char} {l : Lexeme}
    (h : Lexeme.read? (c :: r) = some l) : isBlank c = false := by
  rcases Lexeme.starts_of_read? h with hc | hc | hc | hc
  · rcases isSymbolStart_cases hc with rfl | rfl | rfl | rfl | rfl | rfl | rfl | rfl | rfl <;> rfl
  · rcases isQuote_cases hc with rfl | rfl <;> rfl
  · exact isBlank_of_isDigit hc
  · exact isBlank_of_isIdentStart hc

theorem Lexeme.dropWhile_of_read? {cs : List Char} {l : Lexeme} (h : Lexeme.read? cs = some l) :
    cs.dropWhile isBlank = cs := by
  cases cs with
  | nil => cases h
  | cons c r => exact List.dropWhile_cons_of_neg (by simp [Lexeme.isBlank_of_read? h])

/-! ## The tokens of a text -/

/-- **The text is made of tokens of these kinds**, with blanks between them. -/
inductive Lexes : List Char → List TokenKind → Prop where
  | blank {cs : List Char} (blank : cs.dropWhile isBlank = []) : Lexes cs []
  | lexeme {cs : List Char} {l : Lexeme} {ks : List TokenKind}
    (first : Lexeme.read? (cs.dropWhile isBlank) = some l) (more : Lexes l.rest ks) :
    Lexes cs (l.kind :: ks)

namespace Lexes

theorem nil : Lexes [] [] := .blank rfl

/-- Only what stands after the blanks in front counts. -/
theorem of_dropWhile {cs ds : List Char} {ks : List TokenKind}
    (h : cs.dropWhile isBlank = ds.dropWhile isBlank) (hl : Lexes cs ks) : Lexes ds ks := by
  cases hl with
  | blank blank => exact .blank (h ▸ blank)
  | lexeme first more => exact .lexeme (h ▸ first) more

/-- Blanks in front do not count. -/
theorem of_blank {c : Char} {cs : List Char} {ks : List TokenKind} (hc : isBlank c = true) :
    Lexes (c :: cs) ks ↔ Lexes cs ks := by
  have h : (c :: cs).dropWhile isBlank = cs.dropWhile isBlank := List.dropWhile_cons_of_pos hc
  exact ⟨of_dropWhile h, of_dropWhile h.symm⟩

/-- **A text has the tokens of one list only.** -/
theorem unique {cs : List Char} {ks ls : List TokenKind} (hk : Lexes cs ks) (hl : Lexes cs ls) :
    ks = ls := by
  induction hk generalizing ls with
  | blank blank =>
    cases hl with
    | blank => rfl
    | lexeme first =>
      rw [blank] at first
      cases first
  | lexeme first more ih =>
    cases hl with
    | blank blank =>
      rw [blank] at first
      cases first
    | lexeme first' more' =>
      obtain rfl := Option.some.inj (first.symm.trans first')
      rw [ih more']

/-- **The tokens of two texts, one after the other.** -/
theorem append {cs ds : List Char} {ks ls : List TokenKind} (hd : IsDelimited ds)
    (hk : Lexes cs ks) (hl : Lexes ds ls) : Lexes (cs ++ ds) (ks ++ ls) := by
  induction hk with
  | @blank cs blank =>
    refine of_dropWhile ?_ hl
    rw [List.dropWhile_append, blank]
    rfl
  | @lexeme cs l ks first more ih =>
    have hne : (cs.dropWhile isBlank).isEmpty = false := by
      cases h : cs.dropWhile isBlank with
      | nil =>
        rw [h] at first
        cases first
      | cons => rfl
    have hdrop : (cs ++ ds).dropWhile isBlank = cs.dropWhile isBlank ++ ds := by
      rw [List.dropWhile_append, hne]
      rfl
    have hfirst := Lexeme.read?_append hd first
    rw [← hdrop] at hfirst
    exact .lexeme (l := l.withMore ds) hfirst ih

/-- The tokens of a text that starts with a lexeme: that one, then the others. -/
theorem iff_of_read? {cs : List Char} {l : Lexeme} {ks : List TokenKind}
    (h : Lexeme.read? cs = some l) : Lexes cs ks ↔ ∃ ls, ks = l.kind :: ls ∧ Lexes l.rest ls := by
  have hdrop := Lexeme.dropWhile_of_read? h
  constructor
  · intro hl
    cases hl with
    | blank blank =>
      rw [← hdrop, blank] at h
      cases h
    | lexeme first more =>
      rw [hdrop, h] at first
      cases first
      exact ⟨_, rfl, more⟩
  · rintro ⟨ls, rfl, hl⟩
    rw [← hdrop] at h
    exact .lexeme h hl

/-- A text that is read as a lexeme as a whole. -/
theorem of_read? {cs : List Char} {k : TokenKind} (h : Lexeme.read? cs = some ⟨k, cs, []⟩) :
    Lexes cs [k] :=
  (iff_of_read? h).2 ⟨[], rfl, .nil⟩

/-- A parenthesis, a comma or a minus sign is a lexeme whatever follows. -/
theorem symbol {c : Char} {k : TokenKind} {r : List Char} {ks : List TokenKind}
    (hc : isSymbolStart c = true) (h : readSymbol? (c :: r) = some ⟨k, [c], r⟩)
    (hl : Lexes r ks) : Lexes (c :: r) (k :: ks) := by
  rw [← Lexeme.read?_of_symbol hc] at h
  exact (iff_of_read? h).2 ⟨ks, rfl, hl⟩

theorem parenthesized {f r : List Char} {ks ls : List TokenKind} (hf : Lexes f ks)
    (hr : Lexes r ls) :
    Lexes ('(' :: (f ++ ')' :: r)) (.leftParen :: (ks ++ .rightParen :: ls)) := by
  have hclose : Lexes (')' :: r) (.rightParen :: ls) := symbol rfl rfl hr
  have hdelimited : IsDelimited (')' :: r) := isDelimited_cons.2 (by decide)
  exact symbol rfl rfl (hf.append hdelimited hclose)

/-! ### Words -/

/-- Is the text a name, or a keyword? -/
def IsWord (w : List Char) : Prop :=
  ∃ (c : Char) (r : List Char), w = c :: r ∧ isIdentStart c = true ∧ r.all isIdentChar = true

theorem readWord?_eq {c : Char} {w r : List Char} (hc : isIdentStart c = true)
    (hw : ∀ x ∈ w, isIdentChar x = true) (hr : continuesName r = false) :
    Lexeme.read? (c :: (w ++ r)) = some ⟨wordKind (String.ofList (c :: w)), c :: w, r⟩ := by
  have hstop : r.takeWhile isIdentChar = [] ∧ r.dropWhile isIdentChar = r := by
    cases r with
    | nil => exact ⟨rfl, rfl⟩
    | cons x r =>
      have hx : ¬ isIdentChar x = true := by
        rw [continuesName] at hr
        simp [hr]
      exact ⟨List.takeWhile_cons_of_neg hx, List.dropWhile_cons_of_neg hx⟩
  rw [Lexeme.read?_of_identStart hc, readWord?, if_pos hc, List.takeWhile_append_of_pos hw,
    List.dropWhile_append_of_pos hw, hstop.1, hstop.2, List.append_nil]

/-- The tokens of a text that starts with a word. -/
theorem word_iff {w r : List Char} {ks : List TokenKind} (hw : IsWord w)
    (hr : continuesName r = false) :
    Lexes (w ++ r) ks ↔ ∃ ls, ks = wordKind (String.ofList w) :: ls ∧ Lexes r ls := by
  obtain ⟨c, w, rfl, hc, hw⟩ := hw
  exact iff_of_read? (readWord?_eq hc (List.all_eq_true.1 hw) hr)

theorem continuesName_space (r : List Char) : continuesName (' ' :: r) = false :=
  (by decide : isIdentChar ' ' = false)

theorem isWord_keyword (k : Keyword) : IsWord k.text.toList := by
  cases k <;> exact ⟨_, _, rfl, by decide, by decide⟩

theorem keyword {k : Keyword} {r : List Char} {ks : List TokenKind}
    (hr : continuesName r = false) (hl : Lexes r ks) :
    Lexes (k.text.toList ++ r) (.keyword k :: ks) := by
  have hk : wordKind (String.ofList k.text.toList) = .keyword k := by
    rw [String.ofList_toList, wordKind, Keyword.ofText?_text]
  exact (word_iff (isWord_keyword k) hr).2 ⟨ks, by rw [hk], hl⟩

/-! ### Texts with blanks between them -/

theorem spaced {cs ds : List Char} {ks ls : List TokenKind} (hcs : Lexes cs ks)
    (hds : Lexes ds ls) : Lexes (cs ++ ' ' :: ds) (ks ++ ls) :=
  hcs.append (isDelimited_cons.2 (by decide)) ((of_blank rfl).2 hds)

/-- The tokens of two texts with a keyword between them, set off by blanks. -/
theorem connective {cs ds : List Char} {ks ls : List TokenKind} (k : Keyword) (hcs : Lexes cs ks)
    (hds : Lexes ds ls) :
    Lexes (cs ++ ' ' :: (k.text.toList ++ ' ' :: ds)) (ks ++ .keyword k :: ls) :=
  hcs.spaced (keyword (continuesName_space ds) ((of_blank rfl).2 hds))

end Lexes

/-- No lexeme is the end of the text, and what is a number was read as a number. -/
theorem Lexeme.kind_of_read? {cs : List Char} {l : Lexeme} (h : Lexeme.read? cs = some l) :
    l.kind ≠ .eof ∧ ∀ s, l.kind = .number s → readNumber? cs = some l := by
  rcases Lexeme.read?_cases h with h | h | h | h | h
  · rw [readSymbol?.eq_def] at h
    split at h <;> cases h <;>
      exact ⟨TokenKind.noConfusion, fun _ hs ↦ TokenKind.noConfusion hs⟩
  · rw [readString?.eq_def] at h
    split at h
    · cases h
    · split at h
      · obtain ⟨_, -, rfl⟩ := Option.map_eq_some_iff.1 h
        exact ⟨TokenKind.noConfusion, fun _ hs ↦ TokenKind.noConfusion hs⟩
      · cases h
  · simp only [readDate?, Option.ite_none_right_eq_some, Option.some.injEq] at h
    rw [← h.2]
    exact ⟨TokenKind.noConfusion, fun _ hs ↦ TokenKind.noConfusion hs⟩
  · refine ⟨?_, fun _ _ ↦ h⟩
    simp only [readNumber?, Option.ite_none_right_eq_some, Option.some.injEq] at h
    rw [← h.2]
    exact TokenKind.noConfusion
  · rw [readWord?.eq_def] at h
    split at h
    · cases h
    · split at h
      · cases h
        dsimp only
        rw [wordKind]
        split <;> exact ⟨TokenKind.noConfusion, fun _ hs ↦ TokenKind.noConfusion hs⟩
      · cases h

theorem tokenizeFrom_eq_ok {cs : List Char} {pos : Nat} {ts : List Token}
    (h : tokenizeFrom pos cs = .ok ts) :
    ∃ (us : List Token) (e : Token), ts = us ++ [e] ∧ (∀ t ∈ us, t.kind ≠ .eof) ∧
      e.kind = .eof ∧ Lexes cs (us.map Token.kind) := by
  fun_induction tokenizeFrom pos cs generalizing ts with
  | case1 =>
    rename_i hblank
    cases h
    exact ⟨[], _, rfl, by simp, rfl, .blank hblank⟩
  | case2 => cases h
  | case3 =>
    rename_i pos cs start c rest hcs l hl ih
    cases hmore : tokenizeFrom (start + utf8Length l.text) l.rest with
    | error e =>
      rw [hmore] at h
      cases h
    | ok more =>
      rw [hmore] at h
      cases h
      obtain ⟨us, e, rfl, hus, he, hlex⟩ := ih hmore
      refine ⟨⟨l.kind, start⟩ :: us, e, rfl, ?_, he, ?_⟩
      · exact List.forall_mem_cons.2 ⟨(Lexeme.kind_of_read? hl).1, hus⟩
      · rw [← hcs] at hl
        exact .lexeme hl hlex

theorem tokenizeFrom_of_blank {cs : List Char} (h : cs.dropWhile isBlank = []) (pos : Nat) :
    tokenizeFrom pos cs = .ok [⟨.eof, pos + utf8Length (cs.takeWhile isBlank)⟩] := by
  rw [tokenizeFrom]
  split
  · rfl
  · rename_i heq
    rw [h] at heq
    cases heq

theorem tokenizeFrom_of_read? {cs : List Char} {l : Lexeme}
    (h : Lexeme.read? (cs.dropWhile isBlank) = some l) (pos : Nat) :
    tokenizeFrom pos cs =
      (tokenizeFrom (pos + utf8Length (cs.takeWhile isBlank) + utf8Length l.text) l.rest).map
        fun more ↦ ⟨l.kind, pos + utf8Length (cs.takeWhile isBlank)⟩ :: more := by
  rw [tokenizeFrom]
  split
  · rename_i heq
    rw [heq] at h
    cases h
  · rename_i heq
    rw [heq] at h
    split
    · rename_i hnone
      rw [hnone] at h
      cases h
    · rename_i hsome
      obtain rfl := Option.some.inj (hsome.symm.trans h)
      rfl

theorem Lexes.tokenizeFrom_eq_ok {cs : List Char} {ks : List TokenKind} (h : Lexes cs ks)
    (pos : Nat) : ∃ (us : List Token) (e : Token), tokenizeFrom pos cs = .ok (us ++ [e]) ∧
      us.map Token.kind = ks ∧ e.kind = .eof := by
  induction h generalizing pos with
  | blank blank => exact ⟨[], _, tokenizeFrom_of_blank blank pos, rfl, rfl⟩
  | @lexeme cs l ks first more ih =>
    obtain ⟨us, e, hmore, rfl, he⟩ :=
      ih (pos + utf8Length (cs.takeWhile isBlank) + utf8Length l.text)
    refine ⟨⟨l.kind, pos + utf8Length (cs.takeWhile isBlank)⟩ :: us, e, ?_, rfl, he⟩
    rw [tokenizeFrom_of_read? first, hmore]
    rfl

theorem Lexes.ne_eof {cs : List Char} {ks : List TokenKind} (h : Lexes cs ks) :
    ∀ k ∈ ks, k ≠ .eof := by
  induction h with
  | blank => simp
  | lexeme first _ ih => exact List.forall_mem_cons.2 ⟨(Lexeme.kind_of_read? first).1, ih⟩

end SurveyQuests
