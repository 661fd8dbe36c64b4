import SurveyQuests.Proofs.Filter.Literals
import SurveyQuests.Proofs.Unicode.WhiteSpace

/-!
# Literals in a longer text

A key, a value or a pattern that is written into a text is read from it again, whatever it consists
of: the lexeme ends where the literal does, and its token has the text that was written.  Behind the
literal may come white space, a comma or a closing parenthesis, of which none runs into it; for the
white space of all scripts that takes a look at the tables of letters and numerals.

A literal is written bare only where that will do.  So a name that is read from it is none of the
words that mean something by themselves, and what looks like a keyword or a date comes back as the
quoted text that it was written as.

## What is here

* `EndsLiteral`, `EndsLiteral.isDelimited` — what may come behind a literal;
* `isReserved_of_literalToken` — a literal that is read as a name is no reserved word;
* `literal_read_back` — **reading undoes writing**.
-/

set_option autoImplicit false

namespace SurveyQuests

/-! ## What may come behind a literal -/

/-- Is the text empty, or does it start with white space, a comma or a closing parenthesis? -/
def EndsLiteral (r : List Char) : Prop :=
  ∀ c ∈ r.head?, Character.isSpace c = true ∨ c = ',' ∨ c = ')'

/-- No name goes on with white space. -/
theorem isIdentChar_of_isSpace {c : Char} (h : Character.isSpace c = true) :
    isIdentChar c = false := by
  have hne : ∀ d : Char, Character.isSpace d = false → (c == d) = false := by
    intro d hd
    rw [beq_eq_false_iff_ne]
    rintro rfl
    rw [h] at hd
    cases hd
  rw [isIdentChar, Character.isAlphanumeric_of_isSpace h, hne '_' (by decide), hne ':' (by decide),
    hne '.' (by decide), hne '-' (by decide)]
  rfl

theorem EndsLiteral.isDelimited {r : List Char} (h : EndsLiteral r) : IsDelimited r := by
  intro c hc
  rcases h c hc with hspace | rfl | rfl
  · refine ⟨isIdentChar_of_isSpace hspace, ?_, ?_⟩ <;>
    · rintro rfl
      exact absurd hspace (by decide)
  · decide
  · decide

/-! ## Reading literals -/

/-- A literal is one lexeme of a longer text, and the rest of the text is left. -/
theorem read?_literal_append (s : String) {r : List Char} (hr : IsDelimited r) :
    Lexeme.read? (literalChars s ++ r) = some ⟨literalToken s, literalChars s, r⟩ :=
  Lexeme.read?_append hr (read?_literal s)

/-- What is read as a name is not reserved. -/
theorem isReserved_of_literalToken {s : String} (h : literalToken s = .ident s) :
    isReserved s = false := by
  rw [literalToken] at h
  split at h
  · rename_i hbare
    split at h
    · rename_i hstart
      cases hs : s.toList with
      | nil =>
        rw [hs] at hbare
        cases hbare
      | cons c rest =>
        rw [hs, List.head?_cons, Option.any_some] at hstart
        rw [hs, isBareLiteral, if_pos hstart, ← hs, String.ofList_toList, Bool.and_eq_true,
          Bool.not_eq_true'] at hbare
        exact hbare.2
    · cases h
  · cases h

theorem isReserved_eq_false_iff {s : String} :
    isReserved s = false ↔
      (∀ w : Keyword, s ≠ w.text) ∧ (∀ k : ElementKind, s ≠ k.plural) ∧ s ≠ "with" := by
  simp only [isReserved, Bool.or_eq_false_iff, Option.isSome_eq_false_iff,
    Option.isNone_iff_eq_none, Option.eq_none_iff_forall_ne_some, ne_eq,
    Keyword.ofText?_eq_some_iff, ElementKind.ofPlural?_eq_some_iff, beq_eq_false_iff_ne, and_assoc]

/-- **Reading undoes writing.**  Whatever text is written as a literal, the lexeme in front of what
may come behind it has exactly the characters that were written, and its token is a name, a quoted
text or a number with the text.  It is a name only if the text is neither a keyword nor an element
kind nor the word `with`. -/
theorem literal_read_back (s : String) {r : List Char} (hr : EndsLiteral r) :
    ∃ k : TokenKind, Lexeme.read? (literalChars s ++ r) = some ⟨k, literalChars s, r⟩ ∧
      (k = .ident s ∨ k = .str s ∨ k = .number s) ∧
      (k = .ident s →
        (∀ w : Keyword, s ≠ w.text) ∧ (∀ e : ElementKind, s ≠ e.plural) ∧ s ≠ "with") :=
  ⟨literalToken s, read?_literal_append s hr.isDelimited, literalToken_cases s,
    fun h ↦ isReserved_eq_false_iff.1 (isReserved_of_literalToken h)⟩

/-- A text with a quote, a letter beyond ASCII, a backslash and a line break, in front of a space
beyond ASCII. -/
theorem literal_read_back_escapes :
    let s := "\"ü\\\n"
    let r := ['\u00a0', ')']
    EndsLiteral r ∧ literalChars s = ['\x22', '\\', '\x22', 'ü', '\\', '\\', '\n', '\x22'] ∧
      ∃ k : TokenKind, Lexeme.read? (literalChars s ++ r) = some ⟨k, literalChars s, r⟩ ∧
        (k = .ident s ∨ k = .str s ∨ k = .number s) := by
  intro s r
  have hr : EndsLiteral r := by
    intro c hc
    cases hc
    exact .inl (by decide)
  obtain ⟨k, hread, hk, -⟩ := literal_read_back s hr
  exact ⟨hr, by decide +kernel, k, hread, hk⟩

end SurveyQuests
