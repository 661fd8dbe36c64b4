import SurveyQuests.Proofs.Filter.Layout
import Mathlib.Algebra.Group.Even
import Mathlib.Algebra.Group.Nat.Even

/-!
# Texts that are not made of tokens

The lexer gives up where it looks for a lexeme and there is none.  It then names a cause by the
first character alone: a quote must be the start of a text that is not closed, a digit the start of
a numeral that is none, and any other character is unknown.  The cause is right, since each kind of
lexeme has first characters of its own, and since for each of them it can be said without the lexer
what a lexeme would have to look like (`IsFault`, `isFault_iff`).

What stands before a fault are lexemes and blanks, and they are the same lexemes when the text ends
there.  For that it must not matter to a lexeme what was cut off, and it does not: of all that
follows a lexeme only the very next character counts (`Lexeme.read?_front`), and that is either cut
off or left.

## What is here

* `Closes`, `readQuoted?_eq_none_iff` — a quoted text is read if an unescaped quote closes it;
* `read?_eq_none_iff_of_digit` — what starts with a digit is read if its longest run is right;
* `IsFault`, `isFault_iff` — why no lexeme starts a text;
* `Taken`, `Taken.truncate` — lexemes at the front of a text, and of a shorter one;
* `tokenizeFrom_eq_error_iff` — where the lexer gives up;
* `tokenize_faults` — **the errors of the lexer are exact**.
-/

set_option autoImplicit false

namespace SurveyQuests

/-! ## Quotes that are closed -/

/-- The number of backslashes that a text ends with. -/
def backslashesAtEnd (cs : List Char) : Nat := (cs.reverse.takeWhile (· == '\\')).length

/-- Is there a quote in the text that is not escaped?  It has an even number of backslashes right
before it. -/
def Closes (quote : Char) (cs : List Char) : Prop :=
  ∃ before after : List Char, cs = before ++ quote :: after ∧ Even (backslashesAtEnd before)

theorem backslashesAtEnd_cons {c : Char} (h : c ≠ '\\') (cs : List Char) :
    backslashesAtEnd (c :: cs) = backslashesAtEnd cs := by
  have hstop : [c].takeWhile (· == '\\') = [] := List.takeWhile_cons_of_neg (by simpa using h)
  rw [backslashesAtEnd, backslashesAtEnd, List.reverse_cons, List.takeWhile_append, hstop,
    List.append_nil]
  split
  · rename_i hall
    exact hall.symm
  · rfl

/-- An escaped character leaves it open whether the number of backslashes is even. -/
theorem even_backslashesAtEnd_escape (e : Char) (cs : List Char) :
    Even (backslashesAtEnd ('\\' :: e :: cs)) ↔ Even (backslashesAtEnd cs) := by
  rw [backslashesAtEnd, backslashesAtEnd, List.reverse_cons, List.reverse_cons, List.append_assoc,
    List.takeWhile_append]
  split
  · rename_i hall
    by_cases he : e = '\\'
    · subst he
      simp [hall, Nat.even_add_one]
    · simp [hall, he]
  · rfl

theorem not_closes_nil (quote : Char) : ¬ Closes quote [] := by
  rintro ⟨before, after, h, -⟩
  simp at h

theorem closes_cons_self (quote : Char) (cs : List Char) : Closes quote (quote :: cs) :=
  ⟨[], cs, rfl, by decide⟩

theorem closes_cons_iff {quote c : Char} (hquote : c ≠ quote) (hescape : c ≠ '\\')
    (cs : List Char) : Closes quote (c :: cs) ↔ Closes quote cs := by
  constructor
  · rintro ⟨before, after, h, heven⟩
    obtain ⟨-, heq⟩ | ⟨before, rfl, rfl⟩ := List.cons_eq_append_iff.1 h
    · exact absurd (List.cons.inj heq).1.symm hquote
    · exact ⟨before, after, rfl, by rwa [backslashesAtEnd_cons hescape] at heven⟩
  · rintro ⟨before, after, rfl, heven⟩
    exact ⟨c :: before, after, rfl, by rwa [backslashesAtEnd_cons hescape]⟩

theorem not_closes_singleton {quote c : Char} (h : c ≠ quote) : ¬ Closes quote [c] := by
  rintro ⟨before, after, hcs, -⟩
  obtain ⟨-, heq⟩ | ⟨before, -, heq⟩ := List.cons_eq_append_iff.1 hcs
  · exact h (List.cons.inj heq).1.symm
  · simp at heq

theorem closes_escape_iff {quote : Char} (h : quote ≠ '\\') (e : Char) (cs : List Char) :
    Closes quote ('\\' :: e :: cs) ↔ Closes quote cs := by
  constructor
  · rintro ⟨before, after, hcs, heven⟩
    obtain ⟨-, heq⟩ | ⟨before, rfl, hmore⟩ := List.cons_eq_append_iff.1 hcs
    · exact absurd (List.cons.inj heq).1 h
    · obtain ⟨rfl, -⟩ | ⟨before, rfl, rfl⟩ := List.cons_eq_append_iff.1 hmore
      -- The quote would be the escaped character.
      · exact absurd heven (by decide)
      · exact ⟨before, after, rfl, (even_backslashesAtEnd_escape e before).1 heven⟩
  · rintro ⟨before, after, rfl, heven⟩
    exact ⟨'\\' :: e :: before, after, rfl, (even_backslashesAtEnd_escape e before).2 heven⟩

/-- **A quoted text is read if and only if it is closed.** -/
theorem readQuoted?_eq_none_iff {quote : Char} (h : quote ≠ '\\') (cs : List Char) :
    readQuoted? quote cs = none ↔ ¬ Closes quote cs := by
  fun_induction readQuoted? quote cs with
  | case1 => simp [not_closes_nil]
  | case2 => simp [closes_cons_self]
  | case3 c hc => simp [not_closes_singleton hc]
  | case4 e r => simp [closes_cons_self]
  | case5 e r _ ih => rw [Option.map_eq_none_iff, ih, closes_escape_iff h]
  | case6 c e r hquote hescape ih => rw [Option.map_eq_none_iff, ih, closes_cons_iff hquote hescape]

/-! ## Runs that start with a digit -/

theorem continuesName_dropWhile (cs : List Char) :
    continuesName (cs.dropWhile isIdentChar) = false := by
  cases h : cs.dropWhile isIdentChar with
  | nil => rfl
  | cons c r =>
    have hne : cs.dropWhile isIdentChar ≠ [] := by simp [h]
    have hhead := List.head_dropWhile_not isIdentChar hne
    simpa [continuesName, h] using hhead

/-- The longest run of characters that a name may go on with. -/
theorem takeWhile_isIdentChar_eq {t r : List Char} (ht : ∀ c ∈ t, isIdentChar c = true)
    (hr : continuesName r = false) : (t ++ r).takeWhile isIdentChar = t := by
  rw [takeWhile_append_of_ends hr fun _ h ↦ h, List.takeWhile_eq_self_iff.2 ht]

theorem isIdentChar_of_isNumeral {cs : List Char} (h : IsNumeral cs) :
    ∀ c ∈ cs, isIdentChar c = true := by
  obtain ⟨whole, part, -, hwhole, hpart, rfl⟩ := h
  intro c hc
  rcases isDigit_or_point_of_mem_numeral hwhole hpart c hc with hc | rfl
  · exact isIdentChar_of_isDigit hc
  · decide

/-- **What starts with a digit is a lexeme if and only if it is a numeral or has the shape of a
date**, up to the first character that no name could go on with. -/
theorem read?_eq_none_iff_of_digit {c : Char} {r : List Char} (hc : c.isDigit = true) :
    Lexeme.read? (c :: r) = none ↔
      ¬ IsNumeral ((c :: r).takeWhile isIdentChar) ∧
        isDateShape ((c :: r).takeWhile isIdentChar) = false := by
  constructor
  · intro h
    have hends := continuesName_dropWhile (c :: r)
    have hsplit := List.takeWhile_append_dropWhile (p := isIdentChar) (l := c :: r)
    have hcons := List.takeWhile_cons_of_pos (l := r) (isIdentChar_of_isDigit hc)
    -- If the run alone is a lexeme, it is one in front of what follows.
    have hrun : ∀ k, Lexeme.read? ((c :: r).takeWhile isIdentChar) ≠
        some ⟨k, (c :: r).takeWhile isIdentChar, []⟩ := by
      intro k hk
      rw [hcons] at hk
      have hread := Lexeme.read?_append_of_ends hends (.inl hc) hk
      rw [← hcons, hsplit, h] at hread
      cases hread
    refine ⟨fun hnumeral ↦ hrun _ (read?_numeral hnumeral), ?_⟩
    rw [Bool.eq_false_iff]
    exact fun hdate ↦ hrun _ (read?_date hdate)
  · rintro ⟨hnumeral, hdate⟩
    rw [Lexeme.read?_of_digit hc, Option.or_eq_none_iff]
    constructor
    · rw [readDate?, ite_eq_right_iff]
      intro h
      simp only [Bool.and_eq_true, Bool.not_eq_true'] at h
      have hrun := takeWhile_isIdentChar_eq (isIdentChar_of_isDateShape h.1).2 h.2
      rw [List.take_append_drop] at hrun
      rw [hrun, h.1] at hdate
      cases hdate
    · rw [readNumber?, ite_eq_right_iff]
      intro h
      simp only [Bool.and_eq_true, Bool.not_eq_true', List.isEmpty_eq_false_iff] at h
      have htext := isNumeral_numberText h.1
      have hrun := takeWhile_isIdentChar_eq (isIdentChar_of_isNumeral htext) h.2
      rw [List.prefix_iff_eq_append.1 (numberText_isPrefixOf _)] at hrun
      rw [hrun] at hnumeral
      exact absurd htext hnumeral

/-! ## Faults -/

/-- The text starts with no blank and with no lexeme, and the message says why. -/
inductive IsFault : List Char → String → Prop where
  /-- A quote with no later quote of its kind that is not escaped. -/
  | unclosed {quote : Char} {cs : List Char} (isQuote : isQuote quote = true)
    (not_closed : ¬ Closes quote cs) : IsFault (quote :: cs) "unterminated string literal"
  /-- A digit, and the longest run of characters that a name may go on with is neither digits, nor
  digits with a point and digits, nor four digits, two and two with hyphens between them. -/
  | misnumbered {c : Char} {cs : List Char} (isDigit : c.isDigit = true)
    (not_numeral : ¬ IsNumeral ((c :: cs).takeWhile isIdentChar))
    (not_date : isDateShape ((c :: cs).takeWhile isIdentChar) = false) :
    IsFault (c :: cs)
      ("invalid numeric literal '" ++ String.ofList ((c :: cs).takeWhile isIdentChar) ++ "'")
  /-- A character that is no blank and that no lexeme starts with. -/
  | unknown {c : Char} {cs : List Char} (not_blank : isBlank c = false)
    (not_symbol : isSymbolStart c = false) (not_quote : isQuote c = false)
    (not_digit : c.isDigit = false) (not_name : isIdentStart c = false) :
    IsFault (c :: cs) ("unrecognized character '" ++ c.toString ++ "'")

/-- **A fault is what the lexer takes for one**, and it says so in the same words. -/
theorem isFault_iff {c : Char} {cs : List Char} {message : String} :
    IsFault (c :: cs) message ↔
      isBlank c = false ∧ Lexeme.read? (c :: cs) = none ∧
        message = (SyntaxError.causeAt c cs).message := by
  constructor
  · rintro (⟨hquote, hopen⟩ | ⟨hdigit, hnumeral, hdate⟩ | ⟨hblank, hsymbol, hquote, hdigit, hname⟩)
    · have hne : c ≠ '\\' ∧ isBlank c = false := by
        rcases isQuote_cases hquote with rfl | rfl <;> decide
      refine ⟨hne.2, ?_, by rw [SyntaxError.causeAt, if_pos hquote]; rfl⟩
      rw [Lexeme.read?_of_quote hquote, readString?, if_pos hquote,
        (readQuoted?_eq_none_iff hne.1 cs).2 hopen]
      rfl
    · have hread := (read?_eq_none_iff_of_digit hdigit).2 ⟨hnumeral, hdate⟩
      refine ⟨isBlank_of_isDigit hdigit, hread, ?_⟩
      rw [SyntaxError.causeAt, isQuote_of_isDigit hdigit, if_neg Bool.false_ne_true, if_pos hdigit]
      rfl
    · refine ⟨hblank, ?_, by rw [SyntaxError.causeAt, hquote, hdigit]; rfl⟩
      rw [Option.eq_none_iff_forall_ne_some]
      intro l hl
      rcases Lexeme.starts_of_read? hl with h | h | h | h <;> simp_all
  · rintro ⟨hblank, hread, rfl⟩
    by_cases hquote : isQuote c = true
    · have hne : c ≠ '\\' := by
        rcases isQuote_cases hquote with rfl | rfl <;> decide
      rw [Lexeme.read?_of_quote hquote, readString?, if_pos hquote, Option.map_eq_none_iff,
        readQuoted?_eq_none_iff hne] at hread
      rw [SyntaxError.causeAt, if_pos hquote]
      exact .unclosed hquote hread
    by_cases hdigit : c.isDigit = true
    · obtain ⟨hnumeral, hdate⟩ := (read?_eq_none_iff_of_digit hdigit).1 hread
      rw [SyntaxError.causeAt, if_neg hquote, if_pos hdigit]
      exact .misnumbered hdigit hnumeral hdate
    rw [SyntaxError.causeAt, if_neg hquote, if_neg hdigit]
    refine .unknown hblank ?_ (by simpa using hquote) (by simpa using hdigit) ?_
    · rw [Bool.eq_false_iff]
      intro hsymbol
      obtain ⟨l, hl⟩ := Lexeme.exists_readSymbol? (r := cs) hsymbol
      rw [Lexeme.read?_of_symbol hsymbol, hl] at hread
      cases hread
    · rw [Bool.eq_false_iff]
      intro hname
      rw [Lexeme.read?_of_identStart hname, readWord?, if_pos hname] at hread
      cases hread

/-! ## Lexemes at the front of a text -/

/-- What follows a number, a date or a name does not go on with it. -/
theorem Lexeme.continuesName_rest {c : Char} {cs : List Char} {l : Lexeme}
    (hc : c.isDigit = true ∨ isIdentStart c = true) (h : Lexeme.read? (c :: cs) = some l) :
    continuesName l.rest = false := by
  rcases hc with hc | hc
  · rw [read?_of_digit hc, Option.or_eq_some_iff] at h
    rcases h with h | ⟨-, h⟩
    · simp only [readDate?, Option.ite_none_right_eq_some, Option.some.injEq, Bool.and_eq_true,
        Bool.not_eq_true'] at h
      obtain ⟨⟨-, hends⟩, rfl⟩ := h
      exact hends
    · simp only [readNumber?, Option.ite_none_right_eq_some, Option.some.injEq, Bool.and_eq_true,
        Bool.not_eq_true'] at h
      obtain ⟨⟨-, hends⟩, rfl⟩ := h
      exact hends
  · rw [read?_of_identStart hc, readWord?, if_pos hc] at h
    obtain rfl := Option.some.inj h
    exact continuesName_dropWhile cs

/-- An operator stays as it is in front of a text with the same next character. -/
theorem readSymbol?_front {cs r r' : List Char} {k : TokenKind}
    (h : readSymbol? (cs ++ r) = some ⟨k, cs, r⟩) (hr : ∀ c ∈ r'.head?, r.head? = some c) :
    readSymbol? (cs ++ r') = some ⟨k, cs, r'⟩ := by
  generalize hwhole : cs ++ r = whole at h
  unfold readSymbol? at h
  split at h
  all_goals first
    | (cases h; done)
    | (cases h; rfl)
    | (cases h
       cases r' with
       | nil => rfl
       | cons d r' =>
         obtain ⟨s, rfl⟩ : ∃ s, r = d :: s := by simpa [List.head?_eq_some_iff] using hr
         simp_all [readSymbol?])

/-- **Of all that follows a lexeme only the next character counts.** -/
theorem Lexeme.read?_front {cs r r' : List Char} {k : TokenKind}
    (h : Lexeme.read? (cs ++ r) = some ⟨k, cs, r⟩) (hr : ∀ c ∈ r'.head?, r.head? = some c) :
    Lexeme.read? (cs ++ r') = some ⟨k, cs, r'⟩ := by
  have halone := Lexeme.read?_text h
  obtain ⟨c, cs, rfl⟩ := List.exists_cons_of_ne_nil (Lexeme.text_ne_nil h)
  rcases Lexeme.starts_of_read? h with hc | hc | hc
  · rw [List.cons_append, read?_of_symbol hc, ← List.cons_append] at h ⊢
    exact readSymbol?_front h hr
  · rw [read?_of_quote hc] at halone
    rw [List.cons_append, read?_of_quote hc]
    exact readString?_append r' halone
  · have hends : continuesName r' = false := by
      have hrest := Lexeme.continuesName_rest hc h
      cases r' with
      | nil => rfl
      | cons d r' =>
        obtain ⟨s, rfl⟩ : ∃ s, r = d :: s := by simpa [List.head?_eq_some_iff] using hr
        exact hrest
    exact Lexeme.read?_append_of_ends hends hc halone

/-- The pieces are what the lexer takes from the front of the text that they make up with what
stands after them. -/
def Taken (back : List Char) : List Piece → Prop
  | [] => True
  | p :: ps =>
    IsGap p.gap ∧
      Lexeme.read? (p.text ++ layOut back ps) = some ⟨p.kind, p.text, layOut back ps⟩ ∧
      Taken back ps

theorem layOut_append (front back : List Char) (pieces : List Piece) :
    layOut (front ++ back) pieces = layOut front pieces ++ back := by
  induction pieces with
  | nil => rfl
  | cons p ps ih => simp [layOut, ih]

/-- **Cutting a text off behind lexemes leaves them as they are.** -/
theorem Taken.truncate {front back : List Char} {pieces : List Piece}
    (h : Taken (front ++ back) pieces) (hfront : IsGap front) : Laid front pieces := by
  induction pieces with
  | nil => exact hfront
  | cons p ps ih =>
    obtain ⟨hgap, hread, hmore⟩ := h
    refine ⟨hgap, Lexeme.read?_front hread fun c hc ↦ ?_, ih hmore⟩
    rw [layOut_append, List.head?_append, Option.mem_def.1 hc]
    rfl

theorem IsGap.takeWhile_append {g cs : List Char} (hg : IsGap g)
    (hcs : cs.dropWhile isBlank = cs) : (g ++ cs).takeWhile isBlank = g := by
  have hsplit := List.takeWhile_append_dropWhile (p := isBlank) (l := g ++ cs)
  rw [hg.dropWhile_append, hcs] at hsplit
  exact List.append_cancel_right hsplit

/-- **The tokens of a text that is lexemes and blanks** stand where the lexemes do. -/
theorem Laid.tokenizeFrom_eq {trail : List Char} {pieces : List Piece} (h : Laid trail pieces)
    (pos : Nat) : tokenizeFrom pos (layOut trail pieces) = .ok (placedFrom pos trail pieces) := by
  induction pieces generalizing pos with
  | nil =>
    have hgap : trail.takeWhile isBlank = trail := List.takeWhile_eq_self_iff.2 h
    rw [layOut, tokenizeFrom_of_blank (IsGap.dropWhile_eq_nil h), hgap]
    rfl
  | cons p ps ih =>
    obtain ⟨hgap, hread, hmore⟩ := h
    have hdrop := Lexeme.dropWhile_of_read? hread
    have htake := hgap.takeWhile_append hdrop
    have hfirst := hread
    rw [← hdrop, ← hgap.dropWhile_append] at hfirst
    rw [layOut, tokenizeFrom_of_read? hfirst, htake, ih hmore]
    rfl

/-! ## Where the lexer gives up -/

/-- The lexer takes the pieces from the front of the text, skips the gap after them, and looks for
a lexeme at `back`. -/
structure Reaches (cs : List Char) (pieces : List Piece) (gap back : List Char) : Prop where
  text_eq : cs = layOut gap pieces ++ back
  taken : Taken (gap ++ back) pieces
  isGap : IsGap gap

theorem tokenizeFrom_of_fault {cs rest : List Char} {c : Char}
    (hcs : cs.dropWhile isBlank = c :: rest) (h : Lexeme.read? (c :: rest) = none) (pos : Nat) :
    tokenizeFrom pos cs =
      .error ⟨pos + utf8Length (cs.takeWhile isBlank), SyntaxError.causeAt c rest⟩ := by
  rw [tokenizeFrom]
  split
  · rename_i heq
    rw [hcs] at heq
    cases heq
  · rename_i heq
    obtain ⟨rfl, rfl⟩ := List.cons.inj (hcs.symm.trans heq)
    split
    · rfl
    · rename_i hsome
      rw [h] at hsome
      cases hsome

/-- **The lexer gives up** where it finds neither a lexeme nor the end behind the blanks. -/
theorem tokenizeFrom_eq_error_iff {cs : List Char} {pos : Nat} {e : SyntaxError} :
    tokenizeFrom pos cs = .error e ↔
      ∃ (pieces : List Piece) (gap : List Char) (c : Char) (rest : List Char),
        Reaches cs pieces gap (c :: rest) ∧ isBlank c = false ∧ Lexeme.read? (c :: rest) = none ∧
          e = ⟨pos + utf8Length (layOut gap pieces), SyntaxError.causeAt c rest⟩ := by
  constructor
  · intro h
    fun_induction tokenizeFrom pos cs with
    | case1 => cases h
    | case2 pos cs start c rest hcs hnone =>
      cases h
      have hblank : isBlank c = false := by
        have hne : cs.dropWhile isBlank ≠ [] := by simp [hcs]
        simpa [hcs] using List.head_dropWhile_not isBlank hne
      refine ⟨[], cs.takeWhile isBlank, c, rest, ⟨?_, trivial, isGap_takeWhile cs⟩, hblank, hnone,
        rfl⟩
      rw [layOut, ← hcs, List.takeWhile_append_dropWhile]
    | case3 pos cs start c rest hcs l hl ih =>
      cases hmore : tokenizeFrom (start + utf8Length l.text) l.rest with
      | ok more =>
        rw [hmore] at h
        cases h
      | error e' =>
        rw [hmore] at h
        cases h
        obtain ⟨pieces, gap, c', rest', ⟨htext, htaken, hgap⟩, hblank, hnone, rfl⟩ := ih hmore
        have hsplit := Lexeme.text_append_rest hl
        rw [htext] at hsplit
        refine ⟨⟨cs.takeWhile isBlank, l.kind, l.text⟩ :: pieces, gap, c', rest',
          ⟨?_, ⟨isGap_takeWhile cs, ?_, htaken⟩, hgap⟩, hblank, hnone, ?_⟩
        · rw [layOut, List.append_assoc, List.append_assoc, hsplit, ← hcs,
            List.takeWhile_append_dropWhile]
        · rw [layOut_append, hsplit, hl, ← htext]
        · simp [layOut, start, Nat.add_assoc]
  · rintro ⟨pieces, gap, c, rest, ⟨rfl, htaken, hgap⟩, hblank, hnone, rfl⟩
    induction pieces generalizing pos with
    | nil =>
      have hdrop : (c :: rest).dropWhile isBlank = c :: rest :=
        List.dropWhile_cons_of_neg (by simp [hblank])
      have hcs : (gap ++ c :: rest).dropWhile isBlank = c :: rest := by
        rw [hgap.dropWhile_append, hdrop]
      rw [layOut, tokenizeFrom_of_fault hcs hnone, hgap.takeWhile_append hdrop]
    | cons p ps ih =>
      obtain ⟨hpgap, hread, hmore⟩ := htaken
      have hdrop := Lexeme.dropWhile_of_read? hread
      have hfirst := hread
      rw [← hdrop, ← hpgap.dropWhile_append] at hfirst
      rw [← layOut_append, layOut, tokenizeFrom_of_read? hfirst, hpgap.takeWhile_append hdrop,
        layOut_append, ih hmore]
      simp [Except.map, layOut, Nat.add_assoc]

/-- An error of the lexer is exact: it reaches `back`, where it finds a fault, by way of lexemes and
blanks, and the following holds. -/
structure IsExact (source : String) (e : SyntaxError) (pieces : List Piece)
    (gap back : List Char) : Prop where
  reaches : Reaches source.toList pieces gap back
  /-- The message says what is wrong there. -/
  fault : IsFault back e.cause.message
  /-- The error is placed there. -/
  position_eq : e.position = utf8Length (layOut gap pieces)
  /-- That is the start of a character, and not the end of the source. -/
  boundary : (⟨e.position⟩ : String.Pos.Raw).IsValid source
  inside : e.position < source.utf8ByteSize
  /-- What stands before has the tokens that were found, each at the place of its lexeme. -/
  front : tokenize (String.ofList (layOut gap pieces)) = .ok (placedFrom 0 gap pieces)
  /-- The last of them is the end, at the place of the error. -/
  front_ends : (placedFrom 0 gap pieces).getLast? = some ⟨.eof, e.position⟩

theorem getLast?_placedFrom (pos : Nat) (trail : List Char) (pieces : List Piece) :
    (placedFrom pos trail pieces).getLast? =
      some ⟨.eof, pos + utf8Length (layOut trail pieces)⟩ := by
  induction pieces generalizing pos with
  | nil => rfl
  | cons p ps ih =>
    rw [placedFrom, List.getLast?_cons, ih, Option.getD_some, layOut, utf8Length_append,
      utf8Length_append, Nat.add_assoc, Nat.add_assoc]

/-- **The errors of the lexer are exact**: they tell where a source ceases to be lexemes and blanks,
and why; and wherever the lexer reaches a fault, the source has this error. -/
theorem tokenize_faults (source : String) :
    (∀ e, tokenize source = .error e →
        ∃ (pieces : List Piece) (gap back : List Char), IsExact source e pieces gap back) ∧
      ∀ (pieces : List Piece) (gap back : List Char) (message : String),
        Reaches source.toList pieces gap back → IsFault back message →
          ∃ e, tokenize source = .error e ∧ e.position = utf8Length (layOut gap pieces) ∧
            e.cause.message = message := by
  constructor
  · intro e h
    obtain ⟨pieces, gap, c, rest, hreaches, hblank, hnone, rfl⟩ := tokenizeFrom_eq_error_iff.1 h
    have hsize : source.utf8ByteSize = utf8Length (layOut gap pieces) + utf8Length (c :: rest) := by
      rw [← utf8Length_append, ← hreaches.text_eq, ← utf8ByteSize_ofList_eq, String.ofList_toList]
    have hlaid : Laid gap pieces := hreaches.taken.truncate hreaches.isGap
    have hback := utf8Length_pos (List.cons_ne_nil c rest)
    have hfault := isFault_iff.2 ⟨hblank, hnone, rfl⟩
    refine ⟨pieces, gap, c :: rest, hreaches, hfault, ?_, ?_, ?_, ?_, ?_⟩
    · exact Nat.zero_add _
    · rw [Nat.zero_add]
      exact isValid_utf8Length hreaches.text_eq
    · rw [Nat.zero_add, hsize]
      exact Nat.lt_add_of_pos_right hback
    · rw [tokenize, String.toList_ofList, hlaid.tokenizeFrom_eq]
    · exact getLast?_placedFrom 0 gap pieces
  · intro pieces gap back message hreaches hfault
    obtain ⟨c, rest, rfl⟩ : ∃ c rest, back = c :: rest := by
      cases hfault <;> exact ⟨_, _, rfl⟩
    obtain ⟨hblank, hnone, rfl⟩ := isFault_iff.1 hfault
    exact ⟨_, tokenizeFrom_eq_error_iff.2 ⟨pieces, gap, c, rest, hreaches, hblank, hnone, rfl⟩,
      Nat.zero_add _, rfl⟩

/-- A quoted text that an escaped quote does not close, behind an operator and a quoted character of
two bytes. -/
theorem tokenize_faults_unclosed :
    let source := "'ü' <'it\\'s"
    let pieces : List Piece :=
      [⟨[], .str "ü", ['\x27', 'ü', '\x27']⟩, ⟨[' '], .lt, ['<']⟩]
    Reaches source.toList pieces [] "'it\\'s".toList ∧
      IsFault "'it\\'s".toList "unterminated string literal" ∧
      ∃ e, tokenize source = .error e ∧ e.position = 6 ∧
        e.cause.message = "unterminated string literal" ∧
        ∃ (pieces : List Piece) (gap back : List Char), IsExact source e pieces gap back := by
  intro source pieces
  have hreaches : Reaches source.toList pieces [] "'it\\'s".toList := by
    refine ⟨by decide, ⟨?_, rfl, ?_, rfl, trivial⟩, ?_⟩ <;> simp [IsGap, isBlank]
  have hopen : ¬ Closes '\x27' "it\\'s".toList :=
    (readQuoted?_eq_none_iff (by decide) _).1 (by decide)
  have hfault : IsFault "'it\\'s".toList "unterminated string literal" :=
    .unclosed (by decide) hopen
  obtain ⟨e, he, hposition, hmessage⟩ := (tokenize_faults source).2 pieces [] _ _ hreaches hfault
  exact ⟨hreaches, hfault, e, he, hposition, hmessage, (tokenize_faults source).1 e he⟩

end SurveyQuests
