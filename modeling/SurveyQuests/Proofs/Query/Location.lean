import Mathlib.Data.List.Induction
import SurveyQuests.Proofs.Filter.Faults
import SurveyQuests.Proofs.Grammar.FirstMisfit
import SurveyQuests.Query.Compiled

/-!
# Line and column of an error

The location of an offset is that of the end of what stands before it, and what stands before it is
whole lines and the front of one more.  Skipping as many line feeds as there are whole lines, and
then the characters of the front, leads back to the offset (`Location.offset?_endOf`); so offsets
between characters have different locations, and nothing is lost when an error is shown with line
and column.

This needs an offset between characters.  An error has one: the lexer gives up behind lexemes and
blanks, and the parser blames a token, which stands behind a front of the source as well.

## What is here

* `Location.endOf_concat` — how a location moves on with each character;
* `skipLineFeeds`, `Location.offset?` — the way back;
* `charsBefore?_utf8Length`, `Location.offset?_ofOffset` — offsets behind a front of a text;
* `CompiledQuery.exists_front_of_compile` — an error stands behind a front of its source;
* `CompiledQuery.compile_error_isLocated` — **line and column tell the offset of an error**.
-/

set_option autoImplicit false

namespace SurveyQuests

namespace Location

/-! ## The end of a text -/

theorem endOf_concat (cs : List Char) (c : Char) :
    endOf (cs ++ [c]) =
      if c = '\n' then ⟨(endOf cs).line + 1, 1⟩ else ⟨(endOf cs).line, (endOf cs).column + 1⟩ := by
  by_cases h : c = '\n' <;> simp [endOf, h]

/-- A text is whole lines and the front of one more, and its end is told by the number of the ones
and the length of the other. -/
theorem exists_lines (cs : List Char) :
    ∃ lines line : List Char, cs = lines ++ line ∧
      (lines = [] ∨ ∃ front, lines = front ++ ['\n']) ∧ '\n' ∉ line ∧
      endOf cs = ⟨lines.count '\n' + 1, line.length + 1⟩ := by
  induction cs using List.reverseRecOn with
  | nil => exact ⟨[], [], rfl, .inl rfl, by simp, rfl⟩
  | append_singleton cs c ih =>
    obtain ⟨lines, line, rfl, hlines, hline, hend⟩ := ih
    by_cases hc : c = '\n'
    · refine ⟨lines ++ line ++ [c], [], by simp, .inr ⟨lines ++ line, by rw [hc]⟩, by simp, ?_⟩
      rw [endOf_concat, hend, if_pos hc]
      simp [hc, List.count_eq_zero.2 hline]
    · refine ⟨lines, line ++ [c], by simp, hlines, by simp [hline, Ne.symm hc], ?_⟩
      rw [endOf_concat, hend, if_neg hc]
      simp

end Location

/-! ## The way back -/

/-- Splits a text behind so many line feeds. -/
def skipLineFeeds : Nat → List Char → Option (List Char × List Char)
  | 0, cs => some ([], cs)
  | _ + 1, [] => none
  | n + 1, c :: cs =>
    (skipLineFeeds (if c = '\n' then n else n + 1) cs).map fun (front, back) ↦ (c :: front, back)

theorem skipLineFeeds_append (front back : List Char) :
    skipLineFeeds (front.count '\n' + 1) (front ++ '\n' :: back) =
      some (front ++ ['\n'], back) := by
  induction front with
  | nil => simp [skipLineFeeds]
  | cons c front ih =>
    by_cases hc : c = '\n' <;> simp [skipLineFeeds, hc, ih]

/-- The byte offset at a line and a column of a source: that many line feeds less one are skipped,
and then that many characters less one, which have to be there and may not be line feeds. -/
def Location.offset? (location : Location) (source : List Char) : Option Nat := do
  let (lines, rest) ← skipLineFeeds (location.line - 1) source
  let line := rest.take (location.column - 1)
  if line.length = location.column - 1 ∧ '\n' ∉ line then some (utf8Length (lines ++ line))
  else none

/-- **The end of a front of a text is found by line and column.** -/
theorem Location.offset?_endOf (front back : List Char) :
    (endOf front).offset? (front ++ back) = some (utf8Length front) := by
  obtain ⟨lines, line, rfl, hlines, hline, hend⟩ := exists_lines front
  have hskip : skipLineFeeds (lines.count '\n') (lines ++ (line ++ back)) =
      some (lines, line ++ back) := by
    rcases hlines with rfl | ⟨front, rfl⟩
    · simp [skipLineFeeds]
    · simpa using skipLineFeeds_append front (line ++ back)
  rw [offset?, hend, List.append_assoc, Nat.add_sub_cancel, hskip]
  simp [hline]

/-! ## Offsets between characters -/

theorem charsBefore?_utf8Length (front back : List Char) :
    charsBefore? (utf8Length front) (front ++ back) = some front := by
  induction front with
  | nil => cases back <;> simp [charsBefore?]
  | cons c front ih =>
    have hpos := c.utf8Size_pos
    have hne : c.utf8Size + utf8Length front ≠ 0 := by omega
    have hlt : ¬ c.utf8Size + utf8Length front < c.utf8Size := by omega
    rw [List.cons_append, charsBefore?, utf8Length_cons, if_neg hne, if_neg hlt,
      Nat.add_sub_cancel_left, ih]
    rfl

/-- An offset between characters stands behind a front of the text. -/
theorem exists_front_of_isValid {source : String} {offset : Nat}
    (h : (⟨offset⟩ : String.Pos.Raw).IsValid source) :
    ∃ front back : List Char, source.toList = front ++ back ∧ utf8Length front = offset := by
  obtain ⟨front, back, rfl, hoffset⟩ := String.Pos.Raw.isValid_iff_exists_append.1 h
  refine ⟨front.toList, back.toList, String.toList_append, ?_⟩
  rw [← utf8ByteSize_ofList_eq, String.ofList_toList]
  exact (congrArg String.Pos.Raw.byteIdx hoffset).symm

/-- **Line and column lead back to the offset.** -/
theorem Location.offset?_ofOffset {source : String} {offset : Nat}
    (h : (⟨offset⟩ : String.Pos.Raw).IsValid source) :
    (ofOffset source.toList offset).offset? source.toList = some offset := by
  obtain ⟨front, back, hsource, rfl⟩ := exists_front_of_isValid h
  rw [ofOffset, hsource, charsBefore?_utf8Length, Option.getD_some, offset?_endOf]

/-! ## Offsets of errors -/

/-- The parser blames a token. -/
theorem exists_token_of_parse {ts : List Token} {e : ParseError}
    (hend : ∃ x ∈ ts, x.kind = .eof) (h : parse ts = .error e) : ∃ t ∈ ts, t.pos = e.position := by
  obtain ⟨front, x, back, s, heq, hlead, hx⟩ := ParserState.exists_rejects .refl hend h
  rw [List.nil_append] at heq
  rcases hx.position_cases with hposition | ⟨use, hphase, hdigits⟩
  · exact ⟨x, by simp [heq], hposition.symm⟩
  · obtain ⟨front, t, rfl, ht, -, -⟩ := isLoneMinus_of_leads back hlead hphase hx hdigits
    exact ⟨t, by simp [heq], ht⟩

namespace CompiledQuery

/-- **An error stands behind a front of its source.** -/
theorem exists_front_of_compile {source : String} {e : CompileError}
    (h : compile source = .error e) :
    ∃ front back : List Char, source.toList = front ++ back ∧ e.position = utf8Length front := by
  rw [compile, Query.read] at h
  rcases htokens : tokenize source with e' | ts
  · obtain rfl : .lexical e' = e := by simpa [htokens, Except.map] using h
    obtain ⟨pieces, gap, c, rest, hreaches, -, -, rfl⟩ := tokenizeFrom_eq_error_iff.1 htokens
    exact ⟨layOut gap pieces, c :: rest, hreaches.text_eq, Nat.zero_add _⟩
  · rcases hparse : parse ts with e' | q
    · obtain rfl : .structural e' = e := by simpa [htokens, hparse, Except.map] using h
      obtain ⟨t, ht, hposition⟩ := exists_token_of_parse (tokenize_ascending htokens).2 hparse
      obtain ⟨trail, pieces, hsource, -, rfl⟩ := exists_laid_of_tokenizeFrom htokens
      obtain ⟨front, back, hfront, hpos⟩ := exists_front_of_mem_placedFrom ht
      refine ⟨front, back, hsource.trans hfront, ?_⟩
      rw [CompileError.position, ← hposition, hpos, Nat.zero_add]
    · simp [htokens, hparse, Except.map] at h

/-- The location of an error is faithful to its source. -/
structure IsLocated (source : String) (e : CompileError) : Prop where
  /-- The offset is at most the number of bytes of the source, -/
  le_size : e.position ≤ source.utf8ByteSize
  /-- and the start of a character or the end of the source, -/
  boundary : (⟨e.position⟩ : String.Pos.Raw).IsValid source
  /-- so that the location is that of the end of what stands before it. -/
  location_eq : ∃ front : List Char, charsBefore? e.position source.toList = some front ∧
    e.location source = Location.endOf front
  /-- To skip the lines before it, and the characters before it in its line, leads to the offset. -/
  offset?_eq : (e.location source).offset? source.toList = some e.position

/-- **Line and column tell the offset of an error**, and no two offsets between characters have the
same. -/
theorem compile_error_isLocated (source : String) :
    (∀ e, compile source = .error e → IsLocated source e) ∧
      ∀ p q : Nat, (⟨p⟩ : String.Pos.Raw).IsValid source → (⟨q⟩ : String.Pos.Raw).IsValid source →
        Location.ofOffset source.toList p = Location.ofOffset source.toList q → p = q := by
  refine ⟨fun e h ↦ ?_, fun p q hp hq heq ↦ ?_⟩
  · obtain ⟨front, back, hsource, hposition⟩ := exists_front_of_compile h
    have hboundary : (⟨e.position⟩ : String.Pos.Raw).IsValid source :=
      hposition ▸ isValid_utf8Length hsource
    have hbefore : charsBefore? e.position source.toList = some front := by
      rw [hposition, hsource, charsBefore?_utf8Length]
    refine ⟨hboundary.le_utf8ByteSize, hboundary, ⟨front, hbefore, ?_⟩,
      Location.offset?_ofOffset hboundary⟩
    rw [CompileError.location, Location.ofOffset, hbefore, Option.getD_some]
  · have hsome := Location.offset?_ofOffset hp
    rw [heq, Location.offset?_ofOffset hq] at hsome
    exact (Option.some.inj hsome).symm

/-- A parenthesis that is not closed, behind a key of two bytes and a line feed. -/
theorem compile_error_isLocated_unclosed :
    let source := "nodes with 'ü\n' = 1 and\n  (x"
    ∃ e, compile source = .error e ∧ e.position = 29 ∧ e.location source = ⟨3, 5⟩ ∧
      IsLocated source e ∧
      ∀ q : Nat, (⟨q⟩ : String.Pos.Raw).IsValid source →
        Location.ofOffset source.toList q = ⟨3, 5⟩ → q = 29 := by
  intro source
  let ts : List Token := [⟨.ident "nodes", 0⟩, ⟨.ident "with", 6⟩, ⟨.str "ü\n", 11⟩, ⟨.eq, 17⟩,
    ⟨.number "1", 19⟩, ⟨.keyword .and, 21⟩, ⟨.leftParen, 27⟩, ⟨.ident "x", 28⟩, ⟨.eof, 29⟩]
  have hts : tokenize source = .ok ts := by decide +kernel
  have hparse : parse ts = .error ⟨29, .closingParen, .token .eof⟩ := rfl
  have h : compile source = .error (.structural ⟨29, .closingParen, .token .eof⟩) := by
    simp only [compile, Query.read, hts, hparse, Except.map]
  have hlocation : Location.ofOffset source.toList 29 = ⟨3, 5⟩ := by decide
  have hlocated := (compile_error_isLocated source).1 _ h
  refine ⟨_, h, rfl, hlocation, hlocated, fun q hq heq ↦ ?_⟩
  exact (compile_error_isLocated source).2 q 29 hq hlocated.boundary (heq.trans hlocation.symm)

end CompiledQuery

end SurveyQuests
