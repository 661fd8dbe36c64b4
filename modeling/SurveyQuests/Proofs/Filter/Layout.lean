import SurveyQuests.Proofs.Filter.Literals

/-!
# Lexemes and the blanks between them

A text that can be read as tokens is its lexemes in their order with nothing but blanks before,
between and after them, and how many blanks there are and of what kind plays no part: each lexeme is
what it is by its own characters.  Only that two lexemes run into each other has to be ruled out,
and any blank between them does that.

So everything comes down to two facts about one lexeme.  It is read from its own characters alone
(`Lexeme.read?_text`), and it is read from the front of a longer text if what is added starts with a
character that delimits it (`Lexeme.read?_append`), as a blank does.  That a text can be laid out
anew is then an induction on its lexemes; the new text need not be related to the old one in any
other way.

## What is here

* `Lexeme.read?_text` — a lexeme alone;
* `Piece`, `layOut`, `placedFrom` — lexemes with the blanks in front of them, the text that they
  make up and their places in it;
* `Laid` — each lexeme of a text is what the lexer takes where it stands;
* `exists_laid_of_tokenizeFrom`, `Laid.lexes`, `Laid.relaid`;
* `tokenize_isFaithful` — **what the tokens of a text tell about the text**.
-/

set_option autoImplicit false

namespace SurveyQuests

/-! ## A lexeme alone -/

theorem readQuoted?_text {quote : Char} {cs value text rest : List Char}
    (h : readQuoted? quote cs = some (value, text, rest)) :
    readQuoted? quote text = some (value, text, []) := by
  fun_induction readQuoted? quote cs generalizing value text rest with
  | case1 => cases h
  | case2 =>
    cases h
    simp [readQuoted?]
  | case3 => cases h
  | case4 =>
    cases h
    simp [readQuoted?]
  | case5 e r hne ih =>
    obtain ⟨⟨v, t, s⟩, ht, he⟩ := Option.map_eq_some_iff.1 h
    cases he
    simp [readQuoted?, hne, ih ht]
  | case6 c e r hquote hescape ih =>
    obtain ⟨⟨v, t, s⟩, ht, he⟩ := Option.map_eq_some_iff.1 h
    cases he
    exact readQuoted?_cons hquote hescape (ih ht)

/-- **A lexeme is read from its own characters.** -/
theorem Lexeme.read?_text {cs : List Char} {l : Lexeme} (h : Lexeme.read? cs = some l) :
    Lexeme.read? l.text = some ⟨l.kind, l.text, []⟩ := by
  cases cs with
  | nil => cases h
  | cons c r =>
    rcases Lexeme.starts_of_read? h with hc | hc | hc | hc
    · rw [Lexeme.read?_of_symbol hc] at h
      unfold readSymbol? at h
      split at h <;> cases h <;> rfl
    · rw [Lexeme.read?_of_quote hc, readString?, if_pos hc] at h
      obtain ⟨⟨v, t, s⟩, ht, rfl⟩ := Option.map_eq_some_iff.1 h
      rw [Lexeme.read?_of_quote hc, readString?, if_pos hc, readQuoted?_text ht]
      rfl
    · rw [Lexeme.read?_of_digit hc, Option.or_eq_some_iff] at h
      rcases h with h | ⟨-, h⟩
      · simp only [readDate?, Option.ite_none_right_eq_some, Option.some.injEq,
          Bool.and_eq_true] at h
        obtain ⟨⟨hdate, -⟩, rfl⟩ := h
        exact read?_date hdate
      · simp only [readNumber?, Option.ite_none_right_eq_some, Option.some.injEq,
          Bool.and_eq_true] at h
        obtain ⟨⟨hne, -⟩, rfl⟩ := h
        exact read?_numeral (isNumeral_numberText (by simpa using hne))
    · rw [Lexeme.read?_of_identStart hc, readWord?, if_pos hc] at h
      obtain rfl := Option.some.inj h
      have hword := Lexes.readWord?_eq (r := []) hc (w := r.takeWhile isIdentChar)
        (fun _ ↦ List.mem_takeWhile_imp) rfl
      rwa [List.append_nil] at hword

/-- The text of a name, a number or a date is its lexeme. -/
theorem Lexeme.toList_of_read? {cs : List Char} {l : Lexeme} {s : String}
    (h : Lexeme.read? cs = some l)
    (hs : l.kind = .ident s ∨ l.kind = .number s ∨ l.kind = .date s) : s.toList = l.text := by
  rcases Lexeme.read?_cases h with h | h | h | h | h
  · rw [readSymbol?.eq_def] at h
    split at h <;> cases h <;> rcases hs with hs | hs | hs <;> cases hs
  · rw [readString?.eq_def] at h
    split at h
    · cases h
    · split at h
      · obtain ⟨_, -, rfl⟩ := Option.map_eq_some_iff.1 h
        rcases hs with hs | hs | hs <;> cases hs
      · cases h
  · simp only [readDate?, Option.ite_none_right_eq_some, Option.some.injEq] at h
    obtain ⟨-, rfl⟩ := h
    rcases hs with hs | hs | hs <;> cases hs
    exact String.toList_ofList
  · simp only [readNumber?, Option.ite_none_right_eq_some, Option.some.injEq] at h
    obtain ⟨-, rfl⟩ := h
    rcases hs with hs | hs | hs <;> cases hs
    exact String.toList_ofList
  · rw [readWord?.eq_def] at h
    split at h
    · cases h
    · split at h
      · obtain rfl := Option.some.inj h
        dsimp only at hs
        rw [wordKind] at hs
        split at hs <;> rcases hs with hs | hs | hs <;> cases hs
        exact String.toList_ofList
      · cases h

/-! ## Pieces of a text -/

/-- A lexeme with the blanks in front of it. -/
structure Piece where
  gap : List Char
  kind : TokenKind
  /-- The characters of the lexeme. -/
  text : List Char

/-- Are all characters of the text blanks? -/
def IsGap (g : List Char) : Prop := ∀ c ∈ g, isBlank c = true

/-- The text of pieces, one after another, and of what stands after the last one. -/
def layOut (trail : List Char) : List Piece → List Char
  | [] => trail
  | p :: ps => p.gap ++ (p.text ++ layOut trail ps)

/-- The tokens of pieces laid out from a byte offset, each at the place of its lexeme, and of the
end of the text. -/
def placedFrom (pos : Nat) (trail : List Char) : List Piece → List Token
  | [] => [⟨.eof, pos + utf8Length trail⟩]
  | p :: ps =>
    ⟨p.kind, pos + utf8Length p.gap⟩ ::
      placedFrom (pos + utf8Length p.gap + utf8Length p.text) trail ps

/-- Are the pieces the lexemes of the text that they make up?  The gaps and the trail are blanks,
and each lexeme is what the lexer takes from the text where it stands. -/
def Laid (trail : List Char) : List Piece → Prop
  | [] => IsGap trail
  | p :: ps =>
    IsGap p.gap ∧
      Lexeme.read? (p.text ++ layOut trail ps) = some ⟨p.kind, p.text, layOut trail ps⟩ ∧
      Laid trail ps

theorem IsGap.dropWhile_append {g : List Char} (h : IsGap g) (cs : List Char) :
    (g ++ cs).dropWhile isBlank = cs.dropWhile isBlank :=
  List.dropWhile_append_of_pos h

theorem IsGap.dropWhile_eq_nil {g : List Char} (h : IsGap g) : g.dropWhile isBlank = [] :=
  List.dropWhile_eq_nil_iff.2 h

theorem isGap_takeWhile (cs : List Char) : IsGap (cs.takeWhile isBlank) :=
  fun _ ↦ List.mem_takeWhile_imp

/-- A blank does not run into the lexeme in front of it. -/
theorem isDelimited_of_isBlank {c : Char} (h : isBlank c = true) (cs : List Char) :
    IsDelimited (c :: cs) := by
  simp only [isBlank, Bool.or_eq_true, beq_iff_eq] at h
  rcases h with ((rfl | rfl) | rfl) | rfl <;> exact isDelimited_cons.2 (by decide)

theorem IsGap.isDelimited {g : List Char} (h : IsGap g) (ne : g ≠ []) (cs : List Char) :
    IsDelimited (g ++ cs) := by
  obtain ⟨c, g, rfl⟩ := List.exists_cons_of_ne_nil ne
  exact isDelimited_of_isBlank (h c List.mem_cons_self) _

/-! ## Reading pieces -/

/-- **The tokens of a text are those of its pieces.** -/
theorem exists_laid_of_tokenizeFrom {pos : Nat} {cs : List Char} {ts : List Token}
    (h : tokenizeFrom pos cs = .ok ts) :
    ∃ (trail : List Char) (pieces : List Piece), cs = layOut trail pieces ∧ Laid trail pieces ∧
      ts = placedFrom pos trail pieces := by
  fun_induction tokenizeFrom pos cs generalizing ts with
  | case1 =>
    rename_i pos cs start hblank
    cases h
    have hgap : cs.takeWhile isBlank = cs := by
      have happend := List.takeWhile_append_dropWhile (p := isBlank) (l := cs)
      rwa [hblank, List.append_nil] at happend
    exact ⟨cs, [], rfl, List.dropWhile_eq_nil_iff.1 hblank, by simp only [placedFrom, start, hgap]⟩
  | case2 => cases h
  | case3 =>
    rename_i pos cs start c rest hcs l hl ih
    cases hmore : tokenizeFrom (start + utf8Length l.text) l.rest with
    | error e =>
      rw [hmore] at h
      cases h
    | ok more =>
      rw [hmore] at h
      cases h
      obtain ⟨trail, pieces, hrest, hlaid, rfl⟩ := ih hmore
      have htext := Lexeme.text_append_rest hl
      rw [hrest] at htext
      refine ⟨trail, ⟨cs.takeWhile isBlank, l.kind, l.text⟩ :: pieces, ?_,
        ⟨isGap_takeWhile cs, ?_, hlaid⟩, rfl⟩
      · rw [layOut, htext, ← hcs, List.takeWhile_append_dropWhile]
      · rw [htext, hl, ← hrest]

namespace Laid

variable {trail : List Char} {pieces : List Piece}

theorem lexes (h : Laid trail pieces) :
    Lexes (layOut trail pieces) (pieces.map Piece.kind) := by
  induction pieces with
  | nil => exact .blank (IsGap.dropWhile_eq_nil h)
  | cons p ps ih =>
    obtain ⟨hgap, hread, hmore⟩ := h
    refine .lexeme (l := ⟨p.kind, p.text, layOut trail ps⟩) ?_ (ih hmore)
    rw [layOut, hgap.dropWhile_append, Lexeme.dropWhile_of_read? hread, hread]

theorem read?_text (h : Laid trail pieces) {p : Piece} (hp : p ∈ pieces) :
    Lexeme.read? p.text = some ⟨p.kind, p.text, []⟩ := by
  induction pieces with
  | nil => cases hp
  | cons q ps ih =>
    obtain ⟨-, hread, hmore⟩ := h
    rcases List.mem_cons.1 hp with rfl | hp
    · exact Lexeme.read?_text hread
    · exact ih hmore hp

/-- Lexemes are the lexemes of any text that has blanks between them. -/
theorem of_spaced (hread : ∀ p ∈ pieces, Lexeme.read? p.text = some ⟨p.kind, p.text, []⟩)
    (hgaps : ∀ p ∈ pieces, IsGap p.gap) (hspaced : ∀ p ∈ pieces.tail, p.gap ≠ [])
    (htrail : IsGap trail) : Laid trail pieces := by
  induction pieces with
  | nil => exact htrail
  | cons p ps ih =>
    have hdelimited : IsDelimited (layOut trail ps) := by
      cases ps with
      | nil =>
        cases trail with
        | nil => simp [layOut, IsDelimited]
        | cons c cs => exact isDelimited_of_isBlank (htrail c List.mem_cons_self) cs
      | cons q ps =>
        exact (hgaps q (by simp)).isDelimited (hspaced q List.mem_cons_self) _
    refine ⟨hgaps p List.mem_cons_self,
      Lexeme.read?_append hdelimited (hread p List.mem_cons_self), ?_⟩
    exact ih (fun q hq ↦ hread q (List.mem_cons_of_mem p hq))
      (fun q hq ↦ hgaps q (List.mem_cons_of_mem p hq))
      fun q hq ↦ hspaced q (List.mem_of_mem_tail hq)

/-- **Lexemes may be laid out anew**, with any blanks before and after them and between them. -/
theorem relaid (h : Laid trail pieces) {pieces' : List Piece} {trail' : List Char}
    (hsame : pieces'.map (fun p ↦ (p.kind, p.text)) = pieces.map fun p ↦ (p.kind, p.text))
    (hgaps : ∀ p ∈ pieces', IsGap p.gap) (hspaced : ∀ p ∈ pieces'.tail, p.gap ≠ [])
    (htrail : IsGap trail') : Laid trail' pieces' := by
  refine of_spaced (fun p hp ↦ ?_) hgaps hspaced htrail
  have hmem : (p.kind, p.text) ∈ pieces.map fun p ↦ (p.kind, p.text) :=
    hsame ▸ List.mem_map_of_mem hp
  obtain ⟨q, hq, heq⟩ := List.mem_map.1 hmem
  obtain ⟨hkind, htext⟩ := Prod.mk.inj heq
  rw [← hkind, ← htext]
  exact h.read?_text hq

end Laid

/-! ## Places -/

theorem map_kind_placedFrom (pos : Nat) (trail : List Char) (pieces : List Piece) :
    (placedFrom pos trail pieces).map Token.kind = pieces.map Piece.kind ++ [.eof] := by
  induction pieces generalizing pos with
  | nil => rfl
  | cons p ps ih => rw [placedFrom, List.map_cons, ih, List.map_cons, List.cons_append]

/-- A token stands behind a front of the text. -/
theorem exists_front_of_mem_placedFrom {pos : Nat} {trail : List Char} {pieces : List Piece}
    {t : Token} (ht : t ∈ placedFrom pos trail pieces) :
    ∃ front back : List Char, layOut trail pieces = front ++ back ∧
      t.pos = pos + utf8Length front := by
  induction pieces generalizing pos with
  | nil =>
    obtain rfl := List.mem_singleton.1 ht
    exact ⟨trail, [], (List.append_nil trail).symm, rfl⟩
  | cons p ps ih =>
    rcases List.mem_cons.1 ht with rfl | ht
    · exact ⟨p.gap, p.text ++ layOut trail ps, rfl, rfl⟩
    · obtain ⟨front, back, heq, hpos⟩ := ih ht
      refine ⟨p.gap ++ (p.text ++ front), back, ?_, ?_⟩
      · rw [layOut, heq, List.append_assoc, List.append_assoc]
      · rw [hpos, utf8Length_append, utf8Length_append]
        omega

theorem utf8Length_pos {cs : List Char} (h : cs ≠ []) : 0 < utf8Length cs := by
  obtain ⟨c, cs, rfl⟩ := List.exists_cons_of_ne_nil h
  rw [utf8Length_cons]
  exact Nat.add_pos_left c.utf8Size_pos _

theorem pairwise_placedFrom {pos : Nat} {trail : List Char} {pieces : List Piece}
    (h : ∀ p ∈ pieces, p.text ≠ []) :
    (placedFrom pos trail pieces).Pairwise (·.pos < ·.pos) := by
  induction pieces generalizing pos with
  | nil => exact List.pairwise_singleton _ _
  | cons p ps ih =>
    refine List.pairwise_cons.2 ⟨fun t ht ↦ ?_, ih fun q hq ↦ h q (List.mem_cons_of_mem p hq)⟩
    obtain ⟨front, -, -, hpos⟩ := exists_front_of_mem_placedFrom ht
    have htext := utf8Length_pos (h p List.mem_cons_self)
    rw [hpos]
    dsimp only
    omega

theorem utf8ByteSize_ofList_eq (cs : List Char) :
    (String.ofList cs).utf8ByteSize = utf8Length cs := by
  induction cs with
  | nil => rfl
  | cons c cs ih =>
    rw [String.ofList_cons, String.utf8ByteSize_append, String.utf8ByteSize_singleton, ih,
      utf8Length_cons]

/-- The byte offset behind a front of a text is the start of a character, or the end. -/
theorem isValid_utf8Length {source : String} {front back : List Char}
    (h : source.toList = front ++ back) :
    (⟨utf8Length front⟩ : String.Pos.Raw).IsValid source := by
  refine String.Pos.Raw.isValid_iff_exists_append.2
    ⟨String.ofList front, String.ofList back, ?_, ?_⟩
  · rw [← String.ofList_append, ← h, String.ofList_toList]
  · rw [← utf8ByteSize_ofList_eq]
    rfl

/-! ## What the tokens tell about the text -/

/-- The tokens of a source are faithful to it: the source is made of pieces and a trail of which
the following holds. -/
structure IsFaithful (source : String) (ts : List Token) (trail : List Char)
    (pieces : List Piece) : Prop where
  /-- The source is the lexemes in their order, and what stands before, between and after them. -/
  source_eq : source.toList = layOut trail pieces
  /-- That is blanks, and each lexeme is what the lexer takes where it stands. -/
  laid : Laid trail pieces
  /-- Each token has the kind and the place of its lexeme, and the last one is the end. -/
  tokens_eq : ts = placedFrom 0 trail pieces
  /-- The places are starts of characters, or the end. -/
  boundary : ∀ t ∈ ts, (⟨t.pos⟩ : String.Pos.Raw).IsValid source
  /-- The places ascend. -/
  ascending : ts.Pairwise (·.pos < ·.pos)
  /-- The text of a name, a number or a date is its lexeme. -/
  verbatim : ∀ p ∈ pieces, ∀ s, p.kind = .ident s ∨ p.kind = .number s ∨ p.kind = .date s →
    s.toList = p.text
  /-- A lexeme alone is a token of the same kind. -/
  alone : ∀ p ∈ pieces,
    tokenize (String.ofList p.text) = .ok [⟨p.kind, 0⟩, ⟨.eof, utf8Length p.text⟩]
  /-- With any blanks between the lexemes, and any or none before and after them, the tokens are of
  the same kinds. -/
  relaid : ∀ (pieces' : List Piece) (trail' : List Char),
    pieces'.map (fun p ↦ (p.kind, p.text)) = pieces.map (fun p ↦ (p.kind, p.text)) →
    (∀ p ∈ pieces', IsGap p.gap) → (∀ p ∈ pieces'.tail, p.gap ≠ []) → IsGap trail' →
    ∃ ts', tokenize (String.ofList (layOut trail' pieces')) = .ok ts' ∧
      ts'.map Token.kind = ts.map Token.kind

/-- A lexeme alone has a token of its kind, and the end. -/
theorem tokenize_of_read? {cs : List Char} {k : TokenKind}
    (h : Lexeme.read? cs = some ⟨k, cs, []⟩) :
    tokenize (String.ofList cs) = .ok [⟨k, 0⟩, ⟨.eof, utf8Length cs⟩] := by
  have hdrop := Lexeme.dropWhile_of_read? h
  have hread : Lexeme.read? (cs.dropWhile isBlank) = some ⟨k, cs, []⟩ := by
    rw [hdrop, h]
  have htake : cs.takeWhile isBlank = [] := by
    have happend := List.takeWhile_append_dropWhile (p := isBlank) (l := cs)
    rw [hdrop] at happend
    exact List.append_left_eq_self.1 happend
  rw [tokenize, String.toList_ofList, tokenizeFrom_of_read? hread, htake, utf8Length_nil,
    Nat.add_zero, Nat.zero_add, tokenizeFrom_of_blank rfl]
  rfl

/-- **The tokens of a source tell it up to blanks, and blanks do not matter.** -/
theorem tokenize_isFaithful {source : String} {ts : List Token} (h : tokenize source = .ok ts) :
    ∃ (trail : List Char) (pieces : List Piece), IsFaithful source ts trail pieces := by
  obtain ⟨trail, pieces, hsource, hlaid, htokens⟩ := exists_laid_of_tokenizeFrom h
  have hread : ∀ p ∈ pieces, Lexeme.read? p.text = some ⟨p.kind, p.text, []⟩ :=
    fun p hp ↦ hlaid.read?_text hp
  refine ⟨trail, pieces, hsource, hlaid, htokens, ?_, ?_, ?_, ?_, ?_⟩
  · intro t ht
    obtain ⟨front, back, heq, hpos⟩ := exists_front_of_mem_placedFrom (htokens ▸ ht)
    rw [hpos, Nat.zero_add]
    exact isValid_utf8Length (hsource.trans heq)
  · rw [htokens]
    exact pairwise_placedFrom fun p hp ↦ Lexeme.text_ne_nil (hread p hp)
  · exact fun p hp s hs ↦ Lexeme.toList_of_read? (hread p hp) hs
  · exact fun p hp ↦ tokenize_of_read? (hread p hp)
  · intro pieces' trail' hsame hgaps hspaced htrail
    have hkinds : pieces'.map Piece.kind = pieces.map Piece.kind := by
      have hfst := congrArg (List.map Prod.fst) hsame
      rwa [List.map_map, List.map_map] at hfst
    obtain ⟨us, e, hts, hus, he⟩ :=
      (hlaid.relaid hsame hgaps hspaced htrail).lexes.tokenizeFrom_eq_ok 0
    refine ⟨us ++ [e], ?_, ?_⟩
    · rw [tokenize, String.toList_ofList, hts]
    · rw [htokens, map_kind_placedFrom, List.map_append, hus, hkinds, List.map_singleton, he]

/-- A text with no blanks around an operator, and a character of two bytes between quotes. -/
theorem tokenize_isFaithful_quoted :
    let source := "x!~'ü b'\tor y<2.5"
    let ts : List Token := [⟨.ident "x", 0⟩, ⟨.bangTilde, 1⟩, ⟨.str "ü b", 3⟩, ⟨.keyword .or, 10⟩,
      ⟨.ident "y", 13⟩, ⟨.lt, 14⟩, ⟨.number "2.5", 15⟩, ⟨.eof, 18⟩]
    tokenize source = .ok ts ∧
      ∃ (trail : List Char) (pieces : List Piece), IsFaithful source ts trail pieces := by
  intro source ts
  have h : tokenize source = .ok ts := by decide +kernel
  exact ⟨h, tokenize_isFaithful h⟩

end SurveyQuests
