import SurveyQuests.Proofs.Filter.Literals
import SurveyQuests.Proofs.Filter.NormalForm

/-!
# The tokens of the text of a filter

`Filter.tokens` are the tokens that the text of a filter is read as, whether or not these can be
parsed.  They follow `Filter.chars` construct by construct; what makes them the tokens of the text
is that there is a blank, a comma or a parenthesis after every literal.

Not every filter can be written: there is no text for a comparison by order of a value that is no
number, for an infinite number or for a day before year 0.  `Condition.Writable` says what is asked
of a condition.

## What is here

* `Condition.tokens`, `Filter.tokens`;
* `Condition.Writable`;
* `lexes_condition`, `lexes_filter` — **these are the tokens of the text**.
-/

set_option autoImplicit false

namespace SurveyQuests

/-! ## Tokens -/

/-- The token of a comparison. -/
def Comparison.token : Comparison → TokenKind
  | .eq => .eq
  | .ne => .ne
  | .lt => .lt
  | .le => .le
  | .gt => .gt
  | .ge => .ge

/-- The tokens of literals with commas between them. -/
def literalsTokens : List String → List TokenKind
  | [] => []
  | [s] => [literalToken s]
  | s :: t :: rest => literalToken s :: .comma :: literalsTokens (t :: rest)

/-- The tokens of an anchor. -/
def DateAnchor.tokens : DateAnchor → List TokenKind
  | .relative magnitude unit =>
    if unit = .days ∧ magnitude.eq .zero then [.keyword .today]
    else .keyword .today :: .minus :: (magnitude.tokens ++ [.keyword unit.keyword])
  | .fixed d => [.date d.text]

/-- The tokens of the target of a date condition. -/
def DateTarget.tokens : DateTarget → List TokenKind
  | .element => []
  | .tag keys => [literalToken keys.key]

/-- The tokens of a condition. -/
def Condition.tokens : Condition → List TokenKind
  | .hasKey key negated => (if negated then [.bang] else []) ++ [literalToken key]
  | .keyMatches pattern negated =>
    [if negated then .bangTilde else .tilde, literalToken pattern.source]
  | .compares key op value => [literalToken key, op.token, literalToken value]
  | .valueMatches key pattern negated =>
    [literalToken key, if negated then .bangTilde else .tilde, literalToken pattern.source]
  | .oneOf key values negated =>
    literalToken key :: (if negated then .ne else .eq) :: literalsTokens values
  | .numeric key op value => literalToken key :: op.token :: value.tokens
  | .date target direction anchor =>
    target.tokens ++ .keyword direction.keyword :: anchor.tokens

namespace Filter

/-- Puts parentheses around tokens if they are called for. -/
def parenthesizedTokens (needed : Bool) (ks : List TokenKind) : List TokenKind :=
  if needed then .leftParen :: (ks ++ [.rightParen]) else ks

mutual

/-- **The tokens of a filter.** -/
def tokens : Filter → List TokenKind
  | .condition c => c.tokens
  | .all fs => operandsTokens .and fs
  | .any fs => operandsTokens .or fs
  | .not f => .keyword .not :: parenthesizedTokens (f.isCompound || f.isAlways) f.tokens
  | .always => []

/-- The tokens of filters with a keyword between them. -/
def operandsTokens (k : Keyword) : List Filter → List TokenKind
  | [] => []
  | [f] => parenthesizedTokens f.isCompound f.tokens
  | f :: g :: fs =>
    parenthesizedTokens f.isCompound f.tokens ++ .keyword k :: operandsTokens k (g :: fs)

end

end Filter

/-! ## What can be written -/

/-- Can the anchor be written? -/
def DateAnchor.Writable : DateAnchor → Prop
  | .relative magnitude _ => magnitude.isFinite = true ∧ magnitude.negative = false
  | .fixed d => 0 ≤ d.year

/-- Can the target of a date condition be written?  Of a key only the key itself is written, so its
check date keys have to be those that are made from it. -/
def DateTarget.Writable : DateTarget → Prop
  | .element => True
  | .tag keys => keys = .ofKey keys.key

/-- Can the condition be written?  Texts are compared for equality and numbers by order, there are
at least two values to choose from, and numbers and days have to be of the kind that can be read. -/
def Condition.Writable : Condition → Prop
  | .compares _ op _ => op = .eq ∨ op = .ne
  | .oneOf _ values _ => 2 ≤ values.length
  | .numeric _ op value => (op ≠ .eq ∧ op ≠ .ne) ∧ value.isFinite = true
  | .date target _ anchor => target.Writable ∧ anchor.Writable
  | .hasKey _ _ | .keyMatches _ _ | .valueMatches _ _ _ => True

/-! ## The tokens are those of the text -/

theorem lexes_comparison (op : Comparison) : Lexes op.text.toList [op.token] := by
  cases op
  · exact .lexeme (l := ⟨.eq, ['='], []⟩) rfl .nil
  · exact .lexeme (l := ⟨.ne, ['!', '='], []⟩) rfl .nil
  · exact .lexeme (l := ⟨.lt, ['<'], []⟩) rfl .nil
  · exact .lexeme (l := ⟨.le, ['<', '='], []⟩) rfl .nil
  · exact .lexeme (l := ⟨.gt, ['>'], []⟩) rfl .nil
  · exact .lexeme (l := ⟨.ge, ['>', '='], []⟩) rfl .nil

theorem lexes_keyword (k : Keyword) : Lexes k.text.toList [.keyword k] := by
  have h := Lexes.keyword (k := k) (r := []) rfl .nil
  rwa [List.append_nil] at h

theorem lexes_matchSign (negated : Bool) :
    Lexes (if negated then ['!', '~'] else ['~']) [if negated then .bangTilde else .tilde] := by
  cases negated
  · exact .lexeme (l := ⟨.tilde, ['~'], []⟩) rfl .nil
  · exact .lexeme (l := ⟨.bangTilde, ['!', '~'], []⟩) rfl .nil

theorem lexes_equalitySign (negated : Bool) :
    Lexes (if negated then ['!', '='] else ['=']) [if negated then .ne else .eq] := by
  cases negated
  · exact .lexeme (l := ⟨.eq, ['='], []⟩) rfl .nil
  · exact .lexeme (l := ⟨.ne, ['!', '='], []⟩) rfl .nil

theorem lexes_literals (values : List String) :
    Lexes (literalsChars values) (literalsTokens values) := by
  fun_induction literalsChars values with
  | case1 => exact .nil
  | case2 s => exact lexes_literal s
  | case3 s t rest ih =>
    have hcomma : Lexes (',' :: ' ' :: literalsChars (t :: rest))
        (.comma :: literalsTokens (t :: rest)) :=
      .symbol rfl rfl ((Lexes.of_blank rfl).2 ih)
    have hlex := (lexes_literal s).append (isDelimited_cons.2 (by decide)) hcomma
    rw [List.append_assoc]
    exact hlex

theorem lexes_anchor {anchor : DateAnchor} (h : anchor.Writable) :
    Lexes anchor.text.toList anchor.tokens := by
  cases anchor with
  | fixed d => exact lexes_day h
  | relative magnitude unit =>
    rw [DateAnchor.text, DateAnchor.tokens]
    split
    · exact lexes_keyword .today
    · have hnumber := (lexes_plainText h.1).spaced (lexes_keyword unit.keyword)
      have hminus : Lexes ('-' :: (magnitude.plainText.toList ++ ' ' :: unit.keyword.text.toList))
          (.minus :: (magnitude.tokens ++ [.keyword unit.keyword])) := .symbol rfl rfl hnumber
      have htext : ("today -" ++ magnitude.plainText ++ " " ++ unit.keyword.text).toList =
          Keyword.today.text.toList ++
            ' ' :: '-' :: (magnitude.plainText.toList ++ ' ' :: unit.keyword.text.toList) := by
        rw [String.toList_append, String.toList_append, String.toList_append, List.append_assoc,
          List.append_assoc]
        rfl
      rw [htext]
      exact (lexes_keyword .today).spaced hminus

/-- **The tokens of a condition are those of its text.** -/
theorem lexes_condition {c : Condition} (h : c.Writable) : Lexes c.chars c.tokens := by
  cases c with
  | hasKey key negated =>
    cases negated with
    | false => exact lexes_literal key
    | true =>
      obtain ⟨d, r, hcons, hne, hnt⟩ := literalChars_eq_cons key
      have hlex := lexes_literal key
      change Lexes ('!' :: literalChars key) [.bang, literalToken key]
      rw [hcons] at hlex ⊢
      exact .symbol rfl (by simp [readSymbol?, hne, hnt]) hlex
  | keyMatches pattern negated =>
    have hlex := lexes_literal pattern.source
    cases negated with
    | false => exact .symbol rfl rfl hlex
    | true => exact (Lexes.iff_of_read? (l := ⟨.bangTilde, ['!', '~'], _⟩) rfl).2 ⟨_, rfl, hlex⟩
  | compares key op value =>
    exact ((lexes_literal key).spaced (lexes_comparison op)).spaced (lexes_literal value)
  | valueMatches key pattern negated =>
    have hlex := ((lexes_literal key).spaced (lexes_matchSign negated)).spaced
      (lexes_literal pattern.source)
    have htext : (Condition.valueMatches key pattern negated).chars =
        (literalChars key ++ ' ' :: if negated then ['!', '~'] else ['~']) ++
          ' ' :: literalChars pattern.source := by
      rw [Condition.chars, List.append_assoc, List.append_assoc]
      cases negated <;> rfl
    rw [htext]
    exact hlex
  | oneOf key values negated =>
    have hlex := ((lexes_literal key).spaced (lexes_equalitySign negated)).spaced
      (lexes_literals values)
    have htext : (Condition.oneOf key values negated).chars =
        (literalChars key ++ ' ' :: if negated then ['!', '='] else ['=']) ++
          ' ' :: literalsChars values := by
      rw [Condition.chars, List.append_assoc, List.append_assoc]
      cases negated <;> rfl
    rw [htext]
    exact hlex
  | numeric key op value =>
    exact ((lexes_literal key).spaced (lexes_comparison op)).spaced (lexes_plainText h.2)
  | date target direction anchor =>
    have hlex := (lexes_keyword direction.keyword).spaced (lexes_anchor h.2)
    cases target with
    | element => exact hlex
    | tag keys =>
      have htext : (Condition.date (.tag keys) direction anchor).chars =
          literalChars keys.key ++ ' ' ::
            (direction.keyword.text.toList ++ ' ' :: anchor.text.toList) := by
        rw [Condition.chars, List.append_assoc, List.append_assoc]
        rfl
      rw [htext]
      exact (lexes_literal keys.key).spaced hlex

/-! ## Filters -/

namespace Filter

theorem lexes_parenthesized (needed : Bool) {cs : List Char} {ks : List TokenKind}
    (h : Lexes cs ks) : Lexes (parenthesized needed cs) (parenthesizedTokens needed ks) := by
  cases needed with
  | false => exact h
  | true => exact h.parenthesized .nil

theorem lexes_operands (k : Keyword) {fs : List Filter} (h : ∀ f ∈ fs, Lexes f.chars f.tokens) :
    Lexes (operandsChars (' ' :: (k.text.toList ++ [' '])) fs) (operandsTokens k fs) := by
  induction fs with
  | nil => exact .nil
  | cons f fs ih =>
    have hf := lexes_parenthesized f.isCompound (h f List.mem_cons_self)
    have hfs := ih fun g hg ↦ h g (List.mem_cons_of_mem f hg)
    cases fs with
    | nil => exact hf
    | cons g fs =>
      rw [operandsChars, operandsTokens, List.append_assoc, List.cons_append, List.append_assoc]
      exact hf.connective k hfs

/-- **The tokens of a filter are those of its text.** -/
theorem lexes_filter {f : Filter} (h : ∀ c ∈ f.conditions, c.Writable) :
    Lexes f.chars f.tokens := by
  induction f using Filter.induction with
  | condition c => exact lexes_condition (h c (List.mem_singleton.2 rfl))
  | all fs ih =>
    rw [conditions_all] at h
    rw [chars, tokens]
    refine lexes_operands .and fun f hf ↦ ih f hf fun c hc ↦ ?_
    exact h c (List.mem_flatMap.2 ⟨f, hf, hc⟩)
  | any fs ih =>
    rw [conditions_any] at h
    rw [chars, tokens]
    refine lexes_operands .or fun f hf ↦ ih f hf fun c hc ↦ ?_
    exact h c (List.mem_flatMap.2 ⟨f, hf, hc⟩)
  | not f ih =>
    have hoperand := lexes_parenthesized (f.isCompound || f.isAlways) (ih h)
    exact (lexes_keyword .not).spaced hoperand
  | always => exact .nil

end Filter

/-! ## No numeral is quoted -/

/-- Is the token a name or a quoted text? -/
def isText : TokenKind → Bool
  | .ident _ | .str _ => true
  | _ => false

/-- Is the token neither a name nor a quoted text, unless what it says is no numeral? -/
def IsUnquoted (k : TokenKind) : Prop :=
  ∀ s : String, k = .ident s ∨ k = .str s → isPlainNumber s.toList = false

theorem isUnquoted_of_isText {k : TokenKind} (h : isText k = false) : IsUnquoted k := by
  rintro s (rfl | rfl) <;> cases h

theorem isUnquoted_literalToken (s : String) : IsUnquoted (literalToken s) := by
  intro t ht
  rw [← Bool.not_eq_true, ← literalToken_eq_number_iff]
  rcases literalToken_cases s with h | h | h
  · rw [h] at ht
    obtain rfl : s = t := by simpa using ht
    rw [h]
    exact TokenKind.noConfusion
  · rw [h] at ht
    obtain rfl : s = t := by simpa using ht
    rw [h]
    exact TokenKind.noConfusion
  · rw [h] at ht
    rcases ht with ht | ht <;> cases ht

theorem isUnquoted_literalsTokens (values : List String) :
    ∀ k ∈ literalsTokens values, IsUnquoted k := by
  fun_induction literalsTokens values with
  | case1 => simp
  | case2 s => exact List.forall_mem_singleton.2 (isUnquoted_literalToken s)
  | case3 s t rest ih =>
    exact List.forall_mem_cons.2 ⟨isUnquoted_literalToken s,
      List.forall_mem_cons.2 ⟨isUnquoted_of_isText rfl, ih⟩⟩

theorem isText_comparison (op : Comparison) : isText op.token = false := by
  cases op <;> rfl

theorem isUnquoted_number (x : Binary64) : ∀ k ∈ x.tokens, IsUnquoted k := by
  rw [Binary64.tokens]
  split
  · exact List.forall_mem_cons.2 ⟨isUnquoted_of_isText rfl,
      List.forall_mem_singleton.2 (isUnquoted_of_isText rfl)⟩
  · exact List.forall_mem_singleton.2 (isUnquoted_of_isText rfl)

theorem isUnquoted_anchor (anchor : DateAnchor) : ∀ k ∈ anchor.tokens, IsUnquoted k := by
  cases anchor with
  | fixed d => exact List.forall_mem_singleton.2 (isUnquoted_of_isText rfl)
  | relative magnitude unit =>
    rw [DateAnchor.tokens]
    split
    · exact List.forall_mem_singleton.2 (isUnquoted_of_isText rfl)
    · refine List.forall_mem_cons.2 ⟨isUnquoted_of_isText rfl,
        List.forall_mem_cons.2 ⟨isUnquoted_of_isText rfl, ?_⟩⟩
      exact List.forall_mem_append.2 ⟨isUnquoted_number magnitude,
        List.forall_mem_singleton.2 (isUnquoted_of_isText rfl)⟩

theorem isUnquoted_condition (c : Condition) : ∀ k ∈ c.tokens, IsUnquoted k := by
  cases c with
  | hasKey key negated =>
    have hkey := List.forall_mem_singleton.2 (isUnquoted_literalToken key)
    cases negated with
    | false => exact hkey
    | true => exact List.forall_mem_cons.2 ⟨isUnquoted_of_isText rfl, hkey⟩
  | keyMatches pattern negated =>
    have hpattern := List.forall_mem_singleton.2 (isUnquoted_literalToken pattern.source)
    cases negated <;> exact List.forall_mem_cons.2 ⟨isUnquoted_of_isText rfl, hpattern⟩
  | compares key op value =>
    exact List.forall_mem_cons.2 ⟨isUnquoted_literalToken key,
      List.forall_mem_cons.2 ⟨isUnquoted_of_isText (isText_comparison op),
        List.forall_mem_singleton.2 (isUnquoted_literalToken value)⟩⟩
  | valueMatches key pattern negated =>
    have hpattern := List.forall_mem_singleton.2 (isUnquoted_literalToken pattern.source)
    refine List.forall_mem_cons.2 ⟨isUnquoted_literalToken key, ?_⟩
    cases negated <;> exact List.forall_mem_cons.2 ⟨isUnquoted_of_isText rfl, hpattern⟩
  | oneOf key values negated =>
    have hvalues := isUnquoted_literalsTokens values
    refine List.forall_mem_cons.2 ⟨isUnquoted_literalToken key, ?_⟩
    cases negated <;> exact List.forall_mem_cons.2 ⟨isUnquoted_of_isText rfl, hvalues⟩
  | numeric key op value =>
    exact List.forall_mem_cons.2 ⟨isUnquoted_literalToken key,
      List.forall_mem_cons.2 ⟨isUnquoted_of_isText (isText_comparison op),
        isUnquoted_number value⟩⟩
  | date target direction anchor =>
    have hrest := List.forall_mem_cons.2
      ⟨isUnquoted_of_isText (k := .keyword direction.keyword) rfl, isUnquoted_anchor anchor⟩
    cases target with
    | element => exact hrest
    | tag keys => exact List.forall_mem_cons.2 ⟨isUnquoted_literalToken keys.key, hrest⟩

namespace Filter

theorem isUnquoted_parenthesized (needed : Bool) {ks : List TokenKind}
    (h : ∀ k ∈ ks, IsUnquoted k) : ∀ k ∈ parenthesizedTokens needed ks, IsUnquoted k := by
  cases needed with
  | false => exact h
  | true =>
    exact List.forall_mem_cons.2 ⟨isUnquoted_of_isText rfl,
      List.forall_mem_append.2 ⟨h, List.forall_mem_singleton.2 (isUnquoted_of_isText rfl)⟩⟩

theorem isUnquoted_operands (k : Keyword) {fs : List Filter}
    (h : ∀ f ∈ fs, ∀ t ∈ f.tokens, IsUnquoted t) : ∀ t ∈ operandsTokens k fs, IsUnquoted t := by
  induction fs with
  | nil => simp [operandsTokens]
  | cons f fs ih =>
    have hf := isUnquoted_parenthesized f.isCompound (h f List.mem_cons_self)
    have hfs := ih fun g hg ↦ h g (List.mem_cons_of_mem f hg)
    cases fs with
    | nil => exact hf
    | cons g fs =>
      exact List.forall_mem_append.2 ⟨hf,
        List.forall_mem_cons.2 ⟨isUnquoted_of_isText rfl, hfs⟩⟩

/-- **No token of a filter is a quoted numeral.** -/
theorem isUnquoted_filter (f : Filter) : ∀ k ∈ f.tokens, IsUnquoted k := by
  induction f using Filter.induction with
  | condition c => exact isUnquoted_condition c
  | all fs ih => exact isUnquoted_operands .and ih
  | any fs ih => exact isUnquoted_operands .or ih
  | not f ih =>
    exact List.forall_mem_cons.2 ⟨isUnquoted_of_isText rfl, isUnquoted_parenthesized _ ih⟩
  | always => simp [tokens]

end Filter

end SurveyQuests
