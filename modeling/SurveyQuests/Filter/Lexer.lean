import SurveyQuests.Filter.Token
import SurveyQuests.Unicode.Character

/-!
# Reading text as tokens

The lexer takes one lexeme after another from the front of a text and skips blanks between them.
`Lexeme.read?` takes one: it gives the token, the characters of the lexeme and the text after it,
and `Lexeme.text_append_rest` says that these are the text again, `Lexeme.text_ne_nil` that the
lexeme is not empty.  That is all that `tokenize` needs to come to an end.

A lexeme that starts with a digit is a number or a date, and neither may run into a character that
could continue a name.  A name starts with a letter or a low line and goes on with letters,
numerals, low lines, colons, points and hyphens; it is a keyword if it is one as a whole.

## What is here

* `isBlank`, `isIdentStart`, `isIdentChar` — the classes of characters;
* `Lexeme.read?` and its two laws;
* `SyntaxError` — what can be wrong, and where;
* `tokenize` — the tokens of a text.
-/

set_option autoImplicit false

namespace SurveyQuests

/-! ## Classes of characters -/

/-- The blanks between tokens: space, tab, carriage return and line feed. -/
def isBlank (c : Char) : Bool := c == ' ' || c == '\t' || c == '\r' || c == '\n'

/-- May a name start with the character? -/
def isIdentStart (c : Char) : Bool := Character.isAlphabetic c || c == '_'

/-- May a name go on with the character? -/
def isIdentChar (c : Char) : Bool :=
  Character.isAlphanumeric c || c == '_' || c == ':' || c == '.' || c == '-'

/-- The number of bytes of a text. -/
def utf8Length (cs : List Char) : Nat := cs.foldr (fun c n ↦ c.utf8Size + n) 0

@[simp] theorem utf8Length_nil : utf8Length [] = 0 := rfl

@[simp] theorem utf8Length_cons (c : Char) (cs : List Char) :
    utf8Length (c :: cs) = c.utf8Size + utf8Length cs := rfl

@[simp] theorem utf8Length_append (a b : List Char) :
    utf8Length (a ++ b) = utf8Length a + utf8Length b := by
  induction a with
  | nil => rw [List.nil_append, utf8Length_nil, Nat.zero_add]
  | cons c a ih => rw [List.cons_append, utf8Length_cons, utf8Length_cons, ih, Nat.add_assoc]

/-! ## Lexemes -/

/-- A lexeme at the front of a text. -/
structure Lexeme where
  kind : TokenKind
  /-- The characters of the lexeme. -/
  text : List Char
  /-- The text after it. -/
  rest : List Char

/-- Does a name go on at the front of the text? -/
def continuesName : List Char → Bool
  | [] => false
  | c :: _ => isIdentChar c

/-- Reads an operator or a punctuation mark; of two operators that start alike the longer one. -/
def readSymbol? : List Char → Option Lexeme
  | '!' :: '=' :: r => some ⟨.ne, ['!', '='], r⟩
  | '!' :: '~' :: r => some ⟨.bangTilde, ['!', '~'], r⟩
  | '<' :: '=' :: r => some ⟨.le, ['<', '='], r⟩
  | '>' :: '=' :: r => some ⟨.ge, ['>', '='], r⟩
  | '=' :: r => some ⟨.eq, ['='], r⟩
  | '~' :: r => some ⟨.tilde, ['~'], r⟩
  | '<' :: r => some ⟨.lt, ['<'], r⟩
  | '>' :: r => some ⟨.gt, ['>'], r⟩
  | '!' :: r => some ⟨.bang, ['!'], r⟩
  | '-' :: r => some ⟨.minus, ['-'], r⟩
  | '(' :: r => some ⟨.leftParen, ['('], r⟩
  | ')' :: r => some ⟨.rightParen, [')'], r⟩
  | ',' :: r => some ⟨.comma, [','], r⟩
  | _ => none

/-- What an escaped character of a quoted text stands for. -/
def unescape (c : Char) : Char :=
  if c = 'n' then '\n' else if c = 't' then '\t' else c

/-- Reads a quoted text after its opening quote: the text that it stands for, its characters up to
and with the closing quote, and what follows. -/
def readQuoted? (quote : Char) : List Char → Option (List Char × List Char × List Char)
  | [] => none
  | [c] => if c = quote then some ([], [c], []) else none
  | c :: e :: r =>
    if c = quote then some ([], [c], e :: r)
    else if c = '\\' then
      (readQuoted? quote r).map fun (value, text, rest) ↦
        (unescape e :: value, c :: e :: text, rest)
    else
      (readQuoted? quote (e :: r)).map fun (value, text, rest) ↦ (c :: value, c :: text, rest)

/-- Is the character one of the two quotes? -/
def isQuote (c : Char) : Bool := c == '\x22' || c == '\x27'

/-- Reads a quoted text. -/
def readString? : List Char → Option Lexeme
  | [] => none
  | c :: r =>
    if isQuote c then
      (readQuoted? c r).map fun (value, text, rest) ↦ ⟨.str (String.ofList value), c :: text, rest⟩
    else none

/-- Four digits, two and two, with hyphens between them? -/
def isDateShape : List Char → Bool
  | [a, b, c, d, '-', e, f, '-', g, h] => [a, b, c, d, e, f, g, h].all Char.isDigit
  | _ => false

/-- Reads a date. -/
def readDate? (cs : List Char) : Option Lexeme :=
  let text := cs.take 10
  let rest := cs.drop 10
  if isDateShape text && !continuesName rest then some ⟨.date (String.ofList text), text, rest⟩
  else none

/-- The characters of the number at the front of a text: digits, and if there are any, a point with
digits after it where there is one. -/
def numberText (cs : List Char) : List Char :=
  let whole := cs.takeWhile Char.isDigit
  match cs.dropWhile Char.isDigit with
  | '.' :: r =>
    let part := r.takeWhile Char.isDigit
    if whole.isEmpty || part.isEmpty then whole else whole ++ '.' :: part
  | _ => whole

/-- Reads a number. -/
def readNumber? (cs : List Char) : Option Lexeme :=
  let text := numberText cs
  let rest := cs.drop text.length
  if !text.isEmpty && !continuesName rest then some ⟨.number (String.ofList text), text, rest⟩
  else none

/-- The token of a word. -/
def wordKind (s : String) : TokenKind :=
  match Keyword.ofText? s with
  | some k => .keyword k
  | none => .ident s

/-- Reads a name or a keyword. -/
def readWord? : List Char → Option Lexeme
  | [] => none
  | c :: r =>
    if isIdentStart c then
      let text := c :: r.takeWhile isIdentChar
      some ⟨wordKind (String.ofList text), text, r.dropWhile isIdentChar⟩
    else none

/-- Reads the lexeme at the front of a text that starts with no blank. -/
def Lexeme.read? (cs : List Char) : Option Lexeme :=
  readSymbol? cs <|> readString? cs <|> readDate? cs <|> readNumber? cs <|> readWord? cs

/-! ### Nothing is lost -/

theorem readSymbol?_text_append_rest {cs : List Char} {l : Lexeme} (h : readSymbol? cs = some l) :
    l.text ++ l.rest = cs ∧ l.text ≠ [] := by
  unfold readSymbol? at h
  split at h <;> cases h <;> exact ⟨rfl, List.cons_ne_nil _ _⟩

theorem readQuoted?_text_append_rest {quote : Char} {cs value text rest : List Char}
    (h : readQuoted? quote cs = some (value, text, rest)) : text ++ rest = cs := by
  fun_induction readQuoted? quote cs generalizing value text rest with
  | case1 => cases h
  | case2 => cases h; rfl
  | case3 => cases h
  | case4 => cases h; rfl
  | case5 e r _ ih =>
    obtain ⟨⟨v, t, s⟩, ht, he⟩ := Option.map_eq_some_iff.1 h
    cases he
    simp [ih ht]
  | case6 c e r _ _ ih =>
    obtain ⟨⟨v, t, s⟩, ht, he⟩ := Option.map_eq_some_iff.1 h
    cases he
    simp [ih ht]

theorem readString?_text_append_rest {cs : List Char} {l : Lexeme} (h : readString? cs = some l) :
    l.text ++ l.rest = cs ∧ l.text ≠ [] := by
  unfold readString? at h
  split at h
  · cases h
  · split at h
    · obtain ⟨⟨v, t, s⟩, ht, he⟩ := Option.map_eq_some_iff.1 h
      cases he
      simp [readQuoted?_text_append_rest ht]
    · cases h

theorem readDate?_text_append_rest {cs : List Char} {l : Lexeme} (h : readDate? cs = some l) :
    l.text ++ l.rest = cs ∧ l.text ≠ [] := by
  simp only [readDate?, Option.ite_none_right_eq_some, Option.some.injEq, Bool.and_eq_true] at h
  obtain ⟨⟨hs, _⟩, rfl⟩ := h
  refine ⟨List.take_append_drop 10 cs, fun hn ↦ ?_⟩
  simp only at hn
  simp [hn, isDateShape] at hs

theorem numberText_isPrefixOf (cs : List Char) : numberText cs <+: cs := by
  unfold numberText
  have hcs : cs.takeWhile Char.isDigit ++ cs.dropWhile Char.isDigit = cs :=
    List.takeWhile_append_dropWhile
  split
  · rename_i r hr
    dsimp only
    split
    · exact List.takeWhile_prefix _
    · rw [hr] at hcs
      refine ⟨r.dropWhile Char.isDigit, ?_⟩
      rw [List.append_assoc, List.cons_append, List.takeWhile_append_dropWhile, hcs]
  · exact List.takeWhile_prefix _

theorem readNumber?_text_append_rest {cs : List Char} {l : Lexeme} (h : readNumber? cs = some l) :
    l.text ++ l.rest = cs ∧ l.text ≠ [] := by
  simp only [readNumber?, Option.ite_none_right_eq_some, Option.some.injEq, Bool.and_eq_true] at h
  obtain ⟨⟨hs, _⟩, rfl⟩ := h
  exact ⟨List.prefix_iff_eq_append.1 (numberText_isPrefixOf cs), by simpa using hs⟩

theorem readWord?_text_append_rest {cs : List Char} {l : Lexeme} (h : readWord? cs = some l) :
    l.text ++ l.rest = cs ∧ l.text ≠ [] := by
  unfold readWord? at h
  split at h
  · cases h
  · split at h
    · cases h
      simp
    · cases h

theorem Lexeme.read?_cases {cs : List Char} {l : Lexeme} (h : Lexeme.read? cs = some l) :
    readSymbol? cs = some l ∨ readString? cs = some l ∨ readDate? cs = some l ∨
      readNumber? cs = some l ∨ readWord? cs = some l := by
  unfold Lexeme.read? at h
  simp only [Option.orElse_eq_orElse, Option.orElse_eq_or, Option.or_eq_some_iff] at h
  grind

/-- **The lexeme and the text after it are the text again.** -/
theorem Lexeme.text_append_rest {cs : List Char} {l : Lexeme} (h : Lexeme.read? cs = some l) :
    l.text ++ l.rest = cs := by
  rcases Lexeme.read?_cases h with h | h | h | h | h
  · exact (readSymbol?_text_append_rest h).1
  · exact (readString?_text_append_rest h).1
  · exact (readDate?_text_append_rest h).1
  · exact (readNumber?_text_append_rest h).1
  · exact (readWord?_text_append_rest h).1

/-- **A lexeme is not empty.** -/
theorem Lexeme.text_ne_nil {cs : List Char} {l : Lexeme} (h : Lexeme.read? cs = some l) :
    l.text ≠ [] := by
  rcases Lexeme.read?_cases h with h | h | h | h | h
  · exact (readSymbol?_text_append_rest h).2
  · exact (readString?_text_append_rest h).2
  · exact (readDate?_text_append_rest h).2
  · exact (readNumber?_text_append_rest h).2
  · exact (readWord?_text_append_rest h).2

theorem Lexeme.length_rest_lt {cs : List Char} {l : Lexeme} (h : Lexeme.read? cs = some l) :
    l.rest.length < cs.length := by
  have ha := Lexeme.text_append_rest h
  have hn := List.length_pos_iff.2 (Lexeme.text_ne_nil h)
  rw [← ha, List.length_append]
  omega

/-! ## Errors -/

/-- What can be wrong where a lexeme is looked for. -/
inductive SyntaxError.Cause where
  /-- A quoted text is not closed. -/
  | unterminatedString
  /-- What starts with a digit, up to the next character that no name could go on with, is neither
  a number nor a date. -/
  | invalidNumber (literal : String)
  /-- No lexeme starts with the character. -/
  | unknownCharacter (c : Char)
deriving DecidableEq, Repr

/-- The wording of a cause. -/
def SyntaxError.Cause.message : SyntaxError.Cause → String
  | .unterminatedString => "unterminated string literal"
  | .invalidNumber literal => "invalid numeric literal '" ++ literal ++ "'"
  | .unknownCharacter c => "unrecognized character '" ++ c.toString ++ "'"

/-- An error of the text itself, with the byte offset that it was found at. -/
structure SyntaxError where
  position : Nat
  cause : SyntaxError.Cause
deriving DecidableEq, Repr

/-- The text of an error. -/
def SyntaxError.message (e : SyntaxError) : String :=
  "syntax error at offset " ++ toString e.position ++ ": " ++ e.cause.message

/-- Why no lexeme starts a text whose first character is `c`. -/
def SyntaxError.causeAt (c : Char) (rest : List Char) : SyntaxError.Cause :=
  if isQuote c then .unterminatedString
  else if c.isDigit then .invalidNumber (String.ofList ((c :: rest).takeWhile isIdentChar))
  else .unknownCharacter c

/-! ## The tokens of a text -/

/-- The tokens of a text that starts at a byte offset, the end of the text being the last one. -/
def tokenizeFrom (pos : Nat) (cs : List Char) : Except SyntaxError (List Token) :=
  let start := pos + utf8Length (cs.takeWhile isBlank)
  match _ : cs.dropWhile isBlank with
  | [] => .ok [⟨.eof, start⟩]
  | c :: rest =>
    match _ : Lexeme.read? (c :: rest) with
    | none => .error ⟨start, SyntaxError.causeAt c rest⟩
    | some l => do
      let more ← tokenizeFrom (start + utf8Length l.text) l.rest
      .ok (⟨l.kind, start⟩ :: more)
termination_by cs.length
decreasing_by
  rename_i hd h
  have h1 := Lexeme.length_rest_lt h
  have h2 := (List.dropWhile_suffix (l := cs) isBlank).length_le
  rw [hd] at h2
  omega

/-- **The tokens of a text.** -/
def tokenize (source : String) : Except SyntaxError (List Token) := tokenizeFrom 0 source.toList

end SurveyQuests
