import SurveyQuests.Query.Parser

/-!
# The grammar of queries

The grammar is written down as data: one type for each nonterminal, one constructor for each of its
alternatives.  A value of such a type is a derivation; `tokens` is the list of tokens that it
derives, and `tree`, or `condition`, what it stands for.

```
query  = KIND ("," KIND)* ("with" or)?
or     = and ("or" and)*
and    = unary ("and" unary)*
unary  = ("not" | "!") unary | "(" or ")" | atom
atom   = "!" key | ("~" | "!~") value | direction anchor | key clause
clause = | ("=" | "!=") value ("," value)* | ("~" | "!~") value
         | ("<" | "<=" | ">" | ">=") "-"? NUMBER | direction anchor
anchor = ("today" | "now") ("-" NUMBER unit)? | DATE
key    = IDENT | STRING
value  = IDENT | STRING | NUMBER | DATE | "-" NUMBER
```

What the grammar asks of a literal is kept beside the literal: the pattern of a text, the finite
number of its digits, the day of a date.  The one condition that is not local is that of `!` before
an operand: the operand has to start with a parenthesis, with another `!` or with `not`, since
before a key the mark belongs to the key.  It is in `UnaryExpr.Valid`.

## What is here

* `Key`, `Value`, `PatternText`, `Numeral`, `Anchor`, `Clause`, `Atom` — the parts of a condition;
* `OrExpr`, `AndExpr`, `UnaryExpr` — expressions, with `tokens`, `tree` and `Valid`;
* `endsOr`, `endsAnd`, `endsOperand` — the tokens that can stand after an expression;
* `QuerySyntax` — a whole query;
* `Derivation` — the derivations of a list of tokens.
-/

set_option autoImplicit false

namespace SurveyQuests.Grammar

/-! ## Literals -/

/-- A key. -/
inductive Key where
  | ident (s : String)
  | str (s : String)
deriving DecidableEq

/-- The text of a key. -/
def Key.text : Key → String
  | .ident s | .str s => s

/-- The token of a key. -/
def Key.token : Key → TokenKind
  | .ident s => .ident s
  | .str s => .str s

/-- A value. -/
inductive Value where
  | ident (s : String)
  | str (s : String)
  | number (s : String)
  | date (s : String)
  /-- A number with a minus sign. -/
  | negative (digits : String)
deriving DecidableEq

/-- The text of a value. -/
def Value.text : Value → String
  | .ident s | .str s | .number s | .date s => s
  | .negative digits => "-" ++ digits

/-- The tokens of a value. -/
def Value.tokens : Value → List TokenKind
  | .ident s => [.ident s]
  | .str s => [.str s]
  | .number s => [.number s]
  | .date s => [.date s]
  | .negative digits => [.minus, .number digits]

/-- A value whose text is the source of a pattern. -/
structure PatternText where
  value : Value
  pattern : Pattern
  compiles : Pattern.compile? value.text = some pattern

/-- Digits that read as a finite number. -/
structure Numeral where
  digits : String
  number : Binary64
  reads : ParserState.finiteNumber? (.number digits) = some number

theorem PatternText.eq_of_value {p q : PatternText} (h : p.value = q.value) : p = q := by
  obtain ⟨v, x, hx⟩ := p
  obtain ⟨w, y, hy⟩ := q
  cases h
  rw [hx] at hy
  cases hy
  rfl

theorem Numeral.eq_of_digits {m n : Numeral} (h : m.digits = n.digits) : m = n := by
  obtain ⟨v, x, hx⟩ := m
  obtain ⟨w, y, hy⟩ := n
  cases h
  rw [hx] at hy
  cases hy
  rfl

theorem Key.eq_of_token {k l : Key} (h : k.token = l.token) : k = l := by
  cases k <;> cases l <;> simp_all [Key.token]

theorem Value.eq_of_tokens {v w : Value} {r r' : List TokenKind}
    (h : v.tokens ++ r = w.tokens ++ r') : v = w ∧ r = r' := by
  cases v <;> cases w <;> simp_all [Value.tokens]

/-! ## Conditions -/

/-- The two words for the day of reference. -/
inductive TodayWord where
  | today
  | now
deriving DecidableEq

/-- The keyword of such a word. -/
def TodayWord.keyword : TodayWord → Keyword
  | .today => .today
  | .now => .now

theorem TodayWord.eq_of_keyword {v w : TodayWord} (h : v.keyword = w.keyword) : v = w := by
  cases v <;> cases w <;> first | rfl | cases h

theorem unit?_eq_some_iff {k : Keyword} {u : DateUnit} : k.unit? = some u ↔ k = u.keyword := by
  cases k <;> cases u <;> decide

theorem eq_of_unitKeyword {t u : DateUnit} (h : t.keyword = u.keyword) : t = u := by
  have ht := DateUnit.unit?_keyword t
  rw [h, DateUnit.unit?_keyword] at ht
  exact (Option.some.inj ht).symm

theorem eq_of_directionKeyword {c d : Direction} (h : c.keyword = d.keyword) : c = d := by
  cases c <;> cases d <;> first | rfl | cases h

/-- The day that a date is compared with. -/
inductive Anchor where
  | today (word : TodayWord)
  | before (word : TodayWord) (count : Numeral) (unit : DateUnit)
  | day (text : String) (d : Date) (reads : Date.readIso? text.toList = some d)

/-- The tokens of an anchor. -/
def Anchor.tokens : Anchor → List TokenKind
  | .today word => [.keyword word.keyword]
  | .before word count unit =>
    [.keyword word.keyword, .minus, .number count.digits, .keyword unit.keyword]
  | .day text _ _ => [.date text]

/-- What an anchor stands for. -/
def Anchor.anchor : Anchor → DateAnchor
  | .today _ => ParserState.today
  | .before _ count unit => .relative count.number unit
  | .day _ d _ => .fixed d

/-- The comparisons of numbers. -/
inductive OrderSign where
  | lt
  | le
  | gt
  | ge
deriving DecidableEq

/-- The comparison of a sign. -/
def OrderSign.comparison : OrderSign → Comparison
  | .lt => .lt
  | .le => .le
  | .gt => .gt
  | .ge => .ge

/-- The token of a sign. -/
def OrderSign.token : OrderSign → TokenKind
  | .lt => .lt
  | .le => .le
  | .gt => .gt
  | .ge => .ge

theorem OrderSign.eq_of_token {s t : OrderSign} (h : s.token = t.token) : s = t := by
  cases s <;> cases t <;> first | rfl | cases h

/-- What may follow a key. -/
inductive Clause where
  /-- Nothing: the key has to be there. -/
  | present
  | among (negated : Bool) (first : Value) (more : List Value)
  | matching (negated : Bool) (pattern : PatternText)
  | numeric (sign : OrderSign) (negative : Bool) (number : Numeral)
  | dated (direction : Direction) (anchor : Anchor)

/-- The token of `=` or `!=`. -/
def equalityToken (negated : Bool) : TokenKind := if negated then .ne else .eq

/-- The token of `~` or `!~`. -/
def matchToken (negated : Bool) : TokenKind := if negated then .bangTilde else .tilde

theorem eq_of_equalityToken {b c : Bool} (h : equalityToken b = equalityToken c) : b = c := by
  cases b <;> cases c <;> first | rfl | cases h

theorem eq_of_matchToken {b c : Bool} (h : matchToken b = matchToken c) : b = c := by
  cases b <;> cases c <;> first | rfl | cases h

/-- The tokens of values with commas in front. -/
def moreTokens (values : List Value) : List TokenKind :=
  values.flatMap fun v ↦ .comma :: v.tokens

theorem moreTokens_cons (v : Value) (vs : List Value) :
    moreTokens (v :: vs) = .comma :: (v.tokens ++ moreTokens vs) := rfl

/-- The token of a minus sign, if there is one. -/
def minusTokens (negative : Bool) : List TokenKind := if negative then [.minus] else []

/-- The tokens of a clause. -/
def Clause.tokens : Clause → List TokenKind
  | .present => []
  | .among negated first more => equalityToken negated :: (first.tokens ++ moreTokens more)
  | .matching negated pattern => matchToken negated :: pattern.value.tokens
  | .numeric sign negative number =>
    sign.token :: (minusTokens negative ++ [.number number.digits])
  | .dated direction anchor => .keyword direction.keyword :: anchor.tokens

/-- The number with the sign that is written before it. -/
def Numeral.signed (negative : Bool) (number : Numeral) : Binary64 :=
  if negative then number.number.neg else number.number

/-- The condition of a key and a clause. -/
def Clause.condition (key : String) : Clause → Condition
  | .present => .hasKey key false
  | .among negated first [] => .compares key (if negated then .ne else .eq) first.text
  | .among negated first (second :: more) =>
    .oneOf key ((first :: second :: more).map Value.text) negated
  | .matching negated pattern => .valueMatches key pattern.pattern negated
  | .numeric sign negative number => .numeric key sign.comparison (number.signed negative)
  | .dated direction anchor => .date (.tag (.ofKey key)) direction anchor.anchor

/-- A condition, as it is written. -/
inductive Atom where
  | absent (key : Key)
  | keyMatching (negated : Bool) (pattern : PatternText)
  | edited (direction : Direction) (anchor : Anchor)
  | tagged (key : Key) (clause : Clause)

/-- The tokens of a condition. -/
def Atom.tokens : Atom → List TokenKind
  | .absent key => [.bang, key.token]
  | .keyMatching negated pattern => matchToken negated :: pattern.value.tokens
  | .edited direction anchor => .keyword direction.keyword :: anchor.tokens
  | .tagged key clause => key.token :: clause.tokens

/-- The condition that is written. -/
def Atom.condition : Atom → Condition
  | .absent key => .hasKey key.text true
  | .keyMatching negated pattern => .keyMatches pattern.pattern negated
  | .edited direction anchor => .date .element direction anchor.anchor
  | .tagged key clause => clause.condition key.text

/-! ## Expressions -/

mutual

/-- Operands of *or*. -/
inductive OrExpr where
  | last (a : AndExpr)
  | or (a : AndExpr) (e : OrExpr)

/-- Operands of *and*. -/
inductive AndExpr where
  | last (u : UnaryExpr)
  | and (u : UnaryExpr) (a : AndExpr)

/-- An operand. -/
inductive UnaryExpr where
  | not (u : UnaryExpr)
  /-- An exclamation mark before an operand. -/
  | bang (u : UnaryExpr)
  | group (e : OrExpr)
  | atom (a : Atom)

end

mutual

/-- The tokens of an *or*. -/
def OrExpr.tokens : OrExpr → List TokenKind
  | .last a => a.tokens
  | .or a e => a.tokens ++ .keyword .or :: e.tokens

/-- The tokens of an *and*. -/
def AndExpr.tokens : AndExpr → List TokenKind
  | .last u => u.tokens
  | .and u a => u.tokens ++ .keyword .and :: a.tokens

/-- The tokens of an operand. -/
def UnaryExpr.tokens : UnaryExpr → List TokenKind
  | .not u => .keyword .not :: u.tokens
  | .bang u => .bang :: u.tokens
  | .group e => .leftParen :: (e.tokens ++ [.rightParen])
  | .atom a => a.tokens

end

mutual

/-- The operands of an *or*, each of them an *and*. -/
def OrExpr.operands : OrExpr → List Filter
  | .last a => [.all a.operands]
  | .or a e => .all a.operands :: e.operands

/-- The operands of an *and*. -/
def AndExpr.operands : AndExpr → List Filter
  | .last u => [u.tree]
  | .and u a => u.tree :: a.operands

/-- The filter of an operand. -/
def UnaryExpr.tree : UnaryExpr → Filter
  | .not u | .bang u => .not u.tree
  | .group e => .any e.operands
  | .atom a => .condition a.condition

end

/-- The filter of an *or*: every *or* and every *and* of the derivation is there, also one with a
single operand. -/
def OrExpr.tree (e : OrExpr) : Filter := .any e.operands

/-- May an exclamation mark that stands before the token negate an operand? -/
def startsNegatable : TokenKind → Bool
  | .leftParen | .bang | .keyword .not => true
  | _ => false

mutual

/-- Do all exclamation marks stand where they may? -/
def OrExpr.Valid : OrExpr → Prop
  | .last a => a.Valid
  | .or a e => a.Valid ∧ e.Valid

/-- Do all exclamation marks stand where they may? -/
def AndExpr.Valid : AndExpr → Prop
  | .last u => u.Valid
  | .and u a => u.Valid ∧ a.Valid

/-- Do all exclamation marks stand where they may? -/
def UnaryExpr.Valid : UnaryExpr → Prop
  | .not u => u.Valid
  | .bang u => u.tokens.head?.any startsNegatable = true ∧ u.Valid
  | .group e => e.Valid
  | .atom _ => True

end

theorem Atom.tokens_ne_nil (a : Atom) : a.tokens ≠ [] := by
  cases a <;> exact List.cons_ne_nil _ _

theorem UnaryExpr.tokens_ne_nil (u : UnaryExpr) : u.tokens ≠ [] := by
  cases u with
  | atom a => exact Atom.tokens_ne_nil a
  | _ => exact List.cons_ne_nil _ _

/-! ## What may follow -/

/-- Can the token stand after a whole *or*? -/
def endsOr : TokenKind → Bool
  | .eof | .rightParen => true
  | _ => false

/-- Can the token stand after a whole *and*? -/
def endsAnd : TokenKind → Bool
  | .keyword .or => true
  | k => endsOr k

/-- Can the token stand after an operand? -/
def endsOperand : TokenKind → Bool
  | .keyword .and => true
  | k => endsAnd k

/-- Do the tokens go on with one that passes the test?  Where they end, the end is what counts. -/
def GoesOn (test : TokenKind → Bool) (r : List TokenKind) : Prop := test (r.headD .eof) = true

theorem GoesOn.toAnd {r : List TokenKind} (h : GoesOn endsOr r) : GoesOn endsAnd r := by
  unfold GoesOn endsAnd
  split
  · rfl
  · exact h

theorem GoesOn.toOperand {r : List TokenKind} (h : GoesOn endsAnd r) : GoesOn endsOperand r := by
  unfold GoesOn endsOperand
  split
  · rfl
  · exact h

theorem goesOn_or (r : List TokenKind) : GoesOn endsAnd (.keyword .or :: r) := rfl

theorem goesOn_and (r : List TokenKind) : GoesOn endsOperand (.keyword .and :: r) := rfl

theorem goesOn_rightParen (r : List TokenKind) : GoesOn endsOr (.rightParen :: r) := rfl

/-! ## Queries -/

/-- A query, as it is written. -/
structure QuerySyntax where
  kind : ElementKind
  moreKinds : List ElementKind
  filter : Option OrExpr

namespace QuerySyntax

/-- The kinds that are listed. -/
def kinds (s : QuerySyntax) : List ElementKind := s.kind :: s.moreKinds

/-- The tokens of the kinds after the first. -/
def moreKindTokens (kinds : List ElementKind) : List TokenKind :=
  kinds.flatMap fun k ↦ [.comma, .ident k.plural]

/-- The tokens of the filter, with the word before it. -/
def filterTokens : Option OrExpr → List TokenKind
  | none => []
  | some e => .ident "with" :: e.tokens

/-- The tokens of a query. -/
def tokens (s : QuerySyntax) : List TokenKind :=
  .ident s.kind.plural :: (moreKindTokens s.moreKinds ++ filterTokens s.filter)

/-- The filter of a query, the empty condition if none is written. -/
def tree (s : QuerySyntax) : Filter := s.filter.elim .always OrExpr.tree

/-- Do all exclamation marks stand where they may? -/
def Valid (s : QuerySyntax) : Prop := ∀ e ∈ s.filter, e.Valid

/-- The query that is written: its filter is simplified once, as a whole. -/
def query (s : QuerySyntax) : Query := ⟨.ofList s.kinds, s.tree.simplify⟩

end QuerySyntax

/-- A derivation of a list of tokens. -/
structure Derivation (ts : List TokenKind) where
  written : QuerySyntax
  valid : written.Valid
  tokens_eq : written.tokens = ts

end SurveyQuests.Grammar
