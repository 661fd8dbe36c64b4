import SurveyQuests.Query.Basic

/-!
# Reading tokens as queries

The parser takes one token after another and never looks ahead.  Its state is a *phase*, which says
what may come next and what has been seen of the condition that is being read, and a stack of
*levels*, one for each open parenthesis and one for the whole.  A level holds the alternatives of an
`or` that are complete, the operands of an `and` that are complete, and the number of negations that
wait for the operand that comes next.

Some conditions have no last token of their own: after a key, a value or the word `today` the next
token decides whether the condition goes on.  `ParserState.settled` completes such a condition when
the token does not continue it; then the token is taken like any after a complete operand.

A token that the state cannot take is where the error is, and the phase says what was expected.  The
one exception is a minus sign that should start a value and has no number after it: then the minus
sign itself is reported.  The first token that marks the end of the text ends the reading.

The filter of the query is brought to its normal form once, when it is complete.

## What is here

* `Expectation`, `ParseError` — what was expected, where, and what was found;
* `Level`, `Phase`, `ParserState`;
* `ParserState.step` — takes a token;
* `ParserState.finish` — takes the end of the text;
* `parse` — the query of a list of tokens.
-/

set_option autoImplicit false

namespace SurveyQuests

/-! ## Errors -/

/-- What can be expected at a point of a query. -/
inductive Expectation where
  | elementKind
  | commaOrWith
  | operand
  | keyAfterBang
  | value
  | validPattern
  | number
  | anchor
  | calendarDate
  | unit
  | closingParen
  | connective
deriving DecidableEq, Repr

/-- How messages name what was expected. -/
def Expectation.text : Expectation → String
  | .elementKind => "element type (nodes, ways or relations)"
  | .commaOrWith => "',' or 'with'"
  | .operand => "tag expression or '('"
  | .keyAfterBang => "tag key or '(' after '!'"
  | .value => "value"
  | .validPattern => "valid regular expression"
  | .number => "number"
  | .anchor => "'today', 'now' or a date (YYYY-MM-DD)"
  | .calendarDate => "valid calendar date"
  | .unit => "date unit (years, months, weeks or days)"
  | .closingParen => "')'"
  | .connective => "'and', 'or' or end of input"

/-- What was found instead. -/
inductive Finding where
  /-- A token that cannot stand where it does. -/
  | token (kind : TokenKind)
  /-- A text that is no regular expression. -/
  | pattern (source : String)
deriving DecidableEq, Repr

/-- How messages name what was found.  A refused pattern is named by its source; what the library of
patterns has to say about it, which would follow in parentheses, is left out. -/
def Finding.text : Finding → String
  | .token kind => kind.shown
  | .pattern source => Quoted.quoted source

/-- An error of the sequence of tokens, with the byte offset of the token that it was found at. -/
structure ParseError where
  position : Nat
  expected : Expectation
  found : Finding
deriving DecidableEq, Repr

/-- The text of an error. -/
def ParseError.message (e : ParseError) : String :=
  "parse error at offset " ++ toString e.position ++ ": expected " ++ e.expected.text ++
    ", found " ++ e.found.text

/-! ## States -/

/-- What is complete inside an open parenthesis, or on the outside; the newest comes first. -/
structure Level where
  /-- The complete operands of an `or`. -/
  alternatives : List Filter := []
  /-- The complete operands of the `and` that is being read. -/
  conjuncts : List Filter := []
  /-- The negations in front of the operand that comes next. -/
  negations : Nat := 0

namespace Level

/-- A filter with a number of negations in front. -/
def negate : Nat → Filter → Filter
  | 0, f => f
  | n + 1, f => .not (negate n f)

/-- The level with one more negation in front of the next operand. -/
def addNegation (l : Level) : Level := { l with negations := l.negations + 1 }

/-- The level with its next operand. -/
def addOperand (l : Level) (f : Filter) : Level :=
  { l with conjuncts := negate l.negations f :: l.conjuncts, negations := 0 }

/-- The level with the `and` complete, so that another alternative may come. -/
def closeAlternative (l : Level) : Level :=
  { alternatives := .all l.conjuncts.reverse :: l.alternatives }

/-- The filter of a level that is complete. -/
def filter (l : Level) : Filter := .any l.closeAlternative.alternatives.reverse

end Level

/-- What is to be done with the next value. -/
inductive ValueUse where
  /-- Match the keys with it. -/
  | keyPattern (negated : Bool)
  /-- Match the value of a key with it. -/
  | valuePattern (key : String) (negated : Bool)
  /-- Compare the value of a key with it, and with the values before it, of which the newest comes
  first. -/
  | member (key : String) (negated : Bool) (before : List String)
deriving DecidableEq, Repr

/-- What may come next. -/
inductive Phase where
  /-- An element kind. -/
  | kind
  /-- A comma, or the word `with`, or the end. -/
  | afterKind
  /-- An operand. -/
  | operand
  /-- What may follow an exclamation mark. -/
  | afterBang
  /-- What may follow a key. -/
  | afterKey (key : String)
  /-- A value. -/
  | value (use : ValueUse)
  /-- The number of a value with a minus sign at an offset. -/
  | valueAfterMinus (use : ValueUse) (minus : Nat)
  /-- What may follow a value that a key is compared with. -/
  | afterValue (key : String) (negated : Bool) (newest : String) (before : List String)
  /-- A number that a key is compared with; without a minus sign yet one may come. -/
  | number (key : String) (op : Comparison) (negative : Bool)
  /-- A day. -/
  | anchor (target : DateTarget) (direction : Direction)
  /-- What may follow today. -/
  | afterToday (target : DateTarget) (direction : Direction)
  /-- The number of units before today. -/
  | magnitude (target : DateTarget) (direction : Direction)
  /-- The unit. -/
  | unit (target : DateTarget) (direction : Direction) (magnitude : Binary64)
  /-- What may follow a complete operand. -/
  | afterOperand

/-- A state of the parser. -/
structure ParserState where
  kinds : KindSet := .empty
  /-- The innermost level. -/
  level : Level := {}
  /-- The levels around it, from the inside to the outside. -/
  outer : List Level := []
  phase : Phase := .kind

namespace ParserState

/-- What a state expects. -/
def expected (s : ParserState) : Expectation :=
  match s.phase with
  | .kind => .elementKind
  | .afterKind => .commaOrWith
  | .operand => .operand
  | .afterBang => .keyAfterBang
  | .value _ | .valueAfterMinus _ _ => .value
  | .number _ _ _ | .magnitude _ _ => .number
  | .anchor _ _ => .anchor
  | .unit _ _ _ => .unit
  | .afterKey _ | .afterValue _ _ _ _ | .afterToday _ _ | .afterOperand =>
    if s.outer.isEmpty then .connective else .closingParen

/-- The error of a state that cannot take a token. -/
def rejection (s : ParserState) (t : Token) : ParseError :=
  match s.phase with
  | .valueAfterMinus _ minus => ⟨minus, .value, .token .minus⟩
  | _ => ⟨t.pos, s.expected, .token t.kind⟩

/-! ## Completing a condition -/

/-- The state after an operand. -/
def addOperand (s : ParserState) (f : Filter) : ParserState :=
  { s with level := s.level.addOperand f, phase := .afterOperand }

/-- The state after a condition. -/
def addCondition (s : ParserState) (c : Condition) : ParserState := s.addOperand (.condition c)

/-- The condition that a key has a value or one of several. -/
def membership (key : String) (negated : Bool) (newest : String) (before : List String) :
    Condition :=
  if before.isEmpty then .compares key (if negated then .ne else .eq) newest
  else .oneOf key (newest :: before).reverse negated

/-- No days before today. -/
def today : DateAnchor := .relative .zero .days

/-- Does a token continue a condition that has only a key so far? -/
def continuesKey : TokenKind → Bool
  | .eq | .ne | .tilde | .bangTilde | .lt | .le | .gt | .ge => true
  | .keyword .older | .keyword .newer => true
  | _ => false

/-- Completes a condition that the token does not continue. -/
def settled (s : ParserState) (kind : TokenKind) : ParserState :=
  match s.phase with
  | .afterKey key => if continuesKey kind then s else s.addCondition (.hasKey key false)
  | .afterValue key negated newest before =>
    if kind = .comma then s else s.addCondition (membership key negated newest before)
  | .afterToday target direction =>
    if kind = .minus then s else s.addCondition (.date target direction today)
  | _ => s

/-! ## Taking a token -/

/-- The state in another phase. -/
def enter (s : ParserState) (phase : Phase) : ParserState := { s with phase }

/-- The state with one more negation in front of the next operand. -/
def addNegation (s : ParserState) : ParserState := { s with level := s.level.addNegation }

/-- The state inside a parenthesis. -/
def openParen (s : ParserState) : ParserState :=
  { s with level := {}, outer := s.level :: s.outer, phase := .operand }

/-- Takes an element kind. -/
def takeKind (s : ParserState) (t : Token) : Except ParseError ParserState :=
  match t.kind with
  | .ident word =>
    match ElementKind.ofPlural? word with
    | some kind => .ok { s with kinds := s.kinds.insert kind, phase := .afterKind }
    | none => .error (s.rejection t)
  | _ => .error (s.rejection t)

/-- Takes what follows an element kind. -/
def takeAfterKind (s : ParserState) (t : Token) : Except ParseError ParserState :=
  match t.kind with
  | .comma => .ok (s.enter .kind)
  | .ident word => if word = "with" then .ok (s.enter .operand) else .error (s.rejection t)
  | _ => .error (s.rejection t)

/-- Takes the start of an operand. -/
def takeOperand (s : ParserState) (t : Token) : Except ParseError ParserState :=
  match t.kind with
  | .keyword .not => .ok s.addNegation
  | .bang => .ok (s.enter .afterBang)
  | .leftParen => .ok s.openParen
  | .tilde => .ok (s.enter (.value (.keyPattern false)))
  | .bangTilde => .ok (s.enter (.value (.keyPattern true)))
  | .keyword .older => .ok (s.enter (.anchor .element .older))
  | .keyword .newer => .ok (s.enter (.anchor .element .newer))
  | .ident key | .str key => .ok (s.enter (.afterKey key))
  | _ => .error (s.rejection t)

/-- Takes what follows an exclamation mark: a key, which then must be absent, or an operand that has
no key in front, which is negated. -/
def takeAfterBang (s : ParserState) (t : Token) : Except ParseError ParserState :=
  match t.kind with
  | .ident key | .str key => .ok (s.addCondition (.hasKey key true))
  | .leftParen => .ok s.addNegation.openParen
  | .bang => .ok (s.addNegation.enter .afterBang)
  | .keyword .not => .ok (s.addNegation.addNegation.enter .operand)
  | _ => .error (s.rejection t)

/-- Takes what continues a condition that has only a key so far. -/
def takeAfterKey (s : ParserState) (key : String) (t : Token) : Except ParseError ParserState :=
  match t.kind with
  | .eq => .ok (s.enter (.value (.member key false [])))
  | .ne => .ok (s.enter (.value (.member key true [])))
  | .tilde => .ok (s.enter (.value (.valuePattern key false)))
  | .bangTilde => .ok (s.enter (.value (.valuePattern key true)))
  | .lt => .ok (s.enter (.number key .lt false))
  | .le => .ok (s.enter (.number key .le false))
  | .gt => .ok (s.enter (.number key .gt false))
  | .ge => .ok (s.enter (.number key .ge false))
  | .keyword .older => .ok (s.enter (.anchor (.tag (.ofKey key)) .older))
  | .keyword .newer => .ok (s.enter (.anchor (.tag (.ofKey key)) .newer))
  | _ => .error (s.rejection t)

/-- Puts a value that starts at an offset to its use. -/
def useValue (s : ParserState) (use : ValueUse) (value : String) (start : Nat) :
    Except ParseError ParserState :=
  let withPattern (condition : Pattern → Condition) : Except ParseError ParserState :=
    match Pattern.compile? value with
    | some pattern => .ok (s.addCondition (condition pattern))
    | none => .error ⟨start, .validPattern, .pattern value⟩
  match use with
  | .keyPattern negated => withPattern (.keyMatches · negated)
  | .valuePattern key negated => withPattern (.valueMatches key · negated)
  | .member key negated before => .ok (s.enter (.afterValue key negated value before))

/-- Takes a value, or the minus sign of one. -/
def takeValue (s : ParserState) (use : ValueUse) (t : Token) : Except ParseError ParserState :=
  match t.kind with
  | .ident value | .str value | .number value | .date value => s.useValue use value t.pos
  | .minus => .ok (s.enter (.valueAfterMinus use t.pos))
  | _ => .error (s.rejection t)

/-- Takes the number of a value with a minus sign. -/
def takeValueAfterMinus (s : ParserState) (use : ValueUse) (minus : Nat) (t : Token) :
    Except ParseError ParserState :=
  match t.kind with
  | .number digits => s.useValue use ("-" ++ digits) minus
  | _ => .error (s.rejection t)

/-- The finite number that a token stands for. -/
def finiteNumber? : TokenKind → Option Binary64
  | .number text => (Binary64.read? text.toList).filter Binary64.isFinite
  | _ => none

/-- Takes a number to compare with, or its minus sign. -/
def takeNumber (s : ParserState) (key : String) (op : Comparison) (negative : Bool) (t : Token) :
    Except ParseError ParserState :=
  if t.kind = .minus ∧ negative = false then .ok (s.enter (.number key op true))
  else
    match finiteNumber? t.kind with
    | some x => .ok (s.addCondition (.numeric key op (if negative then x.neg else x)))
    | none => .error (s.rejection t)

/-- Takes the day to compare with. -/
def takeAnchor (s : ParserState) (target : DateTarget) (direction : Direction) (t : Token) :
    Except ParseError ParserState :=
  match t.kind with
  | .keyword .today | .keyword .now => .ok (s.enter (.afterToday target direction))
  | .date text =>
    match Date.readIso? text.toList with
    | some d => .ok (s.addCondition (.date target direction (.fixed d)))
    | none => .error ⟨t.pos, .calendarDate, .token t.kind⟩
  | _ => .error (s.rejection t)

/-- Takes the number of units before today. -/
def takeMagnitude (s : ParserState) (target : DateTarget) (direction : Direction) (t : Token) :
    Except ParseError ParserState :=
  match finiteNumber? t.kind with
  | some x => .ok (s.enter (.unit target direction x))
  | none => .error (s.rejection t)

/-- Takes the unit. -/
def takeUnit (s : ParserState) (target : DateTarget) (direction : Direction) (magnitude : Binary64)
    (t : Token) : Except ParseError ParserState :=
  match t.kind with
  | .keyword k =>
    match k.unit? with
    | some unit => .ok (s.addCondition (.date target direction (.relative magnitude unit)))
    | none => .error (s.rejection t)
  | _ => .error (s.rejection t)

/-- Takes what follows a complete operand. -/
def takeAfterOperand (s : ParserState) (t : Token) : Except ParseError ParserState :=
  match t.kind with
  | .keyword .and => .ok (s.enter .operand)
  | .keyword .or => .ok { s with level := s.level.closeAlternative, phase := .operand }
  | .rightParen =>
    match s.outer with
    | around :: outer =>
      .ok { s with level := around.addOperand s.level.filter, outer, phase := .afterOperand }
    | [] => .error (s.rejection t)
  | _ => .error (s.rejection t)

/-- Takes a token, once no complete condition is left open before it. -/
def take (s : ParserState) (t : Token) : Except ParseError ParserState :=
  match s.phase with
  | .kind => s.takeKind t
  | .afterKind => s.takeAfterKind t
  | .operand => s.takeOperand t
  | .afterBang => s.takeAfterBang t
  | .afterKey key => s.takeAfterKey key t
  | .value use => s.takeValue use t
  | .valueAfterMinus use minus => s.takeValueAfterMinus use minus t
  | .afterValue key negated newest before =>
    .ok (s.enter (.value (.member key negated (newest :: before))))
  | .number key op negative => s.takeNumber key op negative t
  | .anchor target direction => s.takeAnchor target direction t
  | .afterToday target direction => .ok (s.enter (.magnitude target direction))
  | .magnitude target direction => s.takeMagnitude target direction t
  | .unit target direction magnitude => s.takeUnit target direction magnitude t
  | .afterOperand => s.takeAfterOperand t

/-- **Takes a token.** -/
def step (s : ParserState) (t : Token) : Except ParseError ParserState := (s.settled t.kind).take t

/-- Takes the end of the text, which a query may have after its kinds or after an operand outside of
all parentheses. -/
def finish (s : ParserState) (t : Token) : Except ParseError Query :=
  let s := s.settled .eof
  match s.phase, s.outer with
  | .afterKind, _ => .ok ⟨s.kinds, .always⟩
  | .afterOperand, [] => .ok ⟨s.kinds, s.level.filter.simplify⟩
  | _, _ => .error (s.rejection t)

/-- Takes tokens up to the end of the text, which lies where the last token starts if no token marks
it. -/
def run (s : ParserState) (last : Nat) : List Token → Except ParseError Query
  | [] => s.finish ⟨.eof, last⟩
  | t :: ts =>
    if t.kind = .eof then s.finish t
    else
      match s.step t with
      | .ok s => s.run t.pos ts
      | .error e => .error e

end ParserState

/-- **The query of a list of tokens.** -/
def parse (tokens : List Token) : Except ParseError Query := ParserState.run {} 0 tokens

end SurveyQuests
