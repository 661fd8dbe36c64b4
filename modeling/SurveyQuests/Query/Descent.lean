import SurveyQuests.Query.Parser

/-!
# Reading tokens by recursive descent

The grammar can be followed the other way round from `ParserState.step`: there is a function for
every rule, which calls those for the parts of the rule, and what `ParserState` has on its stack of
levels is then told by which calls are in progress.  The reader of tokens is a place among them.  It
looks at the token there, in two cases at the one behind it as well, and goes on to the next place.
It does not look whether it is at the end before it goes on, and no call looks whether it is the
same as one that is in progress.  So calls have a limit to how deep they may be nested, and a
reading that reaches the limit has no result.

So that it can be said how far the reader gets and how calls are nested, a reading keeps a record:
the places that the reader has been at, and the calls in progress each time that one is made.  The
rules that are recorded are those which call others.  A loop counts as calls too, one for each
round, inside one another.

## What is here

* `EndedTokens` — a list of tokens with a mark of the end;
* `Descent.Rule`, `Descent.Call`, `Descent.State`, `Descent.Action` — what a reading keeps;
* `Descent.query` and the functions before it, rule by rule;
* `parseByDescent` — the reading of a list of tokens.
-/

set_option autoImplicit false

namespace SurveyQuests

/-- Tokens the last of which marks the end of the text. -/
structure EndedTokens where
  front : List Token
  last : Token
  kind_last : last.kind = .eof

namespace EndedTokens

/-- The tokens of a list; a mark of the end is added where the last token is none, and lies where
the last token starts. -/
def ofList (tokens : List Token) : EndedTokens :=
  match tokens.getLast? with
  | none => ⟨[], ⟨.eof, 0⟩, rfl⟩
  | some t =>
    if h : t.kind = .eof then ⟨tokens.dropLast, t, h⟩ else ⟨tokens, ⟨.eof, t.pos⟩, rfl⟩

/-- The token at a place; behind the last one there is still the last one. -/
def tokenAt (ts : EndedTokens) (place : Nat) : Token := ts.front.getD place ts.last

end EndedTokens

namespace Descent

/-! ## What a reading keeps -/

/-- The rules that call others, and the rounds of the four loops. -/
inductive Rule where
  /-- A round of the list of element kinds. -/
  | kind
  | disjunction
  /-- A round of the operands of an *or*. -/
  | alternative
  | conjunction
  /-- A round of the operands of an *and*. -/
  | conjunct
  | operand
  | primary
  /-- A condition that starts with a key. -/
  | tagCondition
  /-- A round of the values of a choice. -/
  | value
deriving DecidableEq, Repr

/-- A call for a rule, made at a place. -/
structure Call where
  rule : Rule
  start : Nat
deriving DecidableEq, Repr

/-- The state of a reading. -/
structure State where
  /-- The place of the reader. -/
  place : Nat := 0
  /-- The places it was at before, the newest first. -/
  earlier : List Nat := []
  /-- For each call that was made, the calls in progress then, the innermost first. -/
  record : List (List Call) := []
deriving Repr

/-- A part of a reading: an error leaves the state as it is, and there may be no result at all. -/
abbrev Action (α : Type) := ExceptT ParseError (StateT State Option) α

/-- Calls would be nested too deep: there is no result. -/
def tooDeep {α : Type} : Action α := liftM (none : Option α)

/-- Records a call for a rule within the calls in progress. -/
def enter (rule : Rule) (active : List Call) : Action (List Call) := do
  let s ← get
  let calls := ⟨rule, s.place⟩ :: active
  set { s with record := calls :: s.record }
  return calls

variable (ts : EndedTokens)

/-- The token at the reader, or some places behind it. -/
def peek (ahead : Nat := 0) : Action Token := do
  return ts.tokenAt ((← get).place + ahead)

/-- Goes on to the next place, if that is not behind the last one. -/
def advance : Action Unit :=
  modify fun s ↦
    if s.place ≤ ts.front.length then
      { s with place := s.place + 1, earlier := s.place :: s.earlier }
    else s

/-- Reports the token at the reader. -/
def reject {α : Type} (expected : Expectation) : Action α := do
  let t ← peek ts
  throw ⟨t.pos, expected, .token t.kind⟩

/-! ## Parts of conditions -/

/-- Reads a key. -/
def key (expected : Expectation) : Action String := do
  match (← peek ts).kind with
  | .ident key | .str key =>
    advance ts
    return key
  | _ => reject ts expected

/-- Reads a value, with a minus sign if a number follows it. -/
def value : Action String := do
  match (← peek ts).kind, (← peek ts 1).kind with
  | .minus, .number digits =>
    advance ts
    advance ts
    return "-" ++ digits
  | .ident value, _ | .str value, _ | .number value, _ | .date value, _ =>
    advance ts
    return value
  | _, _ => reject ts .value

/-- Reads a value that has to be a pattern. -/
def pattern : Action Pattern := do
  let start := (← peek ts).pos
  let source ← value ts
  match Pattern.compile? source with
  | some pattern => return pattern
  | none => throw ⟨start, .validPattern, .pattern source⟩

/-- Reads a finite number without a sign. -/
def number : Action Binary64 := do
  match ParserState.finiteNumber? (← peek ts).kind with
  | some x =>
    advance ts
    return x
  | none => reject ts .number

/-- Reads a unit. -/
def unit : Action DateUnit := do
  match (← peek ts).kind with
  | .keyword k =>
    match k.unit? with
    | some unit =>
      advance ts
      return unit
    | none => reject ts .unit
  | _ => reject ts .unit

/-- Reads the day to compare with. -/
def anchor : Action DateAnchor := do
  match (← peek ts).kind with
  | .keyword .today | .keyword .now =>
    advance ts
    if (← peek ts).kind = .minus then
      advance ts
      let magnitude ← number ts
      let unit ← unit ts
      return .relative magnitude unit
    else return ParserState.today
  | .date text =>
    match Date.readIso? text.toList with
    | some d =>
      advance ts
      return .fixed d
    | none => reject ts .calendarDate
  | _ => reject ts .anchor

/-! ## Conditions -/

/-- Reads the values behind the first one of a choice, of which `before` are those so far, the
newest first. -/
def moreValues : Nat → List Call → List String → Action (List String)
  | 0, _, _ => tooDeep
  | depth + 1, active, before => do
    let active ← enter .value active
    if (← peek ts).kind = .comma then
      advance ts
      let v ← value ts
      moreValues depth active (v :: before)
    else return before.reverse

/-- Reads a sign of equality and the values behind it. -/
def equality (depth : Nat) (active : List Call) (key : String) (negated : Bool) :
    Action Condition := do
  advance ts
  let first ← value ts
  match ← moreValues ts depth active [first] with
  | [v] => return .compares key (if negated then .ne else .eq) v
  | values => return .oneOf key values negated

/-- Reads a sign of order and the number behind it. -/
def order (key : String) (op : Comparison) : Action Condition := do
  advance ts
  if (← peek ts).kind = .minus then
    advance ts
    return .numeric key op (← number ts).neg
  else return .numeric key op (← number ts)

/-- Reads a sign of likeness and the pattern behind it. -/
def likeness (condition : Pattern → Condition) : Action Condition := do
  advance ts
  return condition (← pattern ts)

/-- Reads a direction and the day behind it. -/
def age (target : DateTarget) (direction : Direction) : Action Condition := do
  advance ts
  return .date target direction (← anchor ts)

/-- Reads what may follow a key. -/
def tagCondition : Nat → List Call → String → Action Condition
  | 0, _, _ => tooDeep
  | depth + 1, active, key => do
    let active ← enter .tagCondition active
    match (← peek ts).kind with
    | .eq => equality ts depth active key false
    | .ne => equality ts depth active key true
    | .tilde => likeness ts (.valueMatches key · false)
    | .bangTilde => likeness ts (.valueMatches key · true)
    | .lt => order ts key .lt
    | .le => order ts key .le
    | .gt => order ts key .gt
    | .ge => order ts key .ge
    | .keyword .older => age ts (.tag (.ofKey key)) .older
    | .keyword .newer => age ts (.tag (.ofKey key)) .newer
    | _ => return .hasKey key false

/-! ## Expressions -/

mutual

/-- Reads an *or*. -/
def disjunction : Nat → List Call → Action Filter
  | 0, _ => tooDeep
  | depth + 1, active => do
    let active ← enter .disjunction active
    let f ← conjunction depth active
    return (Filter.any (← moreAlternatives depth active [f])).simplify

/-- Reads the operands behind the first one of an *or*. -/
def moreAlternatives : Nat → List Call → List Filter → Action (List Filter)
  | 0, _, _ => tooDeep
  | depth + 1, active, before => do
    let active ← enter .alternative active
    if (← peek ts).kind = .keyword .or then
      advance ts
      let f ← conjunction depth active
      moreAlternatives depth active (f :: before)
    else return before.reverse

/-- Reads an *and*. -/
def conjunction : Nat → List Call → Action Filter
  | 0, _ => tooDeep
  | depth + 1, active => do
    let active ← enter .conjunction active
    let f ← operand depth active
    return (Filter.all (← moreConjuncts depth active [f])).simplify

/-- Reads the operands behind the first one of an *and*. -/
def moreConjuncts : Nat → List Call → List Filter → Action (List Filter)
  | 0, _, _ => tooDeep
  | depth + 1, active, before => do
    let active ← enter .conjunct active
    if (← peek ts).kind = .keyword .and then
      advance ts
      let f ← operand depth active
      moreConjuncts depth active (f :: before)
    else return before.reverse

/-- Reads an operand with the negations in front of it.  An exclamation mark is one only in front of
a parenthesis or another negation. -/
def operand : Nat → List Call → Action Filter
  | 0, _ => tooDeep
  | depth + 1, active => do
    let active ← enter .operand active
    match (← peek ts).kind with
    | .keyword .not =>
      advance ts
      return .not (← operand depth active)
    | .bang =>
      match (← peek ts 1).kind with
      | .leftParen | .bang | .keyword .not =>
        advance ts
        return .not (← operand depth active)
      | _ => primary depth active
    | _ => primary depth active

/-- Reads an operand without negations in front of it: a condition, or an *or* in parentheses. -/
def primary : Nat → List Call → Action Filter
  | 0, _ => tooDeep
  | depth + 1, active => do
    let active ← enter .primary active
    match (← peek ts).kind with
    | .leftParen =>
      advance ts
      let f ← disjunction depth active
      if (← peek ts).kind = .rightParen then
        advance ts
        return f
      else reject ts .closingParen
    | .bang =>
      advance ts
      return .condition (.hasKey (← key ts .keyAfterBang) true)
    | .tilde => return .condition (← likeness ts (.keyMatches · false))
    | .bangTilde => return .condition (← likeness ts (.keyMatches · true))
    | .keyword .older => return .condition (← age ts .element .older)
    | .keyword .newer => return .condition (← age ts .element .newer)
    | .ident key | .str key =>
      advance ts
      return .condition (← tagCondition ts depth active key)
    | _ => reject ts .operand

end

/-! ## Queries -/

/-- Reads element kinds with commas between them, and adds them to those so far. -/
def kinds : Nat → List Call → KindSet → Action KindSet
  | 0, _, _ => tooDeep
  | depth + 1, active, before => do
    let active ← enter .kind active
    match (← peek ts).kind with
    | .ident word =>
      match ElementKind.ofPlural? word with
      | some kind =>
        advance ts
        if (← peek ts).kind = .comma then
          advance ts
          kinds depth active (before.insert kind)
        else return before.insert kind
      | none => reject ts .elementKind
    | _ => reject ts .elementKind

/-- Reads the filter of a query, if there is one. -/
def filter (depth : Nat) : Action Filter := do
  if (← peek ts).kind = .ident "with" then
    advance ts
    disjunction ts depth []
  else if (← peek ts).kind = .eof then return .always
  else reject ts .commaOrWith

/-- Reads a query up to the end of the text. -/
def query (depth : Nat) : Action Query := do
  let kinds ← kinds ts depth [] .empty
  let filter ← filter ts depth
  if (← peek ts).kind = .eof then return ⟨kinds, filter⟩
  else reject ts .connective

end Descent

/-- The reading of a list of tokens by recursive descent: what comes out, if calls need not be
nested deeper than `depth`, and the state at the end. -/
def parseByDescent (depth : Nat) (tokens : List Token) :
    Option (Except ParseError Query × Descent.State) :=
  (Descent.query (.ofList tokens) depth).run.run {}

end SurveyQuests
