import SurveyQuests.Text.Quoted
import SurveyQuests.Calendar.Arithmetic

/-!
# Tokens of the filter language

The text of a filter is a sequence of tokens: names and literals, operators, punctuation and
keywords.  A token knows the byte offset that it starts at.

## What is here

* `Keyword` — the reserved words, `Keyword.text` and `Keyword.ofText?`, and
  `Keyword.ofText?_eq_some_iff` which ties them together;
* `TokenKind`, `Token`;
* `TokenKind.shown` — how a message names a token.
-/

set_option autoImplicit false

namespace SurveyQuests

/-- The reserved words. -/
inductive Keyword where
  | and
  | or
  | not
  | older
  | newer
  | today
  | now
  | years
  | months
  | weeks
  | days
deriving DecidableEq, Repr

namespace Keyword

/-- The word. -/
def text : Keyword → String
  | .and => "and"
  | .or => "or"
  | .not => "not"
  | .older => "older"
  | .newer => "newer"
  | .today => "today"
  | .now => "now"
  | .years => "years"
  | .months => "months"
  | .weeks => "weeks"
  | .days => "days"

/-- All keywords. -/
def all : List Keyword :=
  [.and, .or, .not, .older, .newer, .today, .now, .years, .months, .weeks, .days]

/-- The keyword that a word is, if it is one; case counts. -/
def ofText? (s : String) : Option Keyword := all.find? fun k ↦ k.text == s

theorem ofText?_text (k : Keyword) : ofText? k.text = some k := by
  cases k <;> decide

theorem ofText?_eq_some_iff {s : String} {k : Keyword} : ofText? s = some k ↔ s = k.text := by
  constructor
  · intro h
    have := List.find?_some h
    exact (beq_iff_eq.1 this).symm
  · rintro rfl
    exact ofText?_text k

/-- The unit that a keyword names, if it names one. -/
def unit? : Keyword → Option DateUnit
  | .years => some .years
  | .months => some .months
  | .weeks => some .weeks
  | .days => some .days
  | _ => none

end Keyword

/-- The keyword of a unit. -/
def DateUnit.keyword : DateUnit → Keyword
  | .years => .years
  | .months => .months
  | .weeks => .weeks
  | .days => .days

theorem DateUnit.unit?_keyword (u : DateUnit) : u.keyword.unit? = some u := by
  cases u <;> rfl

/-- What a token is. -/
inductive TokenKind where
  /-- A name: a key, a bare value, an element type, or the word `with`. -/
  | ident (s : String)
  /-- A quoted text, its escapes resolved. -/
  | str (s : String)
  /-- A number, as it is written. -/
  | number (s : String)
  /-- A date, as it is written. -/
  | date (s : String)
  | eq
  | ne
  /-- The tilde. -/
  | tilde
  /-- The exclamation mark and the tilde. -/
  | bangTilde
  | lt
  | le
  | gt
  | ge
  /-- The exclamation mark. -/
  | bang
  | minus
  | leftParen
  | rightParen
  | comma
  | keyword (k : Keyword)
  /-- The end of the text. -/
  | eof
deriving DecidableEq, Repr

/-- A token with the byte offset that it starts at. -/
structure Token where
  kind : TokenKind
  pos : Nat
deriving DecidableEq, Repr

/-- How messages name a token. -/
def TokenKind.shown : TokenKind → String
  | .ident s => "identifier '" ++ s ++ "'"
  | .str s => "string " ++ Quoted.quoted s
  | .number s => "number " ++ s
  | .date s => "date " ++ s
  | .eq => "'='"
  | .ne => "'!='"
  | .tilde => "'~'"
  | .bangTilde => "'!~'"
  | .lt => "'<'"
  | .le => "'<='"
  | .gt => "'>'"
  | .ge => "'>='"
  | .bang => "'!'"
  | .minus => "'-'"
  | .leftParen => "'('"
  | .rightParen => "')'"
  | .comma => "','"
  | .keyword k => "keyword '" ++ k.text ++ "'"
  | .eof => "end of input"

end SurveyQuests
