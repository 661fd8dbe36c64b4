import SurveyQuests.Element.KindSet
import SurveyQuests.Filter.Lexer
import SurveyQuests.Filter.Basic
import SurveyQuests.Number.Shortest

/-!
# The text of a filter

`Filter.text` writes a filter in the language that filters are read from.  Keys, values and patterns
are written bare if they would be read back as they are, and quoted otherwise; an *and* or an *or*
inside another is put into parentheses.

Texts are put together as lists of characters, the form in which the lexer takes them.

## What is here

* `isBareLiteral`, `literalChars` — keys and values;
* `DateAnchor.chars`, `Condition.chars`, `Filter.chars` — conditions and filters.
-/

set_option autoImplicit false

namespace SurveyQuests

/-! ## Literals -/

/-- The words that mean something by themselves: keywords, element kinds and `with`. -/
def isReserved (s : String) : Bool :=
  (Keyword.ofText? s).isSome || (ElementKind.ofPlural? s).isSome || s == "with"

/-- Is the text digits, or digits and a point with digits after it? -/
def isPlainNumber (cs : List Char) : Bool :=
  let whole := cs.takeWhile (· != '.')
  let part :=
    match cs.dropWhile (· != '.') with
    | [] => ['0']
    | _ :: part => part
  !whole.isEmpty && whole.all Char.isDigit && !part.isEmpty && part.all Char.isDigit

/-- Is a text read back as it is without quotes? -/
def isBareLiteral (cs : List Char) : Bool :=
  match cs with
  | [] => false
  | c :: rest =>
    if isIdentStart c then rest.all isIdentChar && !isReserved (String.ofList cs)
    else isPlainNumber cs

/-- A character between quotes: the quote and the backslash with a backslash before them. -/
def literalChar (c : Char) : List Char :=
  if c = '\\' then ['\\', '\\'] else if c = '\x22' then ['\\', '\x22'] else [c]

/-- A key, a value or a pattern: bare where that will do, quoted otherwise. -/
def literalChars (s : String) : List Char :=
  let cs := s.toList
  if isBareLiteral cs then cs else '\x22' :: cs.flatMap literalChar ++ ['\x22']

/-! ## Conditions -/

/-- An anchor: no units before today is today, whatever the sign of the zero. -/
def DateAnchor.text : DateAnchor → String
  | .relative magnitude unit =>
    if unit = .days ∧ magnitude.eq .zero then "today"
    else "today -" ++ magnitude.plainText ++ " " ++ unit.keyword.text
  | .fixed d => d.text

/-- The keyword of a direction. -/
def Direction.keyword : Direction → Keyword
  | .older => .older
  | .newer => .newer

/-- Literals with commas between them. -/
def literalsChars : List String → List Char
  | [] => []
  | [s] => literalChars s
  | s :: t :: rest => literalChars s ++ [',', ' '] ++ literalsChars (t :: rest)

/-- The sign of a choice between a test and its negation. -/
def negatable (negated : Bool) (plain negation : String) : List Char :=
  (if negated then negation else plain).toList

/-- The text of a condition. -/
def Condition.chars : Condition → List Char
  | .hasKey key negated => negatable negated "" "!" ++ literalChars key
  | .keyMatches pattern negated => negatable negated "~" "!~" ++ literalChars pattern.source
  | .compares key op value =>
    literalChars key ++ ' ' :: op.text.toList ++ ' ' :: literalChars value
  | .valueMatches key pattern negated =>
    literalChars key ++ negatable negated " ~ " " !~ " ++ literalChars pattern.source
  | .oneOf key values negated =>
    literalChars key ++ negatable negated " = " " != " ++ literalsChars values
  | .numeric key op value =>
    literalChars key ++ ' ' :: op.text.toList ++ ' ' :: value.plainText.toList
  | .date target direction anchor =>
    (match target with
      | .element => []
      | .tag keys => literalChars keys.key ++ [' ']) ++
    direction.keyword.text.toList ++ ' ' :: anchor.text.toList

/-! ## Filters -/

namespace Filter

/-- Does the filter have parts of its own, so that it needs parentheses among others? -/
def isCompound : Filter → Bool
  | .all _ | .any _ => true
  | _ => false

/-- Is the filter the empty condition? -/
def isAlways : Filter → Bool
  | .always => true
  | _ => false

/-- Puts parentheses around a text if they are called for. -/
def parenthesized (needed : Bool) (cs : List Char) : List Char :=
  if needed then '(' :: cs ++ [')'] else cs

mutual

/-- The text of a filter. -/
def chars : Filter → List Char
  | .condition c => c.chars
  | .all fs => operandsChars " and ".toList fs
  | .any fs => operandsChars " or ".toList fs
  | .not f => "not ".toList ++ parenthesized (f.isCompound || f.isAlways) f.chars
  | .always => []

/-- The texts of filters with a separator between them. -/
def operandsChars (separator : List Char) : List Filter → List Char
  | [] => []
  | [f] => parenthesized f.isCompound f.chars
  | f :: g :: fs =>
    parenthesized f.isCompound f.chars ++ separator ++ operandsChars separator (g :: fs)

end

/-- **The text of a filter.** -/
def text (f : Filter) : String := String.ofList f.chars

end Filter

end SurveyQuests
