import SurveyQuests.Json.Basic

/-!
# Writing JSON

`Json.compact` writes a value on one line and without white space.  In a text the quote, the
backslash and the control characters below the space are escaped, the ones with a letter of their
own by that letter; all other characters stand for themselves.  So no text is written over several
lines.
-/

set_option autoImplicit false

namespace SurveyQuests.Json

/-- The four hexadecimal digits of an escape by number, in lower case. -/
def hexDigits4 (n : Nat) : List Char :=
  [Nat.digitChar (n / 4096 % 16), Nat.digitChar (n / 256 % 16), Nat.digitChar (n / 16 % 16),
    Nat.digitChar (n % 16)]

/-- A character inside a text. -/
def escapedChar (c : Char) : List Char :=
  if c = '\x22' then ['\\', '\x22']
  else if c = '\\' then ['\\', '\\']
  else if c = '\x08' then ['\\', 'b']
  else if c = '\x0c' then ['\\', 'f']
  else if c = '\n' then ['\\', 'n']
  else if c = '\r' then ['\\', 'r']
  else if c = '\t' then ['\\', 't']
  else if c.toNat < 0x20 then '\\' :: 'u' :: hexDigits4 c.toNat
  else [c]

/-- A text between its quotes. -/
def quotedText (cs : List Char) : List Char := '\x22' :: cs.flatMap escapedChar ++ ['\x22']

/-- A text, which is broken if there is none; a broken text is written as the replacement
character. -/
def quotedString (s : Option String) : List Char :=
  match s with
  | some s => quotedText s.toList
  | none => quotedText ['\ufffd']

mutual

/-- The characters of a value. -/
def compactChars : Json → List Char
  | .null => ['n', 'u', 'l', 'l']
  | .bool true => ['t', 'r', 'u', 'e']
  | .bool false => ['f', 'a', 'l', 's', 'e']
  | .number n => n.chars
  | .string s => quotedString s
  | .array items => '[' :: compactItems items ++ [']']
  | .object members => '\x7b' :: compactMembers members ++ ['\x7d']

/-- The items of an array with commas between them. -/
def compactItems : List Json → List Char
  | [] => []
  | [v] => compactChars v
  | v :: w :: vs => compactChars v ++ ',' :: compactItems (w :: vs)

/-- The members of an object with commas between them. -/
def compactMembers : List (Option String × Json) → List Char
  | [] => []
  | [(name, v)] => quotedString name ++ ':' :: compactChars v
  | (name, v) :: m :: ms =>
    quotedString name ++ ':' :: compactChars v ++ ',' :: compactMembers (m :: ms)

end

/-- **The text of a value on one line.** -/
def compact (v : Json) : String := String.ofList v.compactChars

end SurveyQuests.Json
