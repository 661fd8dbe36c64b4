import SurveyQuests.Unicode.Character

/-!
# Texts as messages quote them

A message that names a text puts it between double quotes and writes what would not show, or would
not show as it is, as an escape: the quote and the backslash, the control characters, every other
character that shows nothing of its own, and every mark that would combine with the character
before it.

`Quoted.quoted` is the quoted form of a text.
-/

set_option autoImplicit false

namespace SurveyQuests.Quoted

/-- The escape that names a character by its code point: the digits are hexadecimal and in lower
case, as few as there can be. -/
def codePointEscape (c : Char) : List Char :=
  ['\\', 'u', '\x7b'] ++ Nat.toDigits 16 c.toNat ++ ['\x7d']

/-- One character as it stands in a quoted text. -/
def quotedChar (c : Char) : List Char :=
  if c = '\x00' then ['\\', '0']
  else if c = '\t' then ['\\', 't']
  else if c = '\r' then ['\\', 'r']
  else if c = '\n' then ['\\', 'n']
  else if c = '\x22' then ['\\', '\x22']
  else if c = '\\' then ['\\', '\\']
  else if Character.isExtending c || !Character.isPrintable c then codePointEscape c
  else [c]

/-- A text in double quotes, with escapes for what would not show as it is. -/
def quoted (s : String) : String :=
  String.ofList ('\x22' :: s.toList.flatMap quotedChar ++ ['\x22'])

end SurveyQuests.Quoted
