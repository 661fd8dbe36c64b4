import SurveyQuests.Filter.Lexer

/-!
# Lines and columns

An error is found at a byte offset of a source.  For its reader the offset is turned into a line and
a column, both counted from 1; a column is a character.  An offset that is not the start of a
character, or lies behind the end, counts as the end of the source.
-/

set_option autoImplicit false

namespace SurveyQuests

/-- The characters of a text before a byte offset, if a character starts there or the text ends
there. -/
def charsBefore? (offset : Nat) : List Char → Option (List Char)
  | [] => if offset = 0 then some [] else none
  | c :: cs =>
    if offset = 0 then some []
    else if offset < c.utf8Size then none
    else (charsBefore? (offset - c.utf8Size) cs).map (c :: ·)

/-- A line and a column of a source, counted from 1. -/
structure Location where
  line : Nat
  column : Nat
deriving DecidableEq, Repr

namespace Location

/-- Where a text ends: one line for each line feed and the last one, one column for each character
of the last line and the next one. -/
def endOf (cs : List Char) : Location :=
  ⟨cs.count '\n' + 1, (cs.reverse.takeWhile (· != '\n')).length + 1⟩

/-- **The location of a byte offset in a source.** -/
def ofOffset (source : List Char) (offset : Nat) : Location :=
  endOf ((charsBefore? offset source).getD source)

end Location

end SurveyQuests
