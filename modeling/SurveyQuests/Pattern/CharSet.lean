import SurveyQuests.Unicode.CaseFolding
import SurveyQuests.Unicode.GeneralCategory
import SurveyQuests.Unicode.BinaryProperty
import SurveyQuests.Unicode.Character

/-!
# Sets of characters in patterns

What stands for one character of a text in a pattern is a set of characters: a table, or a set
made from other sets.  A `CharSet` keeps the way it was made, and `CharSet.contains` decides
membership by following it, so that what a set means can be read off its construction.

## What is here

* `CharSet` and `CharSet.contains`;
* the classes with a name of their own: `CharSet.digit`, `CharSet.space`, `CharSet.word`, and the
  ASCII classes.
-/

set_option autoImplicit false

namespace SurveyQuests

/-- A set of code points, with the way it is made. -/
inductive CharSet where
  /-- The code points of a table. -/
  | table (s : CodeSet)
  | union (a b : CharSet)
  | inter (a b : CharSet)
  /-- What is in the first set and not in the second. -/
  | diff (a b : CharSet)
  /-- What is in exactly one of the sets. -/
  | symmDiff (a b : CharSet)
  | compl (a : CharSet)
  /-- What differs from a member in case only. -/
  | fold (a : CharSet)
  /-- What differs from a member in case only, among ASCII letters. -/
  | foldAscii (a : CharSet)
deriving Inhabited

namespace CharSet

/-- The ASCII letter of the other case; any other code point stays as it is. -/
def swapAsciiCase (n : Nat) : Nat :=
  if 0x41 ≤ n ∧ n ≤ 0x5a then n + 0x20
  else if 0x61 ≤ n ∧ n ≤ 0x7a then n - 0x20
  else n

/-- Is the code point in the set? -/
def contains : CharSet → Nat → Bool
  | table s, n => s.contains n
  | union a b, n => a.contains n || b.contains n
  | inter a b, n => a.contains n && b.contains n
  | diff a b, n => a.contains n && !b.contains n
  | symmDiff a b, n => a.contains n != b.contains n
  | compl a, n => !a.contains n
  | fold a, n => (CaseFolding.classOf n).any fun m ↦ a.contains m
  | foldAscii a, n => a.contains n || a.contains (swapAsciiCase n)

/-! ## Sets with a name -/

/-- No code point. -/
def empty : CharSet := .table ⟨[]⟩

/-- A single code point. -/
def single (n : Nat) : CharSet := .table ⟨[(n, n)]⟩

/-- The code points from the first to the last. -/
def range (first last : Nat) : CharSet := .table ⟨[(first, last)]⟩

/-- Every code point of a character. -/
def all : CharSet := .table GeneralCategory.any

/-- Decimal digits of all scripts. -/
def digit : CharSet := .table GeneralCategory.decimalNumber

/-- White space of all scripts. -/
def space : CharSet := .table BinaryProperty.whiteSpace

/-- The table of what words are made of: letters and what is used like them, marks, decimal
digits, connectors, and the two characters that control joining. -/
def wordTable : CodeSet :=
  .unions [BinaryProperty.alphabetic, GeneralCategory.nonspacingMark, GeneralCategory.spacingMark,
    GeneralCategory.enclosingMark, GeneralCategory.decimalNumber,
    GeneralCategory.connectorPunctuation, ⟨[(0x200c, 0x200d)]⟩]

/-- What words are made of. -/
def word : CharSet := .table wordTable

/-- The ranges of an ASCII class, by its name. -/
def asciiRanges? (name : String) : Option (List (Nat × Nat)) :=
  [("alnum", [(0x30, 0x39), (0x41, 0x5a), (0x61, 0x7a)]),
    ("alpha", [(0x41, 0x5a), (0x61, 0x7a)]),
    ("ascii", [(0, 0x7f)]),
    ("blank", [(0x9, 0x9), (0x20, 0x20)]),
    ("cntrl", [(0, 0x1f), (0x7f, 0x7f)]),
    ("digit", [(0x30, 0x39)]),
    ("graph", [(0x21, 0x7e)]),
    ("lower", [(0x61, 0x7a)]),
    ("print", [(0x20, 0x7e)]),
    ("punct", [(0x21, 0x2f), (0x3a, 0x40), (0x5b, 0x60), (0x7b, 0x7e)]),
    ("space", [(0x9, 0xd), (0x20, 0x20)]),
    ("upper", [(0x41, 0x5a)]),
    ("word", [(0x30, 0x39), (0x41, 0x5a), (0x5f, 0x5f), (0x61, 0x7a)]),
    ("xdigit", [(0x30, 0x39), (0x41, 0x46), (0x61, 0x66)])].lookup name

/-- ASCII digits. -/
def asciiDigit : CharSet := .table ⟨[(0x30, 0x39)]⟩

/-- ASCII white space. -/
def asciiSpace : CharSet := .table ⟨[(0x9, 0xd), (0x20, 0x20)]⟩

/-- What words are made of, in ASCII. -/
def asciiWord : CharSet := .table ⟨[(0x30, 0x39), (0x41, 0x5a), (0x5f, 0x5f), (0x61, 0x7a)]⟩

/-! ## Sets within ASCII -/

/-- Does the set hold none of the upper half of the bytes? -/
def withinAscii (s : CharSet) : Bool :=
  (List.range 128).all fun k ↦ !s.contains (128 + k)

/-- The ASCII members of a set. -/
def asciiPart (s : CharSet) : CharSet := .inter s (range 0 0x7f)

end CharSet

end SurveyQuests
