import SurveyQuests.Unicode.BinaryProperty
import SurveyQuests.Unicode.GeneralCategory
import SurveyQuests.Unicode.Latest

/-!
# Classes of characters

The classes that reading and writing filters rest on.  ASCII characters are classified by
comparison, so that nothing about them depends on a table; the other characters are looked up, in
the tables and in what the latest version adds to them.

## What is here

* `Character.isAlphabetic`, `Character.isNumeric`, `Character.isAlphanumeric` — letters and
  numerals of all scripts;
* `Character.isSpace` and `Character.trim` — white space of all scripts, and a text without the
  white space around it;
* `Character.isPrintable`, `Character.isExtending` — what a quoted text shows as it is.
-/

set_option autoImplicit false

namespace SurveyQuests.Character

/-! ## Letters and numerals -/

/-- The letters and what is used like them. -/
def letters : CodeSet := BinaryProperty.alphabetic.union Latest.letters

/-- Is the character a letter, or used like one? -/
def isAlphabetic (c : Char) : Bool :=
  if c.toNat < 0x80 then c.isAlpha else letters.contains c.toNat

/-- The numerals: decimal digits, letters that are numerals, and the rest. -/
def numerals : CodeSet :=
  .unions [GeneralCategory.decimalNumber, GeneralCategory.letterNumber,
    GeneralCategory.otherNumber, Latest.numerals]

/-- Is the character a numeral of any kind? -/
def isNumeric (c : Char) : Bool :=
  if c.toNat < 0x80 then c.isDigit else numerals.contains c.toNat

/-- Is the character a letter or a numeral? -/
def isAlphanumeric (c : Char) : Bool := isAlphabetic c || isNumeric c

theorem toNat_of_isAlpha {c : Char} (h : c.isAlpha = true) : 65 ≤ c.toNat ∧ c.toNat ≤ 122 := by
  have hcase : c.isUpper = true ∨ c.isLower = true := Bool.or_eq_true_iff.1 h
  rcases hcase with hupper | hlower
  · have hrange : 'A'.val ≤ c.val ∧ c.val ≤ 'Z'.val := of_decide_eq_true hupper
    rw [UInt32.le_iff_toNat_le, UInt32.le_iff_toNat_le] at hrange
    have hA : 'A'.val.toNat = 65 := rfl
    have hZ : 'Z'.val.toNat = 90 := rfl
    simp only [Char.toNat]
    omega
  · have hrange := Bool.and_eq_true_iff.1 (show (decide ('a'.val ≤ c.val) && _) = true from hlower)
    rw [decide_eq_true_eq, decide_eq_true_eq, UInt32.le_iff_toNat_le, UInt32.le_iff_toNat_le]
      at hrange
    have ha : 'a'.val.toNat = 97 := rfl
    have hz : 'z'.val.toNat = 122 := rfl
    simp only [Char.toNat]
    omega

theorem toNat_of_isDigit {c : Char} (h : c.isDigit = true) : 48 ≤ c.toNat ∧ c.toNat ≤ 57 := by
  simp only [Char.isDigit, Bool.and_eq_true, decide_eq_true_eq, UInt32.le_iff_toNat_le] at h
  have h0 : '0'.val.toNat = 48 := rfl
  have h9 : '9'.val.toNat = 57 := rfl
  simp only [Char.toNat]
  omega

theorem isNumeric_of_isDigit {c : Char} (h : c.isDigit = true) : isNumeric c = true := by
  have hlt : c.toNat < 0x80 := by
    have := toNat_of_isDigit h
    omega
  simp [isNumeric, hlt, h]

/-! ## White space -/

/-- White space: tab to carriage return, the blank, the next-line character, and the spaces and
separators beyond ASCII. -/
def spaces : CodeSet :=
  ⟨[(0x9, 0xd), (0x20, 0x20), (0x85, 0x85), (0xa0, 0xa0), (0x1680, 0x1680), (0x2000, 0x200a),
    (0x2028, 0x2029), (0x202f, 0x202f), (0x205f, 0x205f), (0x3000, 0x3000)]⟩

/-- Is the character white space? -/
def isSpace (c : Char) : Bool := spaces.contains c.toNat

/-- The text without the white space at its two ends. -/
def trim (cs : List Char) : List Char :=
  ((cs.dropWhile isSpace).reverse.dropWhile isSpace).reverse

/-! ## What a quoted text shows as it is -/

/-- The characters that show nothing of their own, by the tables. -/
def unprintable : CodeSet :=
  .unions [GeneralCategory.control, GeneralCategory.format, GeneralCategory.privateUse,
    GeneralCategory.unassigned, GeneralCategory.lineSeparator, GeneralCategory.paragraphSeparator,
    GeneralCategory.spaceSeparator]

/-- Does the character show as itself?  The blank does, the other separators do not; all that the
latest version adds does. -/
def isPrintable (c : Char) : Bool :=
  if c.toNat < 0x80 then decide (0x20 ≤ c.toNat) && decide (c.toNat < 0x7f)
  else !unprintable.contains c.toNat || Latest.characters.contains c.toNat

/-- Does the character extend the one before it, as a combining mark does? -/
def isExtending (c : Char) : Bool :=
  if c.toNat < 0x80 then false
  else BinaryProperty.graphemeExtend.contains c.toNat || Latest.extending.contains c.toNat

end SurveyQuests.Character
