import SurveyQuests.Number.Decimal

/-!
# The shortest decimal of a number

Among the decimals that read back as a given finite number, `Binary64.shortest` chooses one with
the fewest digits, and among those the nearest.  It walks through the decimal grids of 1, 2, … 17
digits.  If any point of a grid reads back, then one of the number's two neighbours on that grid
does, so it is enough to try these two.  Where both read back and are equally near, the larger one
is taken.

`Binary64.plainText` writes the digits out with as many zeros as the exponent calls for and never
with an exponent.
-/

set_option autoImplicit false

namespace SurveyQuests.Binary64

/-- A decimal magnitude, `digits · 10 ^ exponent`. -/
structure DecimalMagnitude where
  digits : Nat
  exponent : Int
deriving DecidableEq, Repr

/-- The same magnitude without zeros at the end of its digits. -/
def DecimalMagnitude.trimmed (d : DecimalMagnitude) : DecimalMagnitude :=
  if h : d.digits ≠ 0 ∧ d.digits % 10 = 0 then
    DecimalMagnitude.trimmed ⟨d.digits / 10, d.exponent + 1⟩
  else d
termination_by d.digits
decreasing_by omega

/-- Does the decimal read back as the number of this rank? -/
def readsBack (rank : Nat) (d : DecimalMagnitude) : Bool :=
  ofDecimal ⟨false, d.digits, d.exponent⟩ == ⟨false, .ofRank rank⟩

/-- The value of a rank as a quotient over `10 ^ exponent`: numerator and denominator of the
number of grid steps. -/
def gridSteps (rank : Nat) (exponent : Int) : Nat × Nat :=
  if 0 ≤ exponent then (units rank, unitsPerOne * Nat.pow 10 exponent.toNat)
  else (units rank * Nat.pow 10 (-exponent).toNat, unitsPerOne)

/-- The better of the two neighbours of a number on a decimal grid, if one of them reads back. -/
def bestOnGrid? (rank : Nat) (exponent : Int) : Option DecimalMagnitude :=
  let (num, den) := gridSteps rank exponent
  let below := num / den
  let low : DecimalMagnitude := ⟨below, exponent⟩
  let high : DecimalMagnitude := ⟨below + 1, exponent⟩
  match readsBack rank low, readsBack rank high with
  | true, true => if 2 * (num % den) < den then some low else some high
  | true, false => some low
  | false, true => some high
  | false, false => none

/-- The exponent of the power of ten just above a number: `10 ^ (p - 1) ≤ value < 10 ^ p`. -/
def decimalPlace (rank : Nat) : Int :=
  ((Nat.toDigits 10 (units rank * Nat.pow 10 324 / unitsPerOne)).length : Int) - 324

/-- All digits of a number: a unit is a whole number of steps of 10 ^ -1074. -/
def allDigits (rank : Nat) : DecimalMagnitude := ⟨units rank * Nat.pow 5 1074, -1074⟩

/-- The decimal with the fewest digits that reads back as the number of this rank, the nearest if
there are several. -/
def shortest (rank : Nat) : DecimalMagnitude :=
  let p := decimalPlace rank
  (((List.range 17).findSome? fun (n : Nat) ↦ bestOnGrid? rank (p - (n + 1 : Nat))).getD
    (allDigits rank)).trimmed

/-! ## Plain text -/

/-- Digits written out around their point. -/
def plainDigits (d : DecimalMagnitude) : List Char :=
  let ds := Nat.toDigits 10 d.digits
  if 0 ≤ d.exponent then ds ++ List.replicate d.exponent.toNat '0'
  else
    let places := (-d.exponent).toNat
    if places < ds.length then
      ds.take (ds.length - places) ++ '.' :: ds.drop (ds.length - places)
    else ['0', '.'] ++ List.replicate (places - ds.length) '0' ++ ds

/-- The text of a magnitude: the shortest digits, written out, and no point in a whole number. -/
def Magnitude.plainText : Magnitude → List Char
  | .finite rank => if rank.val = 0 then ['0'] else plainDigits (shortest rank)
  | .infinite => ['i', 'n', 'f']
  | .nan => ['N', 'a', 'N']

/-- The text of a number.  Zero keeps its sign, a NaN shows none. -/
def plainText (x : Binary64) : String :=
  String.ofList <|
    if x.negative && x.magnitude != .nan then '-' :: x.magnitude.plainText
    else x.magnitude.plainText

end SurveyQuests.Binary64
