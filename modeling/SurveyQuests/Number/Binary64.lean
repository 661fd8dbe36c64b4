/-!
# Binary numbers of double width

The numbers of filters are the binary floating-point numbers of 64 bits: a sign, and a magnitude
that is finite, infinite, or not a number.  The finite magnitudes are numbered in ascending order,
zero first, and a magnitude is stored as its *rank* in this order.  The rank is also what the 63
bits after the sign hold, so the order of magnitudes is the order of ranks, and reading a number's
bits needs no arithmetic.

Every finite magnitude is a whole number of *units*, a unit being the smallest positive one,
2 ^ -1074.  All arithmetic is exact arithmetic on units followed by one rounding,
`Binary64.nearestRank`: to the nearest magnitude, and from halfway between two to the one whose
rank is even.

## What is here

* `Binary64` and the magnitudes, `Binary64.units` and `Binary64.nearestRank`;
* `Binary64.ofRatio` — a quotient of naturals, rounded;
* `Binary64.neg`, `Binary64.abs`, `Binary64.sub`, `Binary64.mul` — arithmetic;
* `Binary64.lt`, `Binary64.le`, `Binary64.eq` — comparison, in which a NaN compares with nothing
  and the two zeros are equal;
* `Binary64.trunc`, `Binary64.fract`, `Binary64.round` — whole part, rest, and nearest integer;
* `Binary64.toBits` — the 64 bits.
-/

set_option autoImplicit false

namespace SurveyQuests

namespace Binary64

/-- The number of finite magnitudes, which is also the rank of infinity. -/
def finiteCount : Nat := 0x7ff0000000000000

/-- A magnitude: the rank of a finite one, infinity, or not a number. -/
inductive Magnitude where
  | finite (rank : Fin finiteCount)
  | infinite
  | nan
deriving DecidableEq, Repr

end Binary64

/-- A binary floating-point number of 64 bits. -/
structure Binary64 where
  /-- Is the sign bit set? -/
  negative : Bool
  magnitude : Binary64.Magnitude
deriving DecidableEq, Repr

namespace Binary64

/-! ## Ranks and units -/

/-- How many doublings of the unit separate neighbours at a rank: none among the 2 ^ 53 smallest
magnitudes, and one more after every further 2 ^ 52 of them. -/
def shift (rank : Nat) : Nat := rank / Nat.pow 2 52 - 1

/-- The whole number that, doubled `shift` times, is the magnitude in units. -/
def significand (rank : Nat) : Nat := rank - shift rank * Nat.pow 2 52

/-- The magnitude of a rank, in units of 2 ^ -1074. -/
def units (rank : Nat) : Nat := significand rank * Nat.pow 2 (shift rank)

/-- One, in units. -/
def unitsPerOne : Nat := Nat.pow 2 1074

/-- The quotient rounded to the nearest whole number, and from halfway to the even one. -/
def roundHalfEven (num den : Nat) : Nat :=
  let q := num / den
  let r := num % den
  if 2 * r < den then q else if den < 2 * r then q + 1 else q + q % 2

/-- The quotient rounded to the nearest whole number, and from halfway to the larger one. -/
def roundHalfUp (num den : Nat) : Nat := (2 * num + den) / (2 * den)

/-- The rank of the magnitude nearest to `num / den` units.  From `finiteCount` on the result
stands for infinity. -/
def nearestRank (num den : Nat) : Nat :=
  let s := Nat.log2 (num / den) - 52
  s * Nat.pow 2 52 + roundHalfEven num (den * Nat.pow 2 s)

/-- The magnitude of a rank, infinity from `finiteCount` on. -/
def Magnitude.ofRank (rank : Nat) : Magnitude :=
  if h : rank < finiteCount then .finite ⟨rank, h⟩ else .infinite

/-- The number nearest to the given count of units, as a quotient. -/
def ofUnits (negative : Bool) (num den : Nat) : Binary64 :=
  ⟨negative, .ofRank (nearestRank num den)⟩

/-- The number nearest to a quotient. -/
def ofRatio (negative : Bool) (num den : Nat) : Binary64 :=
  ofUnits negative (num * unitsPerOne) den

/-- Zero without a sign. -/
def zero : Binary64 := ⟨false, .ofRank 0⟩

instance : Inhabited Binary64 := ⟨zero⟩

/-- Not a number, without a sign. -/
def nan : Binary64 := ⟨false, .nan⟩

/-- The magnitude in units, if it is finite. -/
def units? (x : Binary64) : Option Nat :=
  match x.magnitude with
  | .finite rank => some (units rank)
  | .infinite | .nan => none

/-- Is the number neither infinite nor a NaN? -/
def isFinite (x : Binary64) : Bool :=
  match x.magnitude with
  | .finite _ => true
  | .infinite | .nan => false

/-! ## Arithmetic -/

/-- The number with the other sign. -/
def neg (x : Binary64) : Binary64 := { x with negative := !x.negative }

/-- The number without its sign. -/
def abs (x : Binary64) : Binary64 := { x with negative := false }

/-- The number nearest to an integral count of units.  A zero gets the sign that is given. -/
def ofSignedUnits (zeroSign : Bool) (n : Int) : Binary64 :=
  if n = 0 then ⟨zeroSign, .ofRank 0⟩ else ofUnits (decide (n < 0)) n.natAbs 1

/-- A count of units with a sign. -/
def signedUnits (negative : Bool) (units : Nat) : Int :=
  if negative then -(units : Int) else units

/-- The difference, rounded. -/
def sub (x y : Binary64) : Binary64 :=
  match x.magnitude, y.magnitude with
  | .nan, _ | _, .nan => nan
  | .infinite, .infinite => if x.negative = y.negative then nan else x
  | .infinite, .finite _ => x
  | .finite _, .infinite => y.neg
  | .finite a, .finite b =>
    ofSignedUnits (x.negative && !y.negative)
      (signedUnits x.negative (units a) - signedUnits y.negative (units b))

/-- The product, rounded. -/
def mul (x y : Binary64) : Binary64 :=
  let negative := x.negative != y.negative
  match x.magnitude, y.magnitude with
  | .nan, _ | _, .nan => nan
  | .infinite, .infinite => ⟨negative, .infinite⟩
  | .infinite, .finite r | .finite r, .infinite =>
    if r.val = 0 then nan else ⟨negative, .infinite⟩
  | .finite a, .finite b => ofUnits negative (units a * units b) unitsPerOne

/-! ## Comparison -/

/-- The place of a number in the order of all numbers; a NaN has none, and the two zeros share
theirs. -/
def place? (x : Binary64) : Option Int :=
  match x.magnitude with
  | .finite rank => some (signedUnits x.negative rank)
  | .infinite => some (signedUnits x.negative finiteCount)
  | .nan => none

/-- Do both numbers have a place, and do the places compare as asked? -/
def compareBy (test : Int → Int → Bool) (x y : Binary64) : Bool :=
  match x.place?, y.place? with
  | some a, some b => test a b
  | _, _ => false

/-- Less than. -/
def lt (x y : Binary64) : Bool := compareBy (fun a b ↦ decide (a < b)) x y

/-- Less than or equal. -/
def le (x y : Binary64) : Bool := compareBy (fun a b ↦ decide (a ≤ b)) x y

/-- Equal as numbers: the two zeros are, and a NaN is not even equal to itself. -/
def eq (x y : Binary64) : Bool := compareBy (fun a b ↦ decide (a = b)) x y

/-! ## Whole numbers -/

/-- The integer part, toward zero; none for an infinite number or a NaN. -/
def trunc (x : Binary64) : Option Int :=
  x.units?.map fun u ↦ signedUnits x.negative (u / unitsPerOne)

/-- What is left of a finite number without its integer part; the other numbers leave a NaN. -/
def fract (x : Binary64) : Binary64 :=
  match x.units? with
  | some u => ofSignedUnits false (signedUnits x.negative (u % unitsPerOne))
  | none => nan

/-- The nearest integer, from halfway the one farther from zero; none for an infinite number or a
NaN. -/
def round (x : Binary64) : Option Int :=
  x.units?.map fun u ↦ signedUnits x.negative (roundHalfUp u unitsPerOne)

/-! ## Bits -/

/-- The 63 bits after the sign. -/
def Magnitude.bits : Magnitude → Nat
  | .finite rank => rank
  | .infinite => finiteCount
  | .nan => 0x7ff8000000000000

/-- The 64 bits, as a number. -/
def toBits (x : Binary64) : Nat := (if x.negative then Nat.pow 2 63 else 0) + x.magnitude.bits

end Binary64

end SurveyQuests
