import SurveyQuests.Number.Binary64

/-!
# Decimal text of numbers

A number is written as an optional sign, digits with an optional point among or beside them, and
an optional exponent; or as one of the words for infinity and for not a number, in any case.
`Binary64.read?` reads such a text and gives the nearest binary number, so a text reads as exactly
one number however many digits it has.

## What is here

* `Decimal` — a whole number of units of some power of ten, with a sign;
* `Decimal.read?` — the decimal that a text of digits, point and exponent stands for;
* `Binary64.ofDecimal` — the nearest binary number;
* `Binary64.read?` — both, and the words.
-/

set_option autoImplicit false

namespace SurveyQuests

/-- The decimal number `± digits · 10 ^ exponent`. -/
structure Decimal where
  negative : Bool
  digits : Nat
  exponent : Int
deriving DecidableEq, Repr

namespace Decimal

/-- The value of a decimal digit. -/
def digitValue (c : Char) : Nat := c.toNat - '0'.toNat

/-- The number that a run of digits stands for, most significant digit first. -/
def ofDigits (ds : List Char) : Nat := ds.foldl (fun n c ↦ 10 * n + digitValue c) 0

/-- Takes a sign from the front of a text; the flag tells whether it was a minus. -/
def splitSign : List Char → Bool × List Char
  | '-' :: rest => (true, rest)
  | '+' :: rest => (false, rest)
  | cs => (false, cs)

/-- Splits a text after the digits at its front. -/
def splitDigits (cs : List Char) : List Char × List Char :=
  (cs.takeWhile Char.isDigit, cs.dropWhile Char.isDigit)

/-- Reads the end of a number: nothing, or the letter `e`, an optional sign and digits. -/
def readExponent? : List Char → Option Int
  | [] => some 0
  | c :: rest =>
    if c = 'e' ∨ c = 'E' then
      let (negative, cs) := splitSign rest
      match splitDigits cs with
      | ([], _) => none
      | (ds, []) => some (if negative then -(ofDigits ds : Int) else ofDigits ds)
      | (_, _ :: _) => none
    else none

/-- Reads a number without its sign: digits, at least one of them, with an optional point before,
among or after them, then an optional exponent. -/
def readUnsigned? (negative : Bool) (cs : List Char) : Option Decimal :=
  let (whole, afterWhole) := splitDigits cs
  let (part, rest) :=
    match afterWhole with
    | '.' :: afterPoint => splitDigits afterPoint
    | _ => ([], afterWhole)
  if whole.isEmpty && part.isEmpty then none
  else (readExponent? rest).map fun e ↦
    ⟨negative, ofDigits (whole ++ part), e - (part.length : Int)⟩

/-- Reads an optional sign, digits with an optional point, and an optional exponent. -/
def read? (cs : List Char) : Option Decimal :=
  let (negative, rest) := splitSign cs
  readUnsigned? negative rest

end Decimal

namespace Binary64

/-- The binary number nearest to a decimal one.  Exponents that leave no doubt about the result
are decided first, so that no power of ten grows beyond what the digits call for. -/
def ofDecimal (d : Decimal) : Binary64 :=
  if d.digits = 0 then ⟨d.negative, .ofRank 0⟩
  else if 400 < d.exponent then ⟨d.negative, .infinite⟩
  else if d.exponent + 401 + (Nat.log2 d.digits : Int) < 0 then ⟨d.negative, .ofRank 0⟩
  else if 0 ≤ d.exponent then ofRatio d.negative (d.digits * Nat.pow 10 d.exponent.toNat) 1
  else ofRatio d.negative d.digits (Nat.pow 10 (-d.exponent).toNat)

/-- Reads one of the words for infinity and for not a number, in upper, lower or mixed case. -/
def readWord? (negative : Bool) (cs : List Char) : Option Binary64 :=
  let word := String.ofList (cs.map Char.toLower)
  if word = "inf" ∨ word = "infinity" then some ⟨negative, .infinite⟩
  else if word = "nan" then some ⟨negative, .nan⟩
  else none

/-- Reads the text of a number: an optional sign, then a word or digits with an optional point and
exponent. -/
def read? (cs : List Char) : Option Binary64 :=
  let (negative, rest) := Decimal.splitSign cs
  match readWord? negative rest with
  | some x => some x
  | none => (Decimal.readUnsigned? negative rest).map ofDecimal

end Binary64

end SurveyQuests
