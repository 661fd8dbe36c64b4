import SurveyQuests.Number.Decimal

/-!
# JSON values

A `Json` is a value as it is written: numbers keep their digits, objects keep their members in
order and with repetitions, and a text may be broken, which is to say that it holds half of a
surrogate pair and so stands for no sequence of characters.  What a reader of values makes of
repetitions, broken texts and huge numbers is up to it.

## What is here

* `Json.Numeral` — a number as it is written, `Numeral.integer?`, `Numeral.word?`
  and `Numeral.inRange`;
* `Json`, and `Json.nesting` — how deep arrays and objects lie in each other;
* `Json.isSound` — no broken texts and no numbers out of range, at any depth;
* `Json.field?` — the member of an object with a name.
-/

set_option autoImplicit false

namespace SurveyQuests

/-- The exponent of a number as it is written. -/
structure Json.Exponent where
  negative : Bool
  digits : List Char
deriving DecidableEq, Repr

/-- A number as it is written. -/
structure Json.Numeral where
  negative : Bool
  /-- The digits before the point. -/
  whole : List Char
  /-- The digits after the point; none if there is no point. -/
  fraction : List Char := []
  exponent : Option Json.Exponent := none
deriving DecidableEq, Repr

/-- A JSON value. -/
inductive Json where
  | null
  | bool (b : Bool)
  | number (n : Json.Numeral)
  /-- A text; nothing if it is broken. -/
  | string (s : Option String)
  | array (items : List Json)
  /-- Names and values in the order in which they are written. -/
  | object (members : List (Option String × Json))

namespace Json

instance : Inhabited Json := ⟨.null⟩

/-! ## Numbers -/

namespace Numeral

/-- The number of an integer. -/
def ofInt (n : Int) : Numeral := ⟨decide (n < 0), Nat.toDigits 10 n.natAbs, [], none⟩

/-- The integer that a number stands for, if it is written with neither point nor exponent.  Minus
zero stands for none. -/
def integer? (n : Numeral) : Option Int :=
  if n.fraction.isEmpty && n.exponent.isNone then
    let size := Decimal.ofDigits n.whole
    if n.negative then if size = 0 then none else some (-size) else some size
  else none

/-- The integer of at most 64 bits that a number stands for. -/
def word? (n : Numeral) : Option Int := do
  let value ← n.integer?
  if -(Nat.pow 2 63 : Int) ≤ value ∧ value < (Nat.pow 2 63 : Int) then some value else none

/-- The most that a significand holds; digits beyond it do not count. -/
def maxSignificand : Nat := Nat.pow 2 64 - 1

/-- The greatest exponent that is told from others. -/
def maxExponent : Nat := Nat.pow 2 31 - 1

/-- Takes digits into a significand as long as it holds them: the significand and how many digits
were taken. -/
def takeSignificand (significand taken : Nat) : List Char → Nat × Nat
  | [] => (significand, taken)
  | c :: rest =>
    let next := 10 * significand + Decimal.digitValue c
    if next ≤ maxSignificand then takeSignificand next (taken + 1) rest else (significand, taken)

/-- Significand and power of ten of a number without its exponent.  Digits before the point that the
significand does not hold still count as places, the ones after it are dropped. -/
def scaled (n : Numeral) : Nat × Int :=
  let (whole, taken) := takeSignificand 0 0 n.whole
  let dropped : Int := (n.whole.length : Int) - taken
  let (significand, places) := takeSignificand whole 0 n.fraction
  (significand, dropped - places)

/-- Is the number within the range of binary floating point?  The significand is rounded first, and
so is the power of ten that it is multiplied by. -/
def inRange (n : Numeral) : Bool :=
  let (significand, power) := n.scaled
  let fits (e : Int) : Bool :=
    significand == 0 || decide (e < 0) ||
      (decide (e ≤ 308) &&
        ((Binary64.ofRatio false significand 1).mul
          (.ofRatio false (Nat.pow 10 e.toNat) 1)).isFinite)
  match n.exponent with
  | none => fits power
  | some ⟨negative, digits⟩ =>
    let size := Decimal.ofDigits digits
    if maxExponent < size then significand == 0 || negative
    else fits (power + if negative then -(size : Int) else size)

/-- The text of a number. -/
def chars (n : Numeral) : List Char :=
  (if n.negative then ['-'] else []) ++ n.whole ++
    (if n.fraction.isEmpty then [] else '.' :: n.fraction) ++
    match n.exponent with
    | none => []
    | some e => 'e' :: (if e.negative then ['-'] else []) ++ e.digits

end Numeral

/-! ## Shape -/

mutual

/-- How many arrays and objects lie in each other at most. -/
def nesting : Json → Nat
  | .null | .bool _ | .number _ | .string _ => 0
  | .array items => 1 + nestingOfItems items
  | .object members => 1 + nestingOfMembers members

/-- The deepest nesting of a list of values. -/
def nestingOfItems : List Json → Nat
  | [] => 0
  | v :: vs => max v.nesting (nestingOfItems vs)

/-- The deepest nesting of the values of members. -/
def nestingOfMembers : List (Option String × Json) → Nat
  | [] => 0
  | (_, v) :: ms => max v.nesting (nestingOfMembers ms)

end

mutual

/-- Does the value hold no broken text and no number out of range? -/
def isSound : Json → Bool
  | .null | .bool _ => true
  | .number n => n.inRange
  | .string s => s.isSome
  | .array items => itemsAreSound items
  | .object members => membersAreSound members

/-- Are all values of a list sound? -/
def itemsAreSound : List Json → Bool
  | [] => true
  | v :: vs => v.isSound && itemsAreSound vs

/-- Are all names and values of members sound? -/
def membersAreSound : List (Option String × Json) → Bool
  | [] => true
  | (name, v) :: ms => name.isSome && v.isSound && membersAreSound ms

end

/-! ## Making and taking apart -/

/-- A text that is not broken. -/
def text (s : String) : Json := .string (some s)

/-- An integer. -/
def ofInt (n : Int) : Json := .number (.ofInt n)

/-- An object whose names are not broken. -/
def record (members : List (String × Json)) : Json :=
  .object (members.map fun (name, v) ↦ (some name, v))

/-- The values of the members with a name. -/
def fields (name : String) (members : List (Option String × Json)) : List Json :=
  members.filterMap fun (key, v) ↦ if key = some name then some v else none

/-- The last member of an object with a name. -/
def field? (name : String) : Json → Option Json
  | .object members => (fields name members).getLast?
  | _ => none

/-- A text that is not broken. -/
def text? : Json → Option String
  | .string s => s
  | _ => none

/-- The items of an array. -/
def items? : Json → Option (List Json)
  | .array items => some items
  | _ => none

/-- An array of texts. -/
def texts? (v : Json) : Option (List String) := v.items?.bind (·.mapM text?)

end Json

end SurveyQuests
