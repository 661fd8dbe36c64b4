import SurveyQuests.Json.Basic

/-!
# Reading JSON

`Json.readValue?` reads one value from the front of a text and gives what follows it; `Json.read?`
reads a text that is one value.  The format is the strict one: no comments, no commas at the end, no
zeros in front of a number and no control characters inside a text.  The value keeps whatever the
format allows, see `Json`.

Arrays and objects may lie in each other, so the readers of values, items and members call each
other; they share a bound on the number of calls, which `Json.readValue?` sets to one that the text
cannot exhaust.
-/

set_option autoImplicit false

namespace SurveyQuests.Json

/-! ## White space -/

/-- The white space between values and marks. -/
def isSpace (c : Char) : Bool := c == ' ' || c == '\n' || c == '\t' || c == '\r'

/-- The text without the white space at its front. -/
def skipSpace (cs : List Char) : List Char := cs.dropWhile isSpace

/-! ## Texts -/

/-- The value of a hexadecimal digit. -/
def hexValue? (c : Char) : Option Nat :=
  if c.isDigit then some (c.toNat - '0'.toNat)
  else if 'a' ≤ c ∧ c ≤ 'f' then some (c.toNat - 'a'.toNat + 10)
  else if 'A' ≤ c ∧ c ≤ 'F' then some (c.toNat - 'A'.toNat + 10)
  else none

/-- The number that hexadecimal digits stand for. -/
def hex? (cs : List Char) : Option Nat :=
  cs.foldlM (fun n c ↦ (hexValue? c).map (16 * n + ·)) 0

/-- What an escaped character stands for, the escapes by number apart. -/
def unescape? : Char → Option Char
  | '\x22' => some '\x22'
  | '\\' => some '\\'
  | '/' => some '/'
  | 'b' => some '\x08'
  | 'f' => some '\x0c'
  | 'n' => some '\n'
  | 'r' => some '\r'
  | 't' => some '\t'
  | _ => none

/-- Reads a text after its opening quote, as code units: a character stands for itself, and an
escape by number for that number, even if it is only half of a surrogate pair. -/
def readUnits? : List Char → Option (List Nat × List Char)
  | [] => none
  | '\x22' :: rest => some ([], rest)
  | '\\' :: 'u' :: a :: b :: c :: d :: rest => do
    let unit ← hex? [a, b, c, d]
    let (units, rest) ← readUnits? rest
    some (unit :: units, rest)
  | '\\' :: e :: rest => do
    let c ← unescape? e
    let (units, rest) ← readUnits? rest
    some (c.toNat :: units, rest)
  | c :: rest =>
    if c.toNat < 0x20 then none
    else do
      let (units, rest) ← readUnits? rest
      some (c.toNat :: units, rest)

/-- Is the code unit the first half of a surrogate pair? -/
def isHighSurrogate (unit : Nat) : Bool := decide (0xd800 ≤ unit ∧ unit ≤ 0xdbff)

/-- Is the code unit the second half of a surrogate pair? -/
def isLowSurrogate (unit : Nat) : Bool := decide (0xdc00 ≤ unit ∧ unit ≤ 0xdfff)

/-- The characters that code units stand for, unless half of a pair is without its other half. -/
def characters? : List Nat → Option (List Char)
  | [] => some []
  | unit :: units =>
    if isLowSurrogate unit then none
    else if isHighSurrogate unit then
      match units with
      | low :: units =>
        if isLowSurrogate low then
          (characters? units).map
            (Char.ofNat (0x10000 + (unit - 0xd800) * 0x400 + (low - 0xdc00)) :: ·)
        else none
      | [] => none
    else (characters? units).map (Char.ofNat unit :: ·)

/-- Reads a text after its opening quote. -/
def readString? (cs : List Char) : Option (Option String × List Char) :=
  (readUnits? cs).map fun (units, rest) ↦ ((characters? units).map String.ofList, rest)

/-! ## Numbers -/

/-- Takes a minus sign from the front of a text if there is one. -/
def splitMinus : List Char → Bool × List Char
  | '-' :: rest => (true, rest)
  | cs => (false, cs)

/-- Reads the digits before the point: a zero alone, or digits that start with no zero. -/
def readWhole? (cs : List Char) : Option (List Char × List Char) :=
  match Decimal.splitDigits cs with
  | ([], _) => none
  | ('0' :: _ :: _, _) => none
  | (digits, rest) => some (digits, rest)

/-- Reads the point and the digits after it if there is a point. -/
def readFraction? : List Char → Option (List Char × List Char)
  | '.' :: rest =>
    match Decimal.splitDigits rest with
    | ([], _) => none
    | (digits, rest) => some (digits, rest)
  | cs => some ([], cs)

/-- Reads the exponent if there is one. -/
def readExponent? : List Char → Option (Option Exponent × List Char)
  | [] => some (none, [])
  | c :: rest =>
    if c = 'e' ∨ c = 'E' then
      let (negative, rest) := Decimal.splitSign rest
      match Decimal.splitDigits rest with
      | ([], _) => none
      | (digits, rest) => some (some ⟨negative, digits⟩, rest)
    else some (none, c :: rest)

/-- Reads a number. -/
def readNumeral? (cs : List Char) : Option (Numeral × List Char) := do
  let (negative, cs) := splitMinus cs
  let (whole, cs) ← readWhole? cs
  let (fraction, cs) ← readFraction? cs
  let (exponent, cs) ← readExponent? cs
  some (⟨negative, whole, fraction, exponent⟩, cs)

/-! ## Values -/

/-- Reads one of the three words. -/
def readWord? : List Char → Option (Json × List Char)
  | 'n' :: 'u' :: 'l' :: 'l' :: rest => some (.null, rest)
  | 't' :: 'r' :: 'u' :: 'e' :: rest => some (.bool true, rest)
  | 'f' :: 'a' :: 'l' :: 's' :: 'e' :: rest => some (.bool false, rest)
  | _ => none

mutual

/-- Reads a value, with at most so many nested calls. -/
def readValueWithin? : Nat → List Char → Option (Json × List Char)
  | 0, _ => none
  | calls + 1, cs =>
    match skipSpace cs with
    | '\x22' :: rest => (readString? rest).map fun (s, rest) ↦ (.string s, rest)
    | '[' :: rest =>
      match skipSpace rest with
      | ']' :: rest => some (.array [], rest)
      | rest => (readItemsWithin? calls rest).map fun (items, rest) ↦ (.array items, rest)
    | '\x7b' :: rest =>
      match skipSpace rest with
      | '\x7d' :: rest => some (.object [], rest)
      | rest => (readMembersWithin? calls rest).map fun (members, rest) ↦ (.object members, rest)
    | rest =>
      match readWord? rest with
      | some r => some r
      | none => (readNumeral? rest).map fun (n, rest) ↦ (.number n, rest)

/-- Reads the items of an array, at least one, and the closing bracket. -/
def readItemsWithin? : Nat → List Char → Option (List Json × List Char)
  | 0, _ => none
  | calls + 1, cs => do
    let (item, rest) ← readValueWithin? calls cs
    match skipSpace rest with
    | ',' :: rest =>
      let (items, rest) ← readItemsWithin? calls rest
      some (item :: items, rest)
    | ']' :: rest => some ([item], rest)
    | _ => none

/-- Reads the members of an object, at least one, and the closing brace. -/
def readMembersWithin? : Nat → List Char → Option (List (Option String × Json) × List Char)
  | 0, _ => none
  | calls + 1, cs =>
    match skipSpace cs with
    | '\x22' :: rest => do
      let (name, rest) ← readString? rest
      match skipSpace rest with
      | ':' :: rest =>
        let (value, rest) ← readValueWithin? calls rest
        match skipSpace rest with
        | ',' :: rest =>
          let (members, rest) ← readMembersWithin? calls rest
          some ((name, value) :: members, rest)
        | '\x7d' :: rest => some ([(name, value)], rest)
        | _ => none
      | _ => none
    | _ => none

end

/-- **Reads a value from the front of a text**, and gives the text after it.  Two calls at most go
by without taking a character. -/
def readValue? (cs : List Char) : Option (Json × List Char) :=
  readValueWithin? (2 * cs.length + 2) cs

/-- Reads a text that is one value, with white space around it. -/
def read? (text : String) : Option Json := do
  let (value, rest) ← readValue? text.toList
  if (skipSpace rest).isEmpty then some value else none

end SurveyQuests.Json
