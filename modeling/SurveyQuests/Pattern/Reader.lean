import SurveyQuests.Pattern.Expr
import SurveyQuests.Pattern.CharSet

/-!
# Reading patterns

`Expr.read?` reads the source of a pattern.  It fails where a group, a class or a repetition is not
closed or has nothing to apply to, on an escape that has no meaning, on look-around and on
back-references, and where groups and classes are nested more than 250 levels deep.

Two readers are recursive, the one of classes and the one of sequences of parts.  Every call takes
at least one character, so the length of the source is enough fuel.
-/

set_option autoImplicit false

namespace SurveyQuests.Pattern

/-! ## Characters -/

/-- Skips what does not count under the flag for extended patterns: white space, and comments from
`#` to the end of the line. -/
def skipExtended : (inComment : Bool) → List Char → List Char
  | _, [] => []
  | true, c :: cs => skipExtended (c != '\n') cs
  | false, c :: cs =>
    if Character.isSpace c then skipExtended false cs
    else if c = '#' then skipExtended true cs
    else c :: cs

/-- What is left after what does not count. -/
def skip (extended : Bool) (cs : List Char) : List Char :=
  if extended then skipExtended false cs else cs

/-- White space that does not count in any pattern, as between the braces of a repetition. -/
def skipBlanks (extended : Bool) (cs : List Char) : List Char :=
  if extended then skipExtended false cs else cs.dropWhile Character.isSpace

/-- The value of a hexadecimal digit. -/
def hexValue? (c : Char) : Option Nat :=
  if '0' ≤ c ∧ c ≤ '9' then some (c.toNat - '0'.toNat)
  else if 'a' ≤ c ∧ c ≤ 'f' then some (c.toNat - 'a'.toNat + 10)
  else if 'A' ≤ c ∧ c ≤ 'F' then some (c.toNat - 'A'.toNat + 10)
  else none

/-- The character of a code point. -/
def charOf? (n : Nat) : Option Char :=
  if n.isValidChar then some (Char.ofNat n) else none

/-- The characters with a meaning of their own. -/
def isMeta (c : Char) : Bool := "\\.+*?()|[]\x7b\x7d^$#&-~".toList.contains c

/-- May the character be escaped to stand for itself?  Letters and digits may not, nor may the
angle brackets, since such escapes have or may get a meaning; outside ASCII none may. -/
def isEscapable (c : Char) : Bool :=
  isMeta c || (decide (c.toNat < 0x80) && !c.isAlphanum && c != '<' && c != '>')

/-! ## Escapes -/

/-- Reads exactly so many hexadecimal digits. -/
def readHexDigits? (extended : Bool) : Nat → Nat → List Char → Option (Nat × List Char)
  | 0, value, cs => some (value, cs)
  | _ + 1, _, [] => none
  | left + 1, value, c :: cs => do
    let d ← hexValue? c
    readHexDigits? extended left (value * 16 + d) (skip extended cs)

/-- Reads up to a closing brace, and leaves out what does not count. -/
def readBraced? (extended : Bool) : (fuel : Nat) → List Char → Option (List Char × List Char)
  | 0, _ => none
  | fuel + 1, cs =>
    match skip extended cs with
    | [] => none
    | c :: rest =>
      if c = '\x7d' then some ([], rest)
      else (readBraced? extended fuel rest).map fun (inner, after) ↦ (c :: inner, after)

/-- Reads the code point of an escape: `count` digits, or any number of them in braces. -/
def readCodePoint? (extended : Bool) (count : Nat) (cs : List Char) :
    Option (Literal × List Char) :=
  match skip extended cs with
  | [] => none
  | c :: rest =>
    if c = '\x7b' then do
      let (inner, after) ← readBraced? extended (rest.length + 1) rest
      let digits ← inner.mapM hexValue?
      if digits.isEmpty then none
      let char ← charOf? (digits.foldl (fun n d ↦ n * 16 + d) 0)
      some (⟨char, false⟩, skip extended after)
    else do
      let (value, after) ← readHexDigits? extended count 0 (c :: rest)
      let char ← charOf? value
      some (⟨char, count == 2⟩, after)

/-- Splits a text at the first occurrence of a character. -/
def splitAtFirst? (sep : Char) (cs : List Char) : Option (List Char × List Char) :=
  match cs.dropWhile (· != sep) with
  | [] => none
  | _ :: after => some (cs.takeWhile (· != sep), after)

/-- Splits a text at the first `!=` in it. -/
def splitAtDiffers? : List Char → Option (List Char × List Char)
  | [] => none
  | '!' :: '=' :: after => some ([], after)
  | c :: cs => (splitAtDiffers? cs).map fun (before, after) ↦ (c :: before, after)

/-- The name of a property as it stands between braces.  A value may follow `!=`, `:` or `=`, looked
for in this order; all three ask for the characters with that value. -/
def propertyName (cs : List Char) : PropertyName :=
  match splitAtDiffers? cs with
  | some (name, value) => .withValue (.ofList name) (.ofList value)
  | none =>
    match splitAtFirst? ':' cs with
    | some (name, value) => .withValue (.ofList name) (.ofList value)
    | none =>
      match splitAtFirst? '=' cs with
      | some (name, value) => .withValue (.ofList name) (.ofList value)
      | none => .alone (.ofList cs)

/-- Reads the name of a property: one letter, or a name in braces. -/
def readProperty? (extended : Bool) (cs : List Char) : Option (PropertyName × List Char) :=
  match skip extended cs with
  | [] => none
  | c :: rest =>
    if c = '\x7b' then do
      let (inner, after) ← readBraced? extended (rest.length + 1) rest
      some (propertyName inner, after)
    else if c = '\\' then none
    else some (.alone (String.ofList [c]), skip extended rest)

/-- Is the character one of the names of word assertions? -/
def isAssertionLetter (c : Char) : Bool := c.isAlpha || c == '-'

/-- Reads the letters of the name of a word assertion. -/
def readAssertionName (extended : Bool) : (fuel : Nat) → List Char → List Char × List Char
  | 0, cs => ([], cs)
  | _ + 1, [] => ([], [])
  | fuel + 1, c :: cs =>
    if isAssertionLetter c then
      let (name, after) := readAssertionName extended fuel (skip extended cs)
      (c :: name, after)
    else ([], c :: cs)

/-- The word assertion with a name. -/
def wordAssertion? (name : List Char) : Option Assertion :=
  [("start", .wordStart), ("end", .wordEnd), ("start-half", .wordStartHalf),
    ("end-half", Assertion.wordEndHalf)].lookup (String.ofList name)

/-- Reads what follows the escape of a word boundary: a name in braces makes it a special one,
while braces that do not start with a letter belong to a repetition. -/
def readWordBoundary? (extended : Bool) (cs : List Char) : Option (Assertion × List Char) :=
  match cs with
  | '\x7b' :: rest =>
    match skip extended rest with
    | [] => none
    | c :: after =>
      if isAssertionLetter c then
        let (name, after) := readAssertionName extended (after.length + 2) (c :: after)
        match after with
        | '\x7d' :: after => (wordAssertion? name).map fun a ↦ (a, after)
        | _ => none
      else some (.wordBoundary, cs)
  | _ => some (.wordBoundary, cs)

/-- The control characters that an escape with a letter names. -/
def controlEscape? (c : Char) : Option Char :=
  [('a', '\x07'), ('f', '\x0c'), ('t', '\t'), ('n', '\n'), ('r', '\r'), ('v', '\x0b')].lookup c

/-- The classes that an escape with a letter names. -/
def letterClass? (c : Char) : Option NamedClass :=
  [('d', .letter .digit false), ('D', .letter .digit true), ('s', .letter .space false),
    ('S', .letter .space true), ('w', .letter .word false),
    ('W', NamedClass.letter .word true)].lookup c

/-- The assertions that an escape with one character names. -/
def assertionEscape? (c : Char) : Option Assertion :=
  [('A', .textStart), ('z', .textEnd), ('B', .notWordBoundary), ('<', .wordStart),
    ('>', Assertion.wordEnd)].lookup c

/-- Reads an escape, the backslash being read already. -/
def readEscape? (extended : Bool) : List Char → Option (Expr × List Char)
  | [] => none
  | c :: cs =>
    if c = 'x' ∨ c = 'u' ∨ c = 'U' then
      (readCodePoint? extended (if c = 'x' then 2 else if c = 'u' then 4 else 8) cs).map
        fun (l, after) ↦ (.literal l, after)
    else if c = 'p' ∨ c = 'P' then
      (readProperty? extended cs).map fun (name, after) ↦
        (.named (.property name (c == 'P')), after)
    else if c = 'b' then
      (readWordBoundary? extended cs).map fun (a, after) ↦ (.assertion a, after)
    else match letterClass? c with
      | some k => some (.named k, cs)
      | none =>
        if isEscapable c then some (.literal ⟨c, false⟩, cs)
        else match controlEscape? c with
          | some d => some (.literal ⟨d, false⟩, cs)
          | none => (assertionEscape? c).map fun a ↦ (.assertion a, cs)

/-! ## Classes in brackets -/

/-- Reads the name of an ASCII class, `[:name:]` or `[:^name:]`, the bracket being read already. -/
def readAsciiClass? (cs : List Char) : Option (NamedClass × List Char) :=
  match cs with
  | ':' :: rest =>
    let (negated, rest) := match rest with
      | '^' :: after => (true, after)
      | _ => (false, rest)
    match rest.dropWhile (· != ':') with
    | ':' :: ']' :: after =>
      let name := String.ofList (rest.takeWhile (· != ':'))
      if (CharSet.asciiRanges? name).isSome then some (.ascii name negated, after) else none
    | _ => none
  | _ => none

/-- The first character of a text that counts, a `#` and what stands before it being passed over;
the very first character if there is none. -/
def peekExtended (original : List Char) : (inComment : Bool) → List Char → Option Char
  | _, [] => original.head?
  | inComment, c :: cs =>
    if Character.isSpace c then peekExtended original inComment cs
    else if !inComment && c == '#' then peekExtended original true cs
    else some c

/-- The character that decides whether a dash makes a range. -/
def peek (extended : Bool) (cs : List Char) : Option Char :=
  if extended then peekExtended cs false cs else cs.head?

/-- Reads one item of a class: an escape, or a character for itself. -/
def readSetItem? (extended : Bool) : List Char → Option (Expr × List Char)
  | [] => none
  | '\\' :: cs => readEscape? extended cs
  | c :: cs => some (.literal ⟨c, false⟩, cs)

/-- An item as a set; assertions are none. -/
def itemSet? : Expr → Option SetExpr
  | .literal l => some (.literal l)
  | .named c => some (.named c)
  | _ => none

/-- Reads an item or a range of a class. -/
def readSetRange? (extended : Bool) (cs : List Char) : Option (SetExpr × List Char) := do
  let (first, after) ← readSetItem? extended cs
  match skip extended after with
  | [] => none
  | '-' :: rest =>
    let next := peek extended rest
    if next = some ']' ∨ next = some '-' then
      let set ← itemSet? first
      some (set, '-' :: rest)
    else
      let (last, after) ← readSetItem? extended (skip extended rest)
      match first, last with
      | .literal a, .literal b =>
        if a.char.toNat ≤ b.char.toNat then some (.range a b, after) else none
      | _, _ => none
  | rest =>
    let set ← itemSet? first
    some (set, rest)

/-- The operation that two characters stand for, if the text starts with one. -/
def splitSetOp? : List Char → Option (SetOp × List Char)
  | '&' :: '&' :: cs => some (.intersection, cs)
  | '-' :: '-' :: cs => some (.difference, cs)
  | '~' :: '~' :: cs => some (.symmetricDifference, cs)
  | _ => none

/-- The set of the items read last, joined with what stands before their operation. -/
def joinItems (pending : Option (SetOp × SetExpr)) (items : List SetExpr) : SetExpr :=
  match pending with
  | none => .ofItems items.reverse
  | some (op, before) => .op op before (.ofItems items.reverse)

/-- Reads the dashes that may start a class and stand for themselves. -/
def readDashes (extended : Bool) : (fuel : Nat) → List SetExpr → List Char →
    List SetExpr × List Char
  | 0, items, cs => (items, cs)
  | fuel + 1, items, cs =>
    match cs with
    | '-' :: rest => readDashes extended fuel (.literal ⟨'-', false⟩ :: items) (skip extended rest)
    | _ => (items, cs)

/-- Reads what opens a class: a mark of negation, dashes, and a closing bracket that comes first
and stands for itself. -/
def readSetOpen? (extended : Bool) (cs : List Char) : Option (Bool × List SetExpr × List Char) :=
  let cs := skip extended cs
  let (negated, cs) := match cs with
    | '^' :: rest => (true, skip extended rest)
    | _ => (false, cs)
  let (items, cs) := readDashes extended cs.length [] cs
  match items, cs with
  | [], ']' :: rest => some (negated, [.literal ⟨']', false⟩], skip extended rest)
  | _, [] => none
  | _, _ => some (negated, items, cs)

mutual

/-- Reads a class, its opening bracket being read already. -/
def readClass? (extended : Bool) : (fuel : Nat) → List Char → Option (Bool × SetExpr × List Char)
  | 0, _ => none
  | fuel + 1, cs => do
    let (negated, items, cs) ← readSetOpen? extended cs
    let (set, cs) ← readItems? extended fuel none items cs
    some (negated, set, cs)

/-- Reads the items of a class up to its closing bracket. -/
def readItems? (extended : Bool) : (fuel : Nat) → Option (SetOp × SetExpr) → List SetExpr →
    List Char → Option (SetExpr × List Char)
  | 0, _, _, _ => none
  | fuel + 1, pending, items, cs =>
    let cs := skip extended cs
    match splitSetOp? cs with
    | some (op, rest) => readItems? extended fuel (some (op, joinItems pending items)) [] rest
    | none =>
      match cs with
      | [] => none
      | ']' :: rest => some (joinItems pending items, rest)
      | '[' :: rest =>
        match readAsciiClass? rest with
        | some (c, rest) => readItems? extended fuel pending (.named c :: items) rest
        | none => do
          let (negated, inner, rest) ← readClass? extended fuel rest
          readItems? extended fuel pending (.bracketed negated inner :: items) rest
      | cs => do
        let (item, rest) ← readSetRange? extended cs
        readItems? extended fuel pending (item :: items) rest

end

/-! ## Repetition -/

/-- Reads digits, between which nothing counts that does not count elsewhere. -/
def readDigits (extended : Bool) : (fuel : Nat) → List Char → List Char × List Char
  | 0, cs => ([], cs)
  | _ + 1, [] => ([], [])
  | fuel + 1, c :: cs =>
    if c.isDigit then
      let (ds, after) := readDigits extended fuel (skip extended cs)
      (c :: ds, after)
    else ([], c :: cs)

/-- Reads a count; none if there are no digits.  A count that does not fit 32 bits is refused. -/
def readCount? (extended : Bool) (cs : List Char) : Option (Option Nat × List Char) :=
  let cs := cs.dropWhile Character.isSpace
  let (ds, after) := readDigits extended cs.length cs
  let after := skipBlanks extended after
  if ds.isEmpty then some (none, after)
  else
    let n := ds.foldl (fun n c ↦ 10 * n + (c.toNat - '0'.toNat)) 0
    if n < Nat.pow 2 32 then some (some n, after) else none

/-- Passes over the mark of a reluctant repetition. -/
def skipReluctant : List Char → List Char
  | '?' :: cs => cs
  | cs => cs

/-- Reads the bounds of a repetition, the opening brace being read already. -/
def readBounds? (extended : Bool) (cs : List Char) :
    Option (Nat × Option Nat × List Char) := do
  let (first, rest) ← readCount? extended (skip extended cs)
  let least ← first
  match rest with
  | '\x7d' :: after => some (least, some least, skipReluctant (skip extended after))
  | ',' :: rest =>
    match skip extended rest with
    | '\x7d' :: after => some (least, none, skipReluctant (skip extended after))
    | rest =>
      let (second, rest) ← readCount? extended rest
      let most ← second
      match rest with
      | '\x7d' :: after =>
        if least ≤ most then some (least, some most, skipReluctant (skip extended after)) else none
      | _ => none
  | _ => none

/-- What a repetition applies to: the part before it, unless that only sets flags. -/
def repeatLast? (parts : List Expr) (min : Nat) (max : Option Nat) : Option (List Expr) :=
  match parts with
  | [] | .flags _ :: _ | .empty :: _ => none
  | e :: before => some (.repeated e min max :: before)

/-! ## Groups -/

/-- Reads flags up to the colon or parenthesis that ends them, which is not read. -/
def readFlags? : (negated : Bool) → FlagChange → List Char → Option (FlagChange × List Char)
  | _, _, [] => none
  | negated, f, c :: cs =>
    if c = ':' ∨ c = ')' then
      if negated && f.off.isEmpty then none else some (f, c :: cs)
    else if c = '-' then
      if negated then none else readFlags? true f cs
    else do
      let flag ← Flag.ofLetter? c
      if f.on.contains flag || f.off.contains flag then none
      else if negated then readFlags? true { f with off := flag :: f.off } cs
      else readFlags? false { f with on := flag :: f.on } cs

/-- May the character stand in the name of a group? -/
def isNameChar (first : Bool) (c : Char) : Bool :=
  c == '_' || Character.isAlphabetic c ||
    (!first && (Character.isNumeric c || c == '.' || c == '[' || c == ']'))

/-- Reads the name of a group and the bracket that closes it. -/
def readName? (cs : List Char) : Option (String × List Char) :=
  match cs.dropWhile (· != '>') with
  | [] => none
  | _ :: after =>
    match cs.takeWhile (· != '>') with
    | [] => none
    | c :: name =>
      if isNameChar true c && name.all (isNameChar false) then
        some (String.ofList (c :: name), after)
      else none

/-- What an opening parenthesis starts. -/
inductive Opening where
  /-- Flags for the rest of the group that this stands in. -/
  | flags (f : FlagChange)
  /-- A group, with its flags and its name if it has any. -/
  | group (f : Option FlagChange) (name : Option String)

/-- Reads what follows an opening parenthesis. -/
def readOpening? (extended : Bool) (cs : List Char) : Option (Opening × List Char) :=
  match skip extended cs with
  | '?' :: '=' :: _ | '?' :: '!' :: _ | '?' :: '<' :: '=' :: _ | '?' :: '<' :: '!' :: _ => none
  | '?' :: 'P' :: '<' :: rest | '?' :: '<' :: rest =>
    (readName? rest).map fun (name, after) ↦ (.group none (some name), after)
  | '?' :: rest => do
    let (f, rest) ← readFlags? false ⟨[], []⟩ rest
    match rest with
    | ')' :: after => if f.on.isEmpty && f.off.isEmpty then none else some (.flags f, after)
    | _ :: after => some (.group (some f) none, after)
    | [] => none
  | cs => some (.group none none, cs)

/-! ## Parts and branches -/

/-- What the reader of parts carries along: whether the pattern is extended here, the names of
groups so far, the branches that are complete and the parts of the current one, last ones first. -/
structure Progress where
  extended : Bool
  names : List String
  branches : List Expr
  parts : List Expr

/-- The expression of the branches and parts read. -/
def Progress.expr (p : Progress) : Expr :=
  .ofBranches (Expr.ofParts p.parts.reverse :: p.branches).reverse

/-- Adds a part to the current branch. -/
def Progress.push (p : Progress) (e : Expr) : Progress := { p with parts := e :: p.parts }

/-- Reads branches up to the end of the text or a closing parenthesis, which is not read. -/
def readBranches? : (fuel : Nat) → Progress → List Char → Option (Progress × List Char)
  | 0, _, _ => none
  | fuel + 1, p, cs =>
    match skip p.extended cs with
    | [] => some (p, [])
    | ')' :: rest => some (p, ')' :: rest)
    | '|' :: rest =>
      readBranches? fuel
        { p with branches := Expr.ofParts p.parts.reverse :: p.branches, parts := [] } rest
    | '(' :: rest => do
      match ← readOpening? p.extended rest with
      | (.flags f, rest) =>
        readBranches? fuel
          { p.push (.flags f) with extended := f.apply .extended p.extended } rest
      | (.group f name, rest) =>
        let extended := match f with
          | some f => f.apply .extended p.extended
          | none => p.extended
        let names ← match name with
          | some n => if p.names.contains n then none else some (n :: p.names)
          | none => some p.names
        let (inner, rest) ← readBranches? fuel ⟨extended, names, [], []⟩ rest
        match rest with
        | ')' :: rest =>
          readBranches? fuel { p.push (.group f inner.expr) with names := inner.names } rest
        | _ => none
    | '[' :: rest => do
      let (negated, set, rest) ← readClass? p.extended (rest.length + 1) rest
      readBranches? fuel (p.push (.bracketed negated set)) rest
    | '?' :: rest => do
      let parts ← repeatLast? p.parts 0 (some 1)
      readBranches? fuel { p with parts } (skipReluctant rest)
    | '*' :: rest => do
      let parts ← repeatLast? p.parts 0 none
      readBranches? fuel { p with parts } (skipReluctant rest)
    | '+' :: rest => do
      let parts ← repeatLast? p.parts 1 none
      readBranches? fuel { p with parts } (skipReluctant rest)
    | '\x7b' :: rest => do
      let (min, max, rest) ← readBounds? p.extended rest
      let parts ← repeatLast? p.parts min max
      readBranches? fuel { p with parts } rest
    | '\\' :: rest => do
      let (e, rest) ← readEscape? p.extended rest
      readBranches? fuel (p.push e) rest
    | '.' :: rest => readBranches? fuel (p.push .dot) rest
    | '^' :: rest => readBranches? fuel (p.push (.assertion .lineStart)) rest
    | '$' :: rest => readBranches? fuel (p.push (.assertion .lineEnd)) rest
    | c :: rest => readBranches? fuel (p.push (.literal ⟨c, false⟩)) rest

/-- How deep a pattern may be nested. -/
def nestingLimit : Nat := 250

/-- **Reads the source of a pattern.** -/
def Expr.read? (cs : List Char) : Option Expr := do
  let (p, rest) ← readBranches? (cs.length + 1) ⟨false, [], [], []⟩ cs
  if rest.isEmpty && decide (p.expr.nesting .none ≤ nestingLimit) then some p.expr else none

end SurveyQuests.Pattern
