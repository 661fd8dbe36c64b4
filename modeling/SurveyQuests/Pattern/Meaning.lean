import SurveyQuests.Pattern.Expr
import SurveyQuests.Pattern.Regex
import SurveyQuests.Pattern.TextBreak
import SurveyQuests.Unicode.Age
import SurveyQuests.Unicode.Script

/-!
# What written patterns mean

`Expr.regex?` turns a pattern as it is written into a regular expression.  The flags in force decide
what a letter, a class or an assertion stands for; a change of flags holds to the end of the group
that it stands in.  Without the flag for all scripts a pattern may only speak of ASCII, and a
pattern that could match half of a character is refused, as is a property that does not exist.
-/

set_option autoImplicit false

namespace SurveyQuests.Pattern

/-- The flags in force. -/
structure Flags where
  ignoreCase : Bool
  multiLine : Bool
  dotAll : Bool
  unicode : Bool
  crlf : Bool
deriving DecidableEq, Repr

/-- The flags at the start of a pattern. -/
def Flags.start : Flags := ⟨false, false, false, true, false⟩

/-- The flags after a change. -/
def Flags.change (f : Flags) (c : FlagChange) : Flags :=
  ⟨c.apply .ignoreCase f.ignoreCase, c.apply .multiLine f.multiLine, c.apply .dotAll f.dotAll,
    c.apply .unicode f.unicode, c.apply .crlf f.crlf⟩

/-! ## Properties -/

/-- A name as names are compared: without a leading `is`, in lower case, and without blanks,
dashes, low lines and anything beyond ASCII.  The `is` of a name that has nothing but `c` after it
is kept. -/
def looseName (s : String) : String :=
  let (hasIs, cs) := match s.toList with
    | i :: s :: rest =>
      if i.toLower = 'i' ∧ s.toLower = 's' then (true, rest) else (false, i :: s :: rest)
    | cs => (false, cs)
  let kept := cs.filter fun c ↦ c != ' ' && c != '_' && c != '-' && decide (c.toNat < 0x80)
  let name := String.ofList (kept.map Char.toLower)
  if hasIs && name == "c" then "isc" else name

/-- The characters with a property that is given by one name: a property that characters have or
lack, a general category, or a script, in this order. -/
def propertyAlone? (name : String) : Option CodeSet :=
  let asCategory := fun (_ : Unit) ↦ match GeneralCategory.find? name with
    | some s => some s
    | none => Script.find? name
  -- These three name a general category, although they also abbreviate other properties.
  if name = "cf" ∨ name = "sc" ∨ name = "lc" then asCategory ()
  else match BinaryProperty.find? name with
    | some s => some s
    | none => asCategory ()

/-- The characters for which a property has a value. -/
def propertyWithValue? (name value : String) : Option CharSet :=
  if name = "gc" ∨ name = "generalcategory" then
    (GeneralCategory.find? value).map .table
  else if name = "sc" ∨ name = "script" then (Script.find? value).map .table
  else if name = "scx" ∨ name = "scriptextensions" then (Script.findExtended? value).map .table
  else if name = "age" then (Age.find? value).map .table
  else if name = "gcb" ∨ name = "graphemeclusterbreak" then TextBreak.cluster? value
  else if name = "wb" ∨ name = "wordbreak" then TextBreak.word? value
  else if name = "sb" ∨ name = "sentencebreak" then TextBreak.sentence? value
  else none

/-- The set of a named property. -/
def PropertyName.set? : PropertyName → Option CharSet
  | .alone name => (propertyAlone? (looseName name)).map .table
  | .withValue name value => propertyWithValue? (looseName name) (looseName value)

/-! ## Classes -/

/-- A class with case folding if the flag asks for it, and negated if it is written so. -/
def foldAndNegate (f : Flags) (negated : Bool) (s : CharSet) : CharSet :=
  let folded := if f.ignoreCase then (if f.unicode then .fold s else .foldAscii s) else s
  if negated then .compl folded else folded

/-- The same, refused where it speaks of bytes beyond ASCII. -/
def foldAndNegate? (f : Flags) (negated : Bool) (s : CharSet) : Option CharSet :=
  let s := foldAndNegate f negated s
  if f.unicode || s.withinAscii then some s else none

/-- The set of a class with a letter of its own. -/
def LetterClass.set (kind : LetterClass) (unicode : Bool) : CharSet :=
  match kind, unicode with
  | .digit, true => .digit
  | .digit, false => .asciiDigit
  | .space, true => .space
  | .space, false => .asciiSpace
  | .word, true => .word
  | .word, false => .asciiWord

/-- The set of a named class. -/
def NamedClass.set? (f : Flags) : NamedClass → Option CharSet
  | .letter kind negated =>
    if f.unicode then
      some (if negated then .compl (kind.set true) else kind.set true)
    else if negated then none else some (kind.set false)
  | .ascii name negated => do
    let ranges ← CharSet.asciiRanges? name
    foldAndNegate? f negated (.table ⟨ranges⟩)
  | .property name negated =>
    if f.unicode then do
      let s ← name.set?
      some (foldAndNegate f negated s)
    else none

/-- The code point that a literal stands for in a class. -/
def Literal.point? (f : Flags) (l : Literal) : Option Nat :=
  if f.unicode || decide (l.char.toNat < 0x80) then some l.char.toNat else none

/-- The set of two sets under an operation; case folding comes first. -/
def SetOp.set (f : Flags) (kind : SetOp) (a b : CharSet) : CharSet :=
  let a := foldAndNegate f false a
  let b := foldAndNegate f false b
  match kind with
  | .intersection => .inter a b
  | .difference => .diff a b
  | .symmetricDifference => .symmDiff a b

/-- The set of what stands between the brackets of a class. -/
def SetExpr.set? (f : Flags) : SetExpr → Option CharSet
  | .empty => some .empty
  | .literal l => (l.point? f).map CharSet.single
  | .range a b => do
    let first ← a.point? f
    let last ← b.point? f
    some (.range first last)
  | .named c => c.set? f
  | .bracketed negated inner => do
    let s ← inner.set? f
    foldAndNegate? f negated s
  | .union a b => do
    let s ← a.set? f
    let t ← b.set? f
    some (.union s t)
  | .op kind a b => do
    let s ← a.set? f
    let t ← b.set? f
    some (kind.set f s t)

/-- A set as an expression.  Without the flag for all scripts its members are bytes, of which only
ASCII ones are characters. -/
def setRegex (f : Flags) (s : CharSet) : Regex :=
  .set (if f.unicode then s else s.asciiPart)

/-! ## Expressions -/

/-- What a literal stands for.  An escape for a byte beyond ASCII is refused without the flag for
all scripts. -/
def Literal.regex? (f : Flags) (l : Literal) : Option Regex :=
  let n := l.char.toNat
  if !f.unicode && l.byteForm && decide (0x80 ≤ n) then none
  else if f.ignoreCase then
    some (.set (if f.unicode then .table (.ofPoints (CaseFolding.classOf n))
      else .table (.ofPoints [n, CharSet.swapAsciiCase n])))
  else some (.set (.single n))

/-- What the dot stands for: any character but the one that ends a line, or any character at all.
It is refused without the flag for all scripts. -/
def dotRegex? (f : Flags) : Option Regex :=
  if !f.unicode then none
  else some <| .set <|
    if f.dotAll then .all
    else if f.crlf then .diff .all (.table (.ofPoints [0xa, 0xd]))
    else .diff .all (.single 0xa)

/-- What an assertion asks for. -/
def Assertion.look (f : Flags) : Assertion → Look
  | .lineStart => if f.multiLine then .lineStart f.crlf else .textStart
  | .lineEnd => if f.multiLine then .lineEnd f.crlf else .textEnd
  | .textStart => .textStart
  | .textEnd => .textEnd
  | .wordBoundary => .word .boundary f.unicode
  | .notWordBoundary => .word .inside f.unicode
  | .wordStart => .word .start f.unicode
  | .wordEnd => .word .stop f.unicode
  | .wordStartHalf => .word .startHalf f.unicode
  | .wordEndHalf => .word .stopHalf f.unicode

/-- The regular expression of a pattern under given flags, and the flags after it. -/
def Expr.regexUnder? (f : Flags) : Expr → Option (Regex × Flags)
  | .empty => some (.empty, f)
  | .literal l => (l.regex? f).map fun e ↦ (e, f)
  | .dot => (dotRegex? f).map fun e ↦ (e, f)
  | .assertion a => some (.look (a.look f), f)
  | .named c => (c.set? f).map fun s ↦ (setRegex f s, f)
  | .bracketed negated inner => do
    let s ← inner.set? f
    let s ← foldAndNegate? f negated s
    some (setRegex f s, f)
  | .flags c => some (.empty, f.change c)
  | .repeated e min max => do
    let (r, _) ← e.regexUnder? f
    some (.rep r min max, f)
  | .group none e => do
    let (r, _) ← e.regexUnder? f
    some (r, f)
  | .group (some c) e => do
    let (r, _) ← e.regexUnder? (f.change c)
    some (r, f)
  | .seq a b => do
    let (r, f) ← a.regexUnder? f
    let (s, f) ← b.regexUnder? f
    some (.seq r s, f)
  | .alt a b => do
    let (r, f) ← a.regexUnder? f
    let (s, f) ← b.regexUnder? f
    some (.alt r s, f)

/-- **The regular expression of a pattern**, if it has a meaning. -/
def Expr.regex? (e : Expr) : Option Regex := (e.regexUnder? Flags.start).map Prod.fst

end SurveyQuests.Pattern
