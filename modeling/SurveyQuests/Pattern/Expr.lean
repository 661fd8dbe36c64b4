/-!
# Written patterns

The tree of a pattern as it is written: literals, classes in brackets with their set operations,
groups, flags, repetitions.  What the tree means depends on the flags in force and is the matter of
`Pattern/Meaning.lean`.

The trees are binary: a sequence of several parts, a choice of several branches and a class of
several items are chains to the right.  `Expr.nesting` counts such a chain as one level.
-/

set_option autoImplicit false

namespace SurveyQuests.Pattern

/-- What a flag letter switches. -/
inductive Flag where
  /-- `i`: case does not count. -/
  | ignoreCase
  /-- `m`: the line assertions hold at every line. -/
  | multiLine
  /-- `s`: the dot also matches a line feed. -/
  | dotAll
  /-- `U`: which repetitions are greedy. -/
  | swapGreed
  /-- `u`: characters of all scripts. -/
  | unicode
  /-- `R`: a carriage return ends a line too. -/
  | crlf
  /-- `x`: blanks and comments in the pattern do not count. -/
  | extended
deriving DecidableEq, Repr

/-- The flag of a letter. -/
def Flag.ofLetter? (c : Char) : Option Flag :=
  [('i', .ignoreCase), ('m', .multiLine), ('s', .dotAll), ('U', .swapGreed), ('u', .unicode),
    ('R', .crlf), ('x', Flag.extended)].lookup c

/-- Flags that are switched on and flags that are switched off. -/
structure FlagChange where
  on : List Flag
  off : List Flag
deriving Repr

/-- What becomes of a flag. -/
def FlagChange.apply (f : FlagChange) (flag : Flag) (current : Bool) : Bool :=
  if f.on.contains flag then true else if f.off.contains flag then false else current

/-- A character of a pattern; `byteForm` tells whether it is written with `\x` and two digits. -/
structure Literal where
  char : Char
  byteForm : Bool
deriving DecidableEq, Repr

/-- The classes with a letter of their own. -/
inductive LetterClass where
  | digit
  | space
  | word
deriving DecidableEq, Repr

/-- How a property of characters is named. -/
inductive PropertyName where
  /-- A property, a general category or a script, by one name. -/
  | alone (name : String)
  /-- A value of a property. -/
  | withValue (name value : String)
deriving DecidableEq, Repr

/-- A class of characters with a name. -/
inductive NamedClass where
  | letter (kind : LetterClass) (negated : Bool)
  | ascii (name : String) (negated : Bool)
  | property (name : PropertyName) (negated : Bool)
deriving DecidableEq, Repr

/-- The operations between the sets of a class. -/
inductive SetOp where
  | intersection
  | difference
  | symmetricDifference
deriving DecidableEq, Repr

/-- What stands between the brackets of a class. -/
inductive SetExpr where
  | empty
  | literal (l : Literal)
  | range (first last : Literal)
  | named (c : NamedClass)
  /-- A class within the class. -/
  | bracketed (negated : Bool) (inner : SetExpr)
  /-- Items side by side. -/
  | union (a b : SetExpr)
  | op (kind : SetOp) (a b : SetExpr)
deriving Inhabited

/-- What an assertion is written as. -/
inductive Assertion where
  | lineStart
  | lineEnd
  | textStart
  | textEnd
  | wordBoundary
  | notWordBoundary
  | wordStart
  | wordEnd
  | wordStartHalf
  | wordEndHalf
deriving DecidableEq, Repr

/-- A pattern as it is written. -/
inductive Expr where
  | empty
  | literal (l : Literal)
  | dot
  | assertion (a : Assertion)
  | named (c : NamedClass)
  | bracketed (negated : Bool) (s : SetExpr)
  /-- Flags for what follows in the same group. -/
  | flags (f : FlagChange)
  | repeated (e : Expr) (min : Nat) (max : Option Nat)
  /-- A group, with flags that hold inside it if it has any. -/
  | group (f : Option FlagChange) (e : Expr)
  | seq (a b : Expr)
  | alt (a b : Expr)
deriving Inhabited

/-- Several items side by side. -/
def SetExpr.ofItems : List SetExpr → SetExpr
  | [] => .empty
  | [a] => a
  | a :: rest => .union a (ofItems rest)

/-- Several parts one after another. -/
def Expr.ofParts : List Expr → Expr
  | [] => .empty
  | [a] => a
  | a :: rest => .seq a (ofParts rest)

/-- Several branches. -/
def Expr.ofBranches : List Expr → Expr
  | [] => .empty
  | [a] => a
  | a :: rest => .alt a (ofBranches rest)

/-! ## Nesting -/

/-- How deep the classes of a class are nested; `inUnion` tells that the level of the surrounding
union is counted already. -/
def SetExpr.nesting (inUnion : Bool) : SetExpr → Nat
  | .empty | .literal _ | .range _ _ | .named _ => 0
  | .bracketed _ inner => 1 + inner.nesting false
  | .union a b =>
    (if inUnion then 0 else 1) + max (a.nesting false) (b.nesting true)
  | .op _ a b => 1 + max (a.nesting false) (b.nesting false)

/-- The chain that a level of nesting is already counted for. -/
inductive Chain where
  | none
  | seq
  | alt
deriving DecidableEq

/-- How deep groups, repetitions, sequences, choices and classes are nested. -/
def Expr.nesting (inside : Chain) : Expr → Nat
  | .empty | .literal _ | .dot | .assertion _ | .named _ | .flags _ => 0
  | .bracketed _ s => 1 + s.nesting false
  | .repeated e _ _ => 1 + e.nesting .none
  | .group _ e => 1 + e.nesting .none
  | .seq a b =>
    (if inside = .seq then 0 else 1) + max (a.nesting .none) (b.nesting .seq)
  | .alt a b =>
    (if inside = .alt then 0 else 1) + max (a.nesting .none) (b.nesting .alt)

end SurveyQuests.Pattern
