import SurveyQuests.Pattern.CharSet

/-!
# Regular expressions and what they match

A `Regex` is a regular expression as an expression over sets of characters: sequence, choice,
bounded and unbounded repetition, and assertions that look at the place in the text without taking
a character.  It matches between two places of a text; places are counted from zero, so a text of
`n` characters has `n + 1` of them.

`Regex.Matches` says when an expression matches from one place to another.  `Regex.reach` computes
the places that a match from any of the given places can end at.  Which of several matches would be
preferred plays no part: only whether there is one is ever asked.

## What is here

* `Regex`, `Look` — expressions and assertions;
* `Regex.Matches` — the meaning of an expression, as a relation;
* `Regex.reach` — the ends of the matches from given places, as a list;
* `Regex.search` — is there a match anywhere in a text?
-/

set_option autoImplicit false

namespace SurveyQuests

/-- The assertions about words.  A place has a word before it when the character before it is of a
word, and likewise after it. -/
inductive WordLook where
  /-- A word on exactly one side. -/
  | boundary
  /-- A word on both sides or on none. -/
  | inside
  | start
  | stop
  | startHalf
  | stopHalf
deriving DecidableEq, Repr

/-- What an assertion asks of a place. -/
inductive Look where
  | textStart
  | textEnd
  /-- The start of the text or of a line; with `crlf` a carriage return also ends lines, but not
  the one in front of a line feed. -/
  | lineStart (crlf : Bool)
  | lineEnd (crlf : Bool)
  /-- An assertion about words, which are those of all scripts or those of ASCII. -/
  | word (kind : WordLook) (unicode : Bool)
deriving DecidableEq, Repr

/-- A regular expression. -/
inductive Regex where
  | empty
  /-- One character of a set. -/
  | set (s : CharSet)
  | look (l : Look)
  | seq (a b : Regex)
  | alt (a b : Regex)
  /-- At least `min` times, and at most `max` times if that is given. -/
  | rep (e : Regex) (min : Nat) (max : Option Nat)
deriving Inhabited

/-! ## Assertions -/

namespace Look

/-- Is the character one of a word? -/
def isWord (unicode : Bool) (c : Option Char) : Bool :=
  c.any fun c ↦
    if unicode then CharSet.word.contains c.toNat else CharSet.asciiWord.contains c.toNat

/-- Does an assertion about words hold where these are the characters before and after? -/
def wordHolds (kind : WordLook) (before after : Bool) : Bool :=
  match kind with
  | .boundary => before != after
  | .inside => before == after
  | .start => !before && after
  | .stop => before && !after
  | .startHalf => !before
  | .stopHalf => !after

/-- Does the assertion hold where these are the characters before and after? -/
def holds (l : Look) (before after : Option Char) : Bool :=
  match l with
  | .textStart => before.isNone
  | .textEnd => after.isNone
  | .lineStart false => before.isNone || before == some '\n'
  | .lineEnd false => after.isNone || after == some '\n'
  | .lineStart true =>
    before.isNone || before == some '\n' || (before == some '\r' && after != some '\n')
  | .lineEnd true =>
    after.isNone || after == some '\r' || (after == some '\n' && before != some '\r')
  | .word kind unicode => wordHolds kind (isWord unicode before) (isWord unicode after)

/-- Does the assertion hold at a place of a text? -/
def holdsAt (l : Look) (t : Array Char) (i : Nat) : Bool :=
  l.holds (if i = 0 then none else t[i - 1]?) t[i]?

end Look

namespace Regex

/-! ## The meaning of an expression -/

/-- **When an expression matches** from place `i` to place `j` of a text. -/
inductive Matches (t : Array Char) : Regex → Nat → Nat → Prop
  | empty (i : Nat) : Matches t .empty i i
  | set {s : CharSet} {i : Nat} {c : Char} : t[i]? = some c → s.contains c.toNat = true →
      Matches t (.set s) i (i + 1)
  | look {l : Look} {i : Nat} : l.holdsAt t i = true → Matches t (.look l) i i
  | seq {a b : Regex} {i j k : Nat} : Matches t a i j → Matches t b j k → Matches t (.seq a b) i k
  | altLeft {a b : Regex} {i j : Nat} : Matches t a i j → Matches t (.alt a b) i j
  | altRight {a b : Regex} {i j : Nat} : Matches t b i j → Matches t (.alt a b) i j
  /-- No repetition is called for and none is taken. -/
  | repDone {e : Regex} {max : Option Nat} {i : Nat} : Matches t (.rep e 0 max) i i
  /-- One repetition is taken, if one is called for or there may be one more. -/
  | repMore {e : Regex} {min : Nat} {max : Option Nat} {i j k : Nat} : (min = 0 → max ≠ some 0) →
      Matches t e i j → Matches t (.rep e (min - 1) (max.map (· - 1))) j k →
      Matches t (.rep e min max) i k

/-! ## The ends of matches

Places are followed all at once: what is computed is where matches from any of a list of places can
end.  No list holds a place twice, so that the work does not grow with the number of ways to match.
-/

/-- Adds places to a list of places, each once. -/
def merge (more places : List Nat) : List Nat :=
  more.foldl (fun acc i ↦ if acc.contains i then acc else i :: acc) places

/-- Do both lists hold the same places?  Neither holds one twice. -/
def samePlaces (a b : List Nat) : Bool :=
  a.length == b.length && (a.all b.contains && b.all a.contains)

/-- The places after exactly `n` steps.  Once a step leads back to the same places, so do all
further ones. -/
def exactly (step : List Nat → List Nat) : Nat → List Nat → List Nat
  | 0, places => places
  | n + 1, places =>
    let next := step places
    if samePlaces next places then places else exactly step n next

/-- The places after at most `n` steps from the newly reached ones, and those reached before. -/
def upTo (step : List Nat → List Nat) : Nat → (fresh reached : List Nat) → List Nat
  | 0, _, reached => reached
  | n + 1, fresh, reached =>
    let next := (step fresh).filter fun i ↦ !reached.contains i
    if next.isEmpty then reached else upTo step n next (next ++ reached)

/-- The place after a character of the set, if there is one at the place. -/
def after? (t : Array Char) (s : CharSet) (i : Nat) : Option Nat :=
  match t[i]? with
  | some c => if s.contains c.toNat then some (i + 1) else none
  | none => none

/-- The places that a match from any of the given places can end at.  A text has one place more
than it has characters, so that many steps are as good as any number of them. -/
def reach (t : Array Char) : Regex → List Nat → List Nat
  | .empty, places => places
  | .set s, places => places.filterMap (after? t s)
  | .look l, places => places.filter (l.holdsAt t)
  | .seq a b, places => reach t b (reach t a places)
  | .alt a b, places => merge (reach t b places) (reach t a places)
  | .rep e min max, places =>
    let start := exactly (reach t e) min places
    let more := match max with
      | some m => Nat.min (m - min) (t.size + 1)
      | none => t.size + 1
    upTo (reach t e) more start start

/-- Is there a match from some place of the text? -/
def search (e : Regex) (t : Array Char) : Bool :=
  !(reach t e (List.range (t.size + 1))).isEmpty

end Regex

end SurveyQuests
