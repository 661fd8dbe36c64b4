/-!
# Sets of code points

A `CodeSet` is a set of code points given by closed ranges.  The tables of the Unicode character
database are written in the modules beside this one the way the database itself writes them: code
points in hexadecimal, a dash inside a range, a blank between ranges.  They are the tables of
version 16 of the database; what version 17 adds to some of them stands in `Latest`.
`CodeSet.ofLines` reads a table and `CodeSet.contains` asks whether a code point is in it.

## What is here

* `CodeSet.contains` — membership, with `CodeSet.contains_iff` saying which ranges make it true;
* `CodeSet.union`, `CodeSet.unions` — sets put together;
* `CodeSet.ofLines` — the set a written table stands for.
-/

set_option autoImplicit false

namespace SurveyQuests

/-- A set of code points: the numbers that lie in one of the closed ranges. -/
structure CodeSet where
  /-- First and last code point of each range. -/
  ranges : List (Nat × Nat)
deriving Repr, DecidableEq, Inhabited

namespace CodeSet

/-- Is the code point in one of the ranges? -/
def contains (s : CodeSet) (n : Nat) : Bool :=
  s.ranges.any fun r ↦ decide (r.1 ≤ n) && decide (n ≤ r.2)

theorem contains_iff (s : CodeSet) (n : Nat) :
    s.contains n = true ↔ ∃ r ∈ s.ranges, r.1 ≤ n ∧ n ≤ r.2 := by
  simp [contains]

/-- The code points of either set. -/
def union (s t : CodeSet) : CodeSet := ⟨s.ranges ++ t.ranges⟩

/-- The code points of any of the sets. -/
def unions (sets : List CodeSet) : CodeSet := ⟨sets.flatMap CodeSet.ranges⟩

/-- The set of the listed code points. -/
def ofPoints (points : List Nat) : CodeSet := ⟨points.map fun n ↦ (n, n)⟩

/-! ## Reading a written table -/

/-- The value of a hexadecimal digit; any other character counts as zero. -/
def hexDigit (c : Char) : Nat :=
  if '0' ≤ c ∧ c ≤ '9' then c.toNat - '0'.toNat
  else if 'a' ≤ c ∧ c ≤ 'f' then c.toNat - 'a'.toNat + 10
  else 0

/-- A table that is being read: the number at hand, the first end of the range it closes if a dash
was seen, and the ranges so far, last one first. -/
structure Reading where
  current : Option Nat
  first : Option Nat
  done : List (Nat × Nat)

/-- Ends the range at hand, if there is one. -/
def Reading.close (s : Reading) : Reading :=
  match s.current with
  | none => s
  | some n => ⟨none, none, (s.first.getD n, n) :: s.done⟩

/-- Reads one more character of a table. -/
def Reading.next (s : Reading) (c : Char) : Reading :=
  if c = ' ' then s.close
  else if c = '-' then ⟨none, s.current, s.done⟩
  else { s with current := some (s.current.getD 0 * 16 + hexDigit c) }

/-- The ranges of one line of a table. -/
def rangesOfLine (line : String) : List (Nat × Nat) :=
  (line.foldl Reading.next ⟨none, none, []⟩).close.done.reverse

/-- The set that the lines of a table stand for. -/
def ofLines (lines : List String) : CodeSet := ⟨lines.flatMap rangesOfLine⟩

end CodeSet

end SurveyQuests
