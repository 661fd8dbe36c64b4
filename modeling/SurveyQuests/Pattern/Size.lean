import SurveyQuests.Pattern.Regex

/-!
# How large a pattern may be

A pattern is searched for with an automaton over bytes, and one whose automaton would take more
than ten mebibytes is refused.  The automaton has one state for each byte of a character that stands
for itself, one or two for a choice or a repetition, and for a set of characters as many as its
members take when they are written as bytes; a part that is repeated takes its states once for each
time.  The search also runs backwards, with an automaton of its own that shares less between the
members of a set, so both are measured.

The measure is an estimate.  The states at the ends of a group that captures are left out of it,
since expressions do not keep these groups, and a repetition of a part that takes no character is
counted in full though an automaton need not have all of its states.  So the answer may be wrong for
patterns that come near the limit with a huge repetition of such parts, as `(a){200000}` and
`^{1000000}` do.

## What is here

* `CharSet.toRanges` — the members of a set as ascending ranges;
* `byteRanges` — the ways to write the members of a range as bytes;
* `Cost.ofSet` — the states of a set, in either direction;
* `Regex.cost`, `Regex.fits` — the states of an expression, and whether they are few enough.
-/

set_option autoImplicit false

namespace SurveyQuests

/-! ## Sets as ranges -/

namespace CharSet

/-- Puts ranges in ascending order and joins those that touch. -/
def normalize (rs : List (Nat × Nat)) : List (Nat × Nat) :=
  let sorted := (rs.filter fun r ↦ decide (r.1 ≤ r.2)).mergeSort fun a b ↦ decide (a.1 ≤ b.1)
  (sorted.foldl
    (fun acc r ↦ match acc with
      | [] => [r]
      | s :: rest => if r.1 ≤ s.2 + 1 then (s.1, max s.2 r.2) :: rest else r :: acc)
    []).reverse

/-- The gaps between ascending ranges, from a code point on. -/
def gaps (start : Nat) : List (Nat × Nat) → List (Nat × Nat)
  | [] => if start ≤ 0x10ffff then [(start, 0x10ffff)] else []
  | r :: rest =>
    if start < r.1 then (start, r.1 - 1) :: gaps (r.2 + 1) rest else gaps (r.2 + 1) rest

/-- What two lists of ranges have in common. -/
def commonRanges (a b : List (Nat × Nat)) : List (Nat × Nat) :=
  gaps 0 (normalize (gaps 0 a ++ gaps 0 b))

/-- The members of a set, as ascending ranges that do not touch. -/
def toRanges : CharSet → List (Nat × Nat)
  | table s => normalize s.ranges
  | union a b => normalize (a.toRanges ++ b.toRanges)
  | inter a b => commonRanges a.toRanges b.toRanges
  | diff a b => commonRanges a.toRanges (gaps 0 b.toRanges)
  | symmDiff a b =>
    let x := a.toRanges
    let y := b.toRanges
    commonRanges (normalize (x ++ y)) (gaps 0 (commonRanges x y))
  | compl a => gaps 0 a.toRanges
  | fold a =>
    let x := a.toRanges
    let s : CodeSet := ⟨x⟩
    let more := CaseFolding.classes.filter fun g ↦ g.any s.contains
    normalize (x ++ more.flatMap fun g ↦ g.map fun n ↦ (n, n))
  | foldAscii a =>
    let x := a.toRanges
    let s : CodeSet := ⟨x⟩
    let letters := (List.range 128).filter s.contains
    normalize (x ++ letters.map fun n ↦ (swapAsciiCase n, swapAsciiCase n))

end CharSet

/-! ## Members as bytes -/

/-- The ways to write the numbers from `lo` to `hi` with `tail` digits to the base 64 after the
leading one, each digit being any of a range. -/
def digitRanges : (tail : Nat) → (lo hi : Nat) → List (List (Nat × Nat))
  | 0, lo, hi => [[(lo, hi)]]
  | tail + 1, lo, hi =>
    let size := Nat.pow 64 (tail + 1)
    let a := lo / size
    let b := hi / size
    if a = b then (digitRanges tail (lo % size) (hi % size)).map fun s ↦ (a, a) :: s
    else
      let splitLow := lo % size != 0
      let splitHigh := hi % size != size - 1
      let low := if splitLow then
        (digitRanges tail (lo % size) (size - 1)).map fun s ↦ (a, a) :: s else []
      let high := if splitHigh then
        (digitRanges tail 0 (hi % size)).map fun s ↦ (b, b) :: s else []
      let first := if splitLow then a + 1 else a
      let last := if splitHigh then b - 1 else b
      let middle := if first ≤ last then
        [(first, last) :: List.replicate (tail + 1) (0, 63)] else []
      low ++ middle ++ high

/-- The part of a range within bounds, if there is any. -/
def clip (lo hi : Nat) (r : Nat × Nat) : Option (Nat × Nat) :=
  let a := max lo r.1
  let b := min hi r.2
  if a ≤ b then some (a, b) else none

/-- The ways to write the members of a range as bytes, each byte being any of a range.  The
leading byte also tells how many follow. -/
def byteRanges (r : Nat × Nat) : List (List (Nat × Nat)) :=
  [(0, 0x7f, 0), (0x80, 0x7ff, 1), (0x800, 0xd7ff, 2), (0xe000, 0xffff, 2),
    (0x10000, 0x10ffff, 3)].flatMap fun (lo, hi, tail) ↦
    match clip lo hi r with
    | none => []
    | some (a, b) => (digitRanges tail a b).map fun
      | [] => []
      | (x, y) :: rest => (x + tail * 256, y + tail * 256) :: rest

/-- The number of states of an automaton and the bytes that they take besides. -/
structure Cost where
  states : Nat
  bytes : Nat
deriving DecidableEq, Repr

namespace Cost

/-- Both together. -/
def add (a b : Cost) : Cost := ⟨a.states + b.states, a.bytes + b.bytes⟩

/-- So many times. -/
def times (n : Nat) (a : Cost) : Cost := ⟨n * a.states, n * a.bytes⟩

/-- The size of a state in bytes. -/
def stateBytes : Nat := 32

/-- The bytes of an automaton. -/
def total (a : Cost) : Nat := a.states * stateBytes + a.bytes

/-! ### Forwards

Ways to write members that start alike share their first states, and ways that end alike share
their last ones. -/

/-- A state: the ranges of bytes that lead on from it, each with the number of the next state. -/
abbrev Branching := List ((Nat × Nat) × Nat)

/-- The number of a state among the known ones, which it joins if it is new.  Numbers count from
the state that was known first. -/
def intern (known : List Branching) (b : Branching) : Nat × List Branching :=
  match known.idxOf? b with
  | some i => (known.length - i, known)
  | none => (known.length + 1, b :: known)

/-- Groups neighbours that start with the same range. -/
def groupByFirst : List (List (Nat × Nat)) → List ((Nat × Nat) × List (List (Nat × Nat)))
  | [] => []
  | [] :: rest => groupByFirst rest
  | (r :: s) :: rest =>
    match groupByFirst rest with
    | (r', group) :: more =>
      if r = r' then (r, s :: group) :: more else (r, [s]) :: (r', group) :: more
    | [] => [(r, [s])]

/-- The number of the state that reads any of the ways, at most `depth` bytes long; zero is the
number of the end. -/
def stateOf : (depth : Nat) → List Branching → List (List (Nat × Nat)) → Nat × List Branching
  | 0, known, _ => (0, known)
  | depth + 1, known, ways =>
    let groups := groupByFirst ways
    if groups.isEmpty then (0, known)
    else
      let (branching, known) := groups.foldl
        (fun (acc, known) (r, rest) ↦
          let (n, known) := stateOf depth known rest
          ((r, n) :: acc, known))
        ([], known)
      intern known branching

/-- The cost of the ways to write members, read forwards. -/
def forwards (ways : List (List (Nat × Nat))) : Cost :=
  let (_, known) := stateOf 4 [] ways
  ⟨known.length + 1, 8 * known.flatten.length⟩

/-! ### Backwards

Only ways that start alike share states. -/

/-- The number of ranges that two ways start with alike. -/
def commonStart : List (Nat × Nat) → List (Nat × Nat) → Nat
  | a :: v, b :: w => if a = b then commonStart v w + 1 else 0
  | _, _ => 0

/-- The states that each way has for itself, given the way before it.  The ways ascend, so what a
way shares with any before it, it shares with the last one. -/
def ownStates (previous : List (Nat × Nat)) : List (List (Nat × Nat)) → Nat
  | [] => 0
  | way :: rest => way.length - commonStart previous way + ownStates way rest

/-- The cost of the ways to write members, read backwards. -/
def backwards (ways : List (List (Nat × Nat))) : Cost :=
  ⟨ownStates [] ways + 2, 4 * ways.length⟩

/-- The cost of a set of characters in both directions. -/
def ofSet (s : CharSet) : Cost × Cost :=
  match s.toRanges with
  | [(a, b)] =>
    if a = b then
      let c : Cost := ⟨(byteRanges (a, b)).flatten.length, 0⟩
      (c, c)
    else if b ≤ 0x7f then (⟨2, 8⟩, ⟨2, 8⟩)
    else (forwards (byteRanges (a, b)), backwards (byteRanges (a, b)))
  | ranges =>
    if ranges.all fun r ↦ decide (r.2 ≤ 0x7f) then
      (⟨2, 8 * ranges.length⟩, ⟨2, 8 * ranges.length⟩)
    else
      let ways := ranges.flatMap byteRanges
      (forwards ways, backwards ways)

/-- The cost of a repetition, given that of what is repeated. -/
def repeated (e : Cost) (min : Nat) (max : Option Nat) : Cost :=
  let choice : Cost := ⟨1, 8⟩
  match max with
  | none => if min = 0 then e.add choice else (e.times min).add choice
  | some m =>
    if m = min then if min = 0 then ⟨1, 0⟩ else e.times min
    else ((e.times min).add ⟨1, 0⟩).add ((e.add choice).times (m - min))

end Cost

namespace Regex

/-- The cost of an expression, given the cost of sets; `inChoice` tells that the states of the
surrounding choice are counted already. -/
def cost (ofSet : CharSet → Cost) (inChoice : Bool) : Regex → Cost
  | .empty | .look _ => ⟨1, 0⟩
  | .set s => ofSet s
  | .seq a b => (a.cost ofSet false).add (b.cost ofSet false)
  | .alt a b =>
    ((a.cost ofSet false).add (b.cost ofSet true)).add (if inChoice then ⟨0, 4⟩ else ⟨2, 8⟩)
  | .rep e min max => (e.cost ofSet false).repeated min max

/-- The size that an automaton may have: ten mebibytes. -/
def sizeLimit : Nat := 10 * Nat.pow 2 20

/-- More than any set of characters costs. -/
def roughCost (s : CharSet) : Cost :=
  match s with
  | .table ⟨[(a, b)]⟩ => if a = b then ⟨4, 0⟩ else ⟨10000, 0⟩
  | _ => ⟨10000, 0⟩

/-- Are the automata of an expression small enough, as far as they are estimated?  Where a rough
estimate says so, the sets need not be looked at. -/
def fits (e : Regex) : Bool :=
  decide ((e.cost roughCost false).total ≤ sizeLimit) ||
    (decide ((e.cost (fun s ↦ (Cost.ofSet s).1) false).total ≤ sizeLimit) &&
      decide ((e.cost (fun s ↦ (Cost.ofSet s).2) false).total ≤ sizeLimit))

end Regex

end SurveyQuests
