/-!
# Lines of input in batches

The input of a scan is a sequence of bytes.  A line goes up to and with a line feed, or up to the
end of the input.  Lines are handed out in *batches* of a fixed size, only the last of which may be
shorter.  A line that is not UTF-8 is a failure: it ends the input, and the lines that were
collected for the batch before it are dropped.

Room for all the lines of a batch is reserved before the first of them is read.  A list may take up
only so many bytes, and where a batch would take up more the program aborts, whatever the input
holds.  That memory within this limit is there when it is asked for is taken for granted.

## What is here

* `splitLine` — the first line of an input;
* `Abort`, `CanReserve` — why there may be no outcome, and the sizes that batches may have;
* `LineBatch`, `LineSource` — a batch, and what is still to be handed out;
* `LineSource.next` — hands out one batch;
* `LineSource.toList` — all batches, and a failure at the end if there is one.
-/

set_option autoImplicit false

namespace SurveyQuests

/-- The line feed. -/
def lineFeed : UInt8 := 10

/-- The first line of an input, with its line feed, and the rest of the input. -/
def splitLine : List UInt8 → List UInt8 × List UInt8
  | [] => ([], [])
  | b :: bs =>
    if b = lineFeed then ([b], bs)
    else
      let (line, rest) := splitLine bs
      (b :: line, rest)

theorem splitLine_append (bs : List UInt8) : (splitLine bs).1 ++ (splitLine bs).2 = bs := by
  induction bs with
  | nil => rfl
  | cons b bs ih =>
    unfold splitLine
    split
    · rfl
    · simp [ih]

theorem length_splitLine_lt {bs : List UInt8} (h : bs ≠ []) :
    (splitLine bs).2.length < bs.length := by
  have hs := congrArg List.length (splitLine_append bs)
  rw [List.length_append] at hs
  have hp : 0 < (splitLine bs).1.length := by
    cases bs with
    | nil => exact absurd rfl h
    | cons b bs =>
      unfold splitLine
      split <;> simp
  omega

/-- The text of bytes that are UTF-8. -/
def decodeText? (bs : List UInt8) : Option String := String.fromUTF8? ⟨bs.toArray⟩

/-- Why the program ends without an outcome. -/
inductive Abort where
  /-- The edit of an element lies beyond the calendar. -/
  | beyondCalendar
  /-- A batch would take up more bytes than a list may. -/
  | capacityOverflow
deriving DecidableEq, Repr

/-- The bytes that a list takes up for each of its texts, besides those of the text itself. -/
def textSlotBytes : Nat := 24

/-- The bytes that a list may take up. -/
def maxListBytes : Nat := Nat.pow 2 63 - 1

/-- Can room for so many lines be reserved? -/
def CanReserve (lines : Nat) : Prop := lines * textSlotBytes ≤ maxListBytes

instance (lines : Nat) : Decidable (CanReserve lines) :=
  inferInstanceAs (Decidable (lines * textSlotBytes ≤ maxListBytes))

/-- Lines that follow each other. -/
structure LineBatch where
  /-- The number of the first line, counted from 1. -/
  firstLine : Nat
  lines : List String
deriving DecidableEq, Repr

/-- The failure of reading an input that is not UTF-8. -/
inductive ReadFailure where
  | notText
deriving DecidableEq, Repr

/-- What is still to be handed out of an input. -/
structure LineSource where
  /-- The bytes that are not read yet. -/
  bytes : List UInt8
  /-- The number of lines of a batch. -/
  batchSize : Nat
  /-- The number of the line that comes next. -/
  nextLine : Nat := 1
  /-- Has the end been reached, or a failure? -/
  done : Bool := false

namespace LineSource

/-- An input to be handed out in batches of a size; no size counts as one line. -/
def ofBytes (bytes : List UInt8) (batchSize : Nat) : LineSource :=
  { bytes, batchSize := max 1 batchSize }

/-- How the collection of a batch ended. -/
inductive Stop where
  /-- The batch has all its lines. -/
  | full
  /-- The input has no more lines. -/
  | ended
  /-- The next line is not UTF-8. -/
  | failed
deriving DecidableEq, Repr

/-- Collects at most so many lines: the lines, the rest of the input, and how it ended. -/
def collect : Nat → List UInt8 → List String × List UInt8 × Stop
  | 0, bytes => ([], bytes, .full)
  | _ + 1, [] => ([], [], .ended)
  | count + 1, b :: bs =>
    let (line, rest) := splitLine (b :: bs)
    match decodeText? line with
    | none => ([], rest, .failed)
    | some text =>
      let (lines, rest, stop) := collect count rest
      (text :: lines, rest, stop)

/-- Reads the next batch: the batch, or the failure that ends the input, or nothing. -/
def read (s : LineSource) : Option (Except ReadFailure LineBatch) × LineSource :=
  let (lines, rest, stop) := collect s.batchSize s.bytes
  let after : LineSource :=
    { s with bytes := rest, nextLine := s.nextLine + lines.length, done := stop != .full }
  if stop = .failed then (some (.error .notText), after)
  else if lines.isEmpty then (none, after)
  else (some (.ok ⟨s.nextLine, lines⟩), after)

/-- **Hands out the next batch**, or the failure that ends the input, or nothing.  Nothing is read
unless room for a whole batch can be reserved. -/
def next (s : LineSource) :
    Except Abort (Option (Except ReadFailure LineBatch) × LineSource) :=
  if s.done then .ok (none, s)
  else if CanReserve s.batchSize then .ok s.read
  else .error .capacityOverflow

/-- What is handed out by at most so many calls. -/
def take : Nat → LineSource → Except Abort (List (Except ReadFailure LineBatch))
  | 0, _ => .ok []
  | calls + 1, s =>
    match s.next with
    | .error abort => .error abort
    | .ok (none, _) => .ok []
    | .ok (some item, s) => (take calls s).map (item :: ·)

/-- **All that is handed out.**  Every batch takes at least one byte of the input. -/
def toList (s : LineSource) : Except Abort (List (Except ReadFailure LineBatch)) :=
  s.take (s.bytes.length + 1)

end LineSource

end SurveyQuests
