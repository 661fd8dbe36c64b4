import SurveyQuests.Scan.Row

/-!
# Writing rows

The rows of a scan are written to an output one after another, each on a line of its own.  Between
the writer and the output stands a buffer.  The bytes of a row go into the buffer, and whenever that
happens some of the oldest bytes of the buffer may go on to the output.  How many go on at a time is
left open; only at the end all of them do.

## What is here

* `Row.bytes` — what is written for a row;
* `RowWriter`, `RowWriter.put`, `RowWriter.pass`, `RowWriter.finish` — an output and its buffer;
* `RowWriter.Takes` — what may come of writing rows one after another.
-/

set_option autoImplicit false

namespace SurveyQuests

/-- The bytes of a text. -/
def encodeText (text : String) : List UInt8 := text.toByteArray.data.toList

/-- The bytes that are written for a row: those of its line and of a line feed. -/
def Row.bytes (row : Row) : List UInt8 := encodeText row.line ++ encodeText "\n"

/-- An output with a buffer in front of it. -/
structure RowWriter where
  /-- The bytes that have arrived at the output. -/
  arrived : List UInt8 := []
  /-- The bytes that are still in the buffer, the oldest first. -/
  buffer : List UInt8 := []
deriving DecidableEq

namespace RowWriter

/-- Puts bytes into the buffer. -/
def put (w : RowWriter) (bytes : List UInt8) : RowWriter := { w with buffer := w.buffer ++ bytes }

/-- The oldest bytes of the buffer go on to the output. -/
def pass (w : RowWriter) (count : Nat) : RowWriter :=
  ⟨w.arrived ++ w.buffer.take count, w.buffer.drop count⟩

/-- All bytes of the buffer go on to the output. -/
def finish (w : RowWriter) : RowWriter := w.pass w.buffer.length

/-- **Is this what comes of writing rows one after another?**  After each of them some bytes of the
buffer may go on. -/
inductive Takes : RowWriter → List Row → RowWriter → Prop where
  | nil {w : RowWriter} : Takes w [] w
  | cons {w w' : RowWriter} {row : Row} {rows : List Row} (count : Nat)
      (h : Takes ((w.put row.bytes).pass count) rows w') : Takes w (row :: rows) w'

/-- All that was ever put in: what has arrived, and what is still in the buffer. -/
def total (w : RowWriter) : List UInt8 := w.arrived ++ w.buffer

@[simp] theorem total_put (w : RowWriter) (bytes : List UInt8) :
    (w.put bytes).total = w.total ++ bytes := by
  simp [total, put]

@[simp] theorem total_pass (w : RowWriter) (count : Nat) : (w.pass count).total = w.total := by
  simp [total, pass]

@[simp] theorem arrived_finish (w : RowWriter) : w.finish.arrived = w.total := by
  simp [total, finish, pass]

end RowWriter

end SurveyQuests
