import SurveyQuests.Catalog.Basic
import SurveyQuests.Element.Reader
import SurveyQuests.Scan.Lines
import SurveyQuests.Scan.Row

/-!
# Looking at lines

Every line of input that is not blank should hold the record of an element, and gives a row for each
quest of the catalog that holds for it.  A line that holds no record is counted and remembered by
its number.  The one thing that is not survived is an edit beyond the calendar: then there is no
outcome at all.

## What is here

* `Examiner` — a catalog and a day of reference;
* `Examiner.rows` — the rows of an element;
* `Examiner.lineRows` — the rows of a line;
* `Examiner.lineOutcome` — what comes of a line;
* `Examiner.batchOutcome` — what comes of a batch of lines.
-/

set_option autoImplicit false

namespace SurveyQuests

/-- What elements are looked at with. -/
structure Examiner where
  catalog : Catalog
  reference : Date

/-- What comes of a batch of lines. -/
structure BatchOutcome where
  rows : List Row := []
  /-- How many lines held a record. -/
  records : Nat := 0
  /-- The numbers of the lines that held something else. -/
  malformed : List Nat := []
deriving DecidableEq

/-- What comes of lines and of the lines that follow them. -/
def BatchOutcome.append (a b : BatchOutcome) : BatchOutcome :=
  ⟨a.rows ++ b.rows, a.records + b.records, a.malformed ++ b.malformed⟩

namespace Examiner

/-- The rows of an element, in the order of the catalog. -/
def rows (x : Examiner) (e : Element) : List Row :=
  (x.catalog.matching e x.reference).map fun quest ↦ ⟨quest.name, e.kind, e.id⟩

/-- The rows of a line. -/
def lineRows (x : Examiner) (cs : List Char) : Except RecordError (List Row) :=
  (Element.ofLine cs).map x.rows

/-- What comes of the line of a number. -/
def lineOutcome (x : Examiner) (number : Nat) (line : String) : Except Abort BatchOutcome :=
  let cs := Character.trim line.toList
  if cs.isEmpty then .ok {}
  else
    match x.lineRows cs with
    | .error .beyondCalendar => .error .beyondCalendar
    | .error .invalid => .ok { malformed := [number] }
    | .ok rows => .ok { rows, records := 1 }

/-- What comes of lines from a number on. -/
def outcomeFrom (x : Examiner) (number : Nat) : List String → Except Abort BatchOutcome
  | [] => .ok {}
  | line :: lines => do
    let first ← x.lineOutcome number line
    let rest ← x.outcomeFrom (number + 1) lines
    return first.append rest

/-- **What comes of a batch of lines.** -/
def batchOutcome (x : Examiner) (batch : LineBatch) : Except Abort BatchOutcome :=
  x.outcomeFrom batch.firstLine batch.lines

end Examiner

end SurveyQuests
