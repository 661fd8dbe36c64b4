import SurveyQuests.Scan.Batch
import SurveyQuests.Scan.Progress
import SurveyQuests.Scan.Sink

/-!
# Scanning an input

A scan takes the batches of an input, looks at each of them, and hands the rows to a writer, which
gives them to the sink.  Batches are looked at side by side in general, see
`SurveyQuests.Scan.Schedule`; `scan` does it one after another and writes at the end.

Whatever the order, the result is concluded in the same way.  The failure of the sink comes first,
since it is the cause where handing over rows failed; a failure of the workers counts only if the
sink has accepted all that it was given.

## What is here

* `WorkerFailure`, `ScanError`, `ScanSummary`;
* `conclude` — the result of a scan;
* `evaluateAll` — what comes of all batches;
* `scan`.
-/

set_option autoImplicit false

namespace SurveyQuests

/-- Why the workers of a scan stop early. -/
inductive WorkerFailure where
  /-- The input could not be read. -/
  | read
  /-- Rows could not be handed to the writer. -/
  | send
deriving DecidableEq, Repr

/-- Why a scan fails. -/
inductive ScanError where
  | workersFailed (failure : WorkerFailure)
  /-- The sink refused a row with an error; the workers may have failed too. -/
  | sinkFailed (message : String) (workersFailed : Bool)
  /-- The sink refused a row by a panic. -/
  | writerPanicked (payload : Option String)
deriving DecidableEq, Repr

/-- The text of an error. -/
def ScanError.message : ScanError → String
  | .workersFailed .read => "Pipeline: Failed to read input"
  | .workersFailed .send =>
    "Pipeline: Failed to send match batch: sending on a disconnected channel"
  | .sinkFailed message false => message
  | .sinkFailed _ true => "Pipeline: Sink writer thread failed (caused channel disconnect)"
  | .writerPanicked payload =>
    "Pipeline: Sink writer thread panicked: " ++ payload.getD "unknown panic"

/-- The totals of a scan. -/
structure ScanSummary where
  records : Nat
  malformed : Nat
  rows : Nat
deriving DecidableEq, Repr

/-- **The result of a scan**: what came of the rows, whether the workers failed, and the counts. -/
def conclude (written : Written) (workers : Option WorkerFailure) (progress : ScanProgress) :
    Except ScanError ScanSummary :=
  match written.failure with
  | some (.error message) => .error (.sinkFailed message workers.isSome)
  | some (.panic payload) => .error (.writerPanicked payload)
  | none =>
    match workers with
    | some failure => .error (.workersFailed failure)
    | none => .ok ⟨progress.records, progress.malformed, written.accepted.length⟩

/-- What comes of all batches up to a failure, and the failure. -/
def evaluateAll (x : Examiner) :
    List (Except ReadFailure LineBatch) → Except Abort (BatchOutcome × Option WorkerFailure)
  | [] => .ok ({}, none)
  | .error _ :: _ => .ok ({}, some .read)
  | .ok batch :: items => do
    let first ← x.batchOutcome batch
    let (rest, failure) ← evaluateAll x items
    return (first.append rest, failure)

/-- What a scan leaves behind. -/
structure ScanOutcome where
  result : Except ScanError ScanSummary
  /-- The rows that the sink has accepted. -/
  accepted : List Row
  /-- The numbers of the lines that a warning was given about. -/
  malformed : List Nat

/-- **Scans an input**, one batch after another. -/
def scan (x : Examiner) (sink : Sink) (source : LineSource) : Except Abort ScanOutcome := do
  let items ← source.toList
  let (outcome, failure) ← evaluateAll x items
  let written := sink.write [] outcome.rows
  let progress := ScanProgress.add {} outcome.records outcome.malformed.length
  return ⟨conclude written failure progress, written.accepted, outcome.malformed⟩

end SurveyQuests
