import SurveyQuests.Command.Basic
import SurveyQuests.Scan.Output
import SurveyQuests.Scan.Schedule

/-!
# The course of a run

A run goes through the same stages every time: it loads the catalog, opens the input, creates the
output, scans, and empties the buffer of the output.  At each of them it may come to an end, with an
error or, when the catalog was only to be checked, without one.  The scan goes on side by side, as
`SurveyQuests.Scan.Schedule` has it, and while it does the bytes of accepted rows arrive at the
output.

`RunState.Step` is one event of a run, on the state of the files and on what the run is at, and
`RunState.Reachable` what a number of events leads to.  `run` is a run with a sink that takes every
row, whose scan takes one batch after another.

## What is here

* `RunSetup`, `RunFile`, `RunPhase`, `RunState`;
* `RunState.Step`, `RunState.Reachable`;
* `Files.definition?`, `RunReport.filesAfter` — what `run` starts with and what it leaves behind.
-/

set_option autoImplicit false

namespace SurveyQuests

/-- What a run is done with. -/
structure RunSetup where
  commandLine : CommandLine
  /-- The definition of a catalog that is found under a path; it may be written in any form. -/
  definition? : Files → String → Option CatalogDefinition
  sink : Sink
  /-- The number of workers of the scan. -/
  threads : Nat
  threads_pos : 0 < threads

/-- The files that a run uses. -/
inductive RunFile where
  | catalog
  | input
  | output
deriving DecidableEq, Repr

/-- What a run is at. -/
inductive RunPhase where
  /-- Nothing has been done. -/
  | starting
  /-- The catalog is there. -/
  | loaded (catalog : Catalog)
  /-- The input is open too. -/
  | reading (catalog : Catalog)
  /-- The output was created, and the input is being scanned. -/
  | scanning (catalog : Catalog) (scan : ScanState) (writer : RowWriter)
  /-- The run is over. -/
  | ended (result : Except RunError (Option ScanSummary))

/-- A point in the course of a run. -/
structure RunState where
  files : Files
  /-- The files that the run has opened or tried to open. -/
  opened : List RunFile := []
  phase : RunPhase := .starting

namespace RunSetup

variable (r : RunSetup)

/-- The catalog of a run. -/
def catalog (files : Files) : Except RunError Catalog :=
  r.commandLine.catalog (r.definition? files r.commandLine.quests)

/-- The scan of a run. -/
def scan (catalog : Catalog) : ScanSetup :=
  ⟨⟨catalog, r.commandLine.settings.reference⟩, r.sink, r.threads, r.threads_pos⟩

/-- The input of the scan, once the output was created. -/
def source (files : Files) (input : String) : LineSource :=
  .ofBytes ((files.content? input).getD []) r.commandLine.settings.batchSize

/-- The files when so much has arrived at the output. -/
def putOutput (files : Files) (bytes : List UInt8) : Files := files.put r.commandLine.output bytes

end RunSetup

/-- What may be in the buffer of a row that the sink has refused. -/
def ScanState.Torn (s : ScanState) (bytes : List UInt8) : Prop :=
  bytes = [] ∨ ∃ row ∈ s.exchange.writing.head?, bytes <+: row.bytes

namespace RunState

/-- **One event of a run.** -/
inductive Step (r : RunSetup) : RunState → RunState → Prop where
  /-- The catalog is loaded. -/
  | load {files : Files} {opened : List RunFile} {catalog : Catalog}
      (h : r.catalog files = .ok catalog) :
      Step r ⟨files, opened, .starting⟩ ⟨files, opened ++ [.catalog], .loaded catalog⟩
  /-- There is no catalog to be had. -/
  | loadFailure {files : Files} {opened : List RunFile} {e : RunError}
      (h : r.catalog files = .error e) :
      Step r ⟨files, opened, .starting⟩ ⟨files, opened ++ [.catalog], .ended (.error e)⟩
  /-- The catalog was all that was asked for. -/
  | checked {files : Files} {opened : List RunFile} {catalog : Catalog}
      (hcheck : r.commandLine.check = true) :
      Step r ⟨files, opened, .loaded catalog⟩ ⟨files, opened, .ended (.ok none)⟩
  /-- No input is named. -/
  | noInput {files : Files} {opened : List RunFile} {catalog : Catalog}
      (hcheck : r.commandLine.check = false) (hinput : r.commandLine.input = none) :
      Step r ⟨files, opened, .loaded catalog⟩ ⟨files, opened, .ended (.error .noInput)⟩
  /-- The input is opened. -/
  | openInput {files : Files} {opened : List RunFile} {catalog : Catalog} {input : String}
      {bytes : List UInt8} (hcheck : r.commandLine.check = false)
      (hinput : r.commandLine.input = some input) (h : files.content? input = some bytes) :
      Step r ⟨files, opened, .loaded catalog⟩ ⟨files, opened ++ [.input], .reading catalog⟩
  /-- The input cannot be opened. -/
  | inputFailure {files : Files} {opened : List RunFile} {catalog : Catalog} {input : String}
      (hcheck : r.commandLine.check = false) (hinput : r.commandLine.input = some input)
      (h : files.content? input = none) :
      Step r ⟨files, opened, .loaded catalog⟩
        ⟨files, opened ++ [.input], .ended (.error (.inputNotOpened input))⟩
  /-- The output is created, and empty. -/
  | create {files : Files} {opened : List RunFile} {catalog : Catalog} {input : String}
      (hinput : r.commandLine.input = some input)
      (h : files.canCreate r.commandLine.output = true) :
      Step r ⟨files, opened, .reading catalog⟩
        ⟨r.putOutput files [], opened ++ [.output],
          .scanning catalog (.start (r.source (r.putOutput files []) input)) {}⟩
  /-- The output cannot be created. -/
  | createFailure {files : Files} {opened : List RunFile} {catalog : Catalog}
      (h : files.canCreate r.commandLine.output = false) :
      Step r ⟨files, opened, .reading catalog⟩
        ⟨files, opened ++ [.output], .ended (.error (.outputNotCreated r.commandLine.output))⟩
  /-- Something happens in the scan; rows that are newly accepted are written. -/
  | scan {files : Files} {opened : List RunFile} {catalog : Catalog} {s t : ScanState}
      {w w' : RowWriter} {rows : List Row} (h : ScanState.Step (r.scan catalog) s t)
      (hrows : t.exchange.written.accepted = s.exchange.written.accepted ++ rows)
      (hw : w.Takes rows w') :
      Step r ⟨files, opened, .scanning catalog s w⟩
        ⟨r.putOutput files w'.arrived, opened, .scanning catalog t w'⟩
  /-- The scan is over and the buffer is emptied. -/
  | finish {files : Files} {opened : List RunFile} {catalog : Catalog} {s : ScanState}
      {w : RowWriter} {summary : ScanSummary} (hfinal : s.IsFinal) (h : s.result = .ok summary) :
      Step r ⟨files, opened, .scanning catalog s w⟩
        ⟨r.putOutput files w.finish.arrived, opened, .ended (.ok (some summary))⟩
  /-- The scan is over, but the buffer cannot be emptied. -/
  | finishFailure {files : Files} {opened : List RunFile} {catalog : Catalog} {s : ScanState}
      {w : RowWriter} {summary : ScanSummary} (count : Nat) (hfinal : s.IsFinal)
      (h : s.result = .ok summary) :
      Step r ⟨files, opened, .scanning catalog s w⟩
        ⟨r.putOutput files (w.pass count).arrived, opened, .ended (.error .outputNotFinished)⟩
  /-- The scan has failed.  Some of the buffer may still arrive. -/
  | scanFailure {files : Files} {opened : List RunFile} {catalog : Catalog} {s : ScanState}
      {w : RowWriter} {e : ScanError} {torn : List UInt8} (count : Nat) (hfinal : s.IsFinal)
      (h : s.result = .error e) (htorn : s.Torn torn) :
      Step r ⟨files, opened, .scanning catalog s w⟩
        ⟨r.putOutput files ((w.put torn).pass count).arrived, opened,
          .ended (.error (.scanFailed e))⟩

/-- What a number of events leads to. -/
inductive Reachable (r : RunSetup) (files : Files) : RunState → Prop where
  | start : Reachable r files { files }
  | step {s t : RunState} (h : Reachable r files s) (hs : Step r s t) : Reachable r files t

end RunState

/-! ## A run in one go -/

/-- The definition of a catalog that `run` finds under a path. -/
def Files.definition? (files : Files) (path : String) : Option CatalogDefinition :=
  (files.content? path).bind CatalogDefinition.ofBytes?

end SurveyQuests
