import SurveyQuests.Scan.Basic

/-!
# Scanning side by side

In general a scan has several workers and one writer.  A worker takes the next batch of the input,
looks at its lines one by one, adds to the counts, and puts the rows, if there are any, into a
channel that keeps their order and holds a limited number of batches.  The writer takes the rows of
one batch after another out of the channel and gives them to the sink; when the sink refuses a row
it stops, and what is sent after that does not arrive.  Workers that have met a failure may leave
the rest of the input alone.

The workers and the writer act in any order that the rules allow.  `Worker.Step` and `Exchange.Step`
are the single actions of a worker and of the writer, on what they share (`Exchange`);
`ScanState.Step` is one event of the scan, and `ScanState.Reachable` what a number of events leads
to.  A line that aborts the program has no outcome, and the worker that comes to it does not go on;
neither does a worker that cannot reserve room for a batch.  A scan is over when `ScanState.IsFinal`
holds; then `ScanState.result` is its result, by `conclude`.

## What is here

* `Worker`, `Exchange`, `ScanState`, `ScanState.start`;
* `Worker.Step`, `Exchange.Step`, `ScanState.Step`, `ScanState.Reachable`;
* `ScanState.IsFinal`, `ScanState.result`.
-/

set_option autoImplicit false

namespace SurveyQuests

/-- What a scan is done with. -/
structure ScanSetup where
  examiner : Examiner
  sink : Sink
  /-- The number of workers that may be busy at a time; there is at least one. -/
  threads : Nat
  threads_pos : 0 < threads

/-- What a busy worker is at. -/
inductive Worker where
  /-- It looks at lines: the number of the next one, the lines ahead, and what came of the
  others. -/
  | looking (number : Nat) (lines : List String) (outcome : BatchOutcome)
  /-- It has counted the lines that held no record, and not yet the records. -/
  | counting (outcome : BatchOutcome)
  /-- It has rows to send. -/
  | sending (rows : List Row)

/-- What the workers and the writer share. -/
structure Exchange where
  /-- The rows of batches in the channel, the oldest first. -/
  channel : List (List Row) := []
  /-- The rows of the batch that the writer is at, that are not yet given to the sink. -/
  writing : List Row := []
  /-- What has come of the rows given to the sink. -/
  written : Written := { accepted := [] }
  progress : ScanProgress := {}
  /-- The numbers of the lines that a warning was given about, in the order of the warnings. -/
  warned : List Nat := []
  /-- The first failure of a worker. -/
  failure : Option WorkerFailure := none

/-- The number of batches that the channel holds. -/
def channelSize : Nat := 64

/-- The exchange after a failure of a worker; the first failure counts. -/
def Exchange.fail (e : Exchange) (failure : WorkerFailure) : Exchange :=
  { e with failure := e.failure.or (some failure) }

/-- A worker that has taken a batch. -/
def LineBatch.worker (batch : LineBatch) : Worker := .looking batch.firstLine batch.lines {}

/-- **One action of a worker**, after which it is busy with something else or free. -/
inductive Worker.Step (x : Examiner) : Worker → Exchange → Option Worker → Exchange → Prop where
  /-- It looks at a line, and warns about it if it holds no record. -/
  | look {number : Nat} {line : String} {lines : List String} {outcome o : BatchOutcome}
      {e : Exchange} (h : x.lineOutcome number line = .ok o) :
      Worker.Step x (.looking number (line :: lines) outcome) e
        (some (.looking (number + 1) lines (outcome.append o)))
        { e with warned := e.warned ++ o.malformed }
  /-- It adds to the count of lines without a record. -/
  | countMalformed {number : Nat} {outcome : BatchOutcome} {e : Exchange} :
      Worker.Step x (.looking number [] outcome) e (some (.counting outcome))
        { e with progress := e.progress.add 0 outcome.malformed.length }
  /-- It adds to the count of records. -/
  | countRecords {outcome : BatchOutcome} {e : Exchange} :
      Worker.Step x (.counting outcome) e (some (.sending outcome.rows))
        { e with progress := e.progress.add outcome.records 0 }
  /-- It has no rows, and sends nothing. -/
  | skip {e : Exchange} : Worker.Step x (.sending []) e none e
  /-- It sends its rows, if there is room in the channel. -/
  | send {rows : List Row} {e : Exchange} (hrows : rows ≠ []) (hw : e.written.failure = none)
      (hroom : e.channel.length < channelSize) :
      Worker.Step x (.sending rows) e none { e with channel := e.channel ++ [rows] }
  /-- It cannot send its rows, since the writer has stopped. -/
  | sendFailure {rows : List Row} {e : Exchange} (hrows : rows ≠ [])
      (hw : e.written.failure ≠ none) :
      Worker.Step x (.sending rows) e none (e.fail .send)

/-- **One action of the writer.** -/
inductive Exchange.Step (sink : Sink) : Exchange → Exchange → Prop where
  /-- It takes the rows of a batch out of the channel. -/
  | receive {e : Exchange} {rows : List Row} {channel : List (List Row)}
      (hc : e.channel = rows :: channel) (hi : e.writing = []) (hw : e.written.failure = none) :
      Exchange.Step sink e { e with channel, writing := rows }
  /-- The sink accepts a row. -/
  | accept {e : Exchange} {row : Row} {rows : List Row} (hr : e.writing = row :: rows)
      (hw : e.written.failure = none) (ha : sink.failure? e.written.accepted row = none) :
      Exchange.Step sink e { e with
        writing := rows
        written := { accepted := e.written.accepted ++ [row] } }
  /-- The sink refuses a row, and the writer stops. -/
  | refuse {e : Exchange} {row : Row} {rows : List Row} {failure : SinkFailure}
      (hr : e.writing = row :: rows) (hw : e.written.failure = none)
      (ha : sink.failure? e.written.accepted row = some failure) :
      Exchange.Step sink e { e with written := { e.written with failure := some failure } }

/-- A point in the course of a scan. -/
structure ScanState where
  /-- What is still to be handed out of the input. -/
  source : LineSource
  /-- The busy workers. -/
  workers : List Worker := []
  exchange : Exchange := {}

namespace ScanState

/-- The start of a scan. -/
def start (source : LineSource) : ScanState := { source }

/-- **One event of a scan.** -/
inductive Step (c : ScanSetup) : ScanState → ScanState → Prop where
  /-- A free worker takes the next batch. -/
  | take {s : ScanState} {batch : LineBatch} {source : LineSource}
      (hfree : s.workers.length < c.threads) (h : s.source.next = .ok (some (.ok batch), source)) :
      Step c s { s with source, workers := batch.worker :: s.workers }
  /-- A free worker meets a failure of the input. -/
  | readFailure {s : ScanState} {failure : ReadFailure} {source : LineSource}
      (hfree : s.workers.length < c.threads)
      (h : s.source.next = .ok (some (.error failure), source)) :
      Step c s { s with source, exchange := s.exchange.fail .read }
  /-- A busy worker acts. -/
  | work {s : ScanState} {before after : List Worker} {w : Worker} {w' : Option Worker}
      {e : Exchange} (hw : s.workers = before ++ w :: after)
      (h : w.Step c.examiner s.exchange w' e) :
      Step c s { s with workers := before ++ w'.toList ++ after, exchange := e }
  /-- The writer acts. -/
  | write {s : ScanState} {e : Exchange} (h : s.exchange.Step c.sink e) :
      Step c s { s with exchange := e }

/-- What a number of events leads to. -/
inductive Reachable (c : ScanSetup) (source : LineSource) : ScanState → Prop where
  | start : Reachable c source (start source)
  | step {s t : ScanState} (h : Reachable c source s) (hs : Step c s t) : Reachable c source t

/-- Have the workers done their part?  None is busy, and they have taken all of the input unless one
met a failure. -/
def WorkersDone (s : ScanState) : Prop :=
  s.workers = [] ∧ (s.exchange.failure = none → ∃ source, s.source.next = .ok (none, source))

/-- Has the writer done its part?  It has stopped, or nothing is left for it. -/
def WriterDone (s : ScanState) : Prop :=
  s.exchange.written.failure ≠ none ∨ (s.exchange.channel = [] ∧ s.exchange.writing = [])

/-- Is the scan over? -/
def IsFinal (s : ScanState) : Prop := s.WorkersDone ∧ s.WriterDone

/-- **The result of a scan that is over.** -/
def result (s : ScanState) : Except ScanError ScanSummary :=
  conclude s.exchange.written s.exchange.failure s.exchange.progress

end ScanState

end SurveyQuests
