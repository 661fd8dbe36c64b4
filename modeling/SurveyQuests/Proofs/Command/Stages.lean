import SurveyQuests.Command.Course
import SurveyQuests.Proofs.Scan.Failures
import SurveyQuests.Proofs.Scan.RowLines

/-!
# The stages of a run

What a run has come to can be told, at any time, from the files that it began with: which stage it
is at, what it has opened, and what has become of the files (`RunState.Accords`).  Until the output
is created the files are as they were.  From then on nothing but the output changes, and it holds a
part of what the rows that were accepted so far are written as.

Each event leads from one stage to the next, or goes on with the scan, so there is no endless run
because there is no endless scan.  In the same way a run goes on at every stage because the scan
does, unless a batch has no room or a line aborts the program.

## What is here

* `RunSetup.Ready` — can the run come to scan an input?
* `RunState.Accords`, `RunState.Reachable.accords` — **what a run has come to**;
* `RunState.wellFounded_step` — **there is no endless run**;
* `RunState.Accords.exists_step` — **a run that is not over goes on**.
-/

set_option autoImplicit false

namespace SurveyQuests

/-- Rows that follow each other are written after each other. -/
theorem RowWriter.Takes.trans {w w' w'' : RowWriter} {rows more : List Row} (h : w.Takes rows w')
    (h' : w'.Takes more w'') : w.Takes (rows ++ more) w'' := by
  induction h with
  | nil => exact h'
  | cons count _ ih => exact .cons count (ih h')

theorem RowWriter.exists_takes (w : RowWriter) (rows : List Row) : ∃ w', w.Takes rows w' := by
  induction rows generalizing w with
  | nil => exact ⟨w, .nil⟩
  | cons row rows ih =>
    obtain ⟨w', h⟩ := ih ((w.put row.bytes).pass 0)
    exact ⟨w', .cons 0 h⟩

/-- The accepted rows only ever become more. -/
theorem ScanState.Step.exists_accepted_eq {c : ScanSetup} {s t : ScanState} (h : Step c s t) :
    ∃ rows, t.exchange.written.accepted = s.exchange.written.accepted ++ rows := by
  have hsame : s.exchange.written.accepted = s.exchange.written.accepted ++ [] :=
    (List.append_nil _).symm
  cases h with
  | take => exact ⟨[], hsame⟩
  | readFailure => exact ⟨[], hsame⟩
  | work _ h =>
    refine ⟨[], ?_⟩
    rw [h.written_eq]
    exact hsame
  | write h =>
    cases h with
    | receive => exact ⟨[], hsame⟩
    | accept => exact ⟨_, rfl⟩
    | refuse => exact ⟨[], hsame⟩

/-- Can the run come to scan this input? -/
structure RunSetup.Ready (r : RunSetup) (files : Files) (catalog : Catalog) (input : String) :
    Prop where
  catalog : r.catalog files = .ok catalog
  check : r.commandLine.check = false
  named : r.commandLine.input = some input
  content : (files.content? input).isSome = true

/-- Is there no room for a batch, or does a line of the input abort the program?  A line counts only
if it stands before a line that is not UTF-8, where the input breaks off. -/
inductive RunSetup.MeetsAbort (r : RunSetup) (files : Files) : Prop where
  | batch (h : ¬ CanReserve (max 1 r.commandLine.settings.batchSize))
  | line {input line : String} {lines : List String} {broken : Bool}
      (hinput : r.commandLine.input = some input)
      (hread : ReadsAs (((r.putOutput files []).content? input).getD []) lines broken)
      (hmem : line ∈ lines) (h : Line.Aborts line)

namespace RunState

variable {r : RunSetup} {files : Files} {s t : RunState}

/-- **What a run has come to**, told by the files that it began with. -/
inductive Accords (r : RunSetup) (files : Files) : RunState → Prop where
  | starting : Accords r files { files }
  | unloaded {e : RunError} (h : r.catalog files = .error e) :
      Accords r files ⟨files, [.catalog], .ended (.error e)⟩
  | loaded {catalog : Catalog} (h : r.catalog files = .ok catalog) :
      Accords r files ⟨files, [.catalog], .loaded catalog⟩
  | checked {catalog : Catalog} (h : r.catalog files = .ok catalog)
      (hcheck : r.commandLine.check = true) :
      Accords r files ⟨files, [.catalog], .ended (.ok none)⟩
  | noInput (hcheck : r.commandLine.check = false) (hinput : r.commandLine.input = none) :
      Accords r files ⟨files, [.catalog], .ended (.error .noInput)⟩
  | unopened {input : String} (hcheck : r.commandLine.check = false)
      (hinput : r.commandLine.input = some input) :
      Accords r files ⟨files, [.catalog, .input], .ended (.error (.inputNotOpened input))⟩
  | reading {catalog : Catalog} {input : String} (h : r.Ready files catalog input) :
      Accords r files ⟨files, [.catalog, .input], .reading catalog⟩
  | uncreated {catalog : Catalog} {input : String} {e : RunError}
      (h : r.Ready files catalog input) :
      Accords r files ⟨files, [.catalog, .input, .output], .ended (.error e)⟩
  | scanning {catalog : Catalog} {input : String} {scan : ScanState} {w : RowWriter}
      (h : r.Ready files catalog input)
      (hscan : ScanState.Reachable (r.scan catalog) (r.source (r.putOutput files []) input) scan)
      (hw : RowWriter.Takes {} scan.exchange.written.accepted w) :
      Accords r files ⟨r.putOutput files w.arrived, [.catalog, .input, .output],
        .scanning catalog scan w⟩
  | finished {catalog : Catalog} {input : String} {scan : ScanState} {w : RowWriter}
      {summary : ScanSummary} (h : r.Ready files catalog input)
      (hscan : ScanState.Reachable (r.scan catalog) (r.source (r.putOutput files []) input) scan)
      (hw : RowWriter.Takes {} scan.exchange.written.accepted w) (hfinal : scan.IsFinal)
      (hresult : scan.result = .ok summary) :
      Accords r files ⟨r.putOutput files w.finish.arrived, [.catalog, .input, .output],
        .ended (.ok (some summary))⟩
  | failed {catalog : Catalog} {input : String} {bytes : List UInt8} {e : RunError}
      (h : r.Ready files catalog input) :
      Accords r files ⟨r.putOutput files bytes, [.catalog, .input, .output], .ended (.error e)⟩

/-- **There is no endless run.** -/
theorem wellFounded_step (r : RunSetup) : WellFounded fun t s ↦ Step r s t := by
  have hended (files : Files) (opened : List RunFile)
      (result : Except RunError (Option ScanSummary)) :
      Acc (fun t s ↦ Step r s t) ⟨files, opened, .ended result⟩ :=
    ⟨_, fun _ h ↦ nomatch h⟩
  have hscanning (files : Files) (opened : List RunFile) (catalog : Catalog) (scan : ScanState)
      (w : RowWriter) : Acc (fun t s ↦ Step r s t) ⟨files, opened, .scanning catalog scan w⟩ := by
    induction scan using (ScanState.wellFounded_step (r.scan catalog)).induction
      generalizing files w with
    | _ scan ih =>
      refine ⟨_, fun t h ↦ ?_⟩
      cases h with
      | scan hstep => exact ih _ hstep _ _
      | _ => exact hended ..
  have hreading (files : Files) (opened : List RunFile) (catalog : Catalog) :
      Acc (fun t s ↦ Step r s t) ⟨files, opened, .reading catalog⟩ := by
    refine ⟨_, fun t h ↦ ?_⟩
    cases h with
    | create => exact hscanning ..
    | createFailure => exact hended ..
  have hloaded (files : Files) (opened : List RunFile) (catalog : Catalog) :
      Acc (fun t s ↦ Step r s t) ⟨files, opened, .loaded catalog⟩ := by
    refine ⟨_, fun t h ↦ ?_⟩
    cases h with
    | openInput => exact hreading ..
    | _ => exact hended ..
  refine ⟨fun ⟨files, opened, phase⟩ ↦ ?_⟩
  cases phase with
  | starting =>
    refine ⟨_, fun t h ↦ ?_⟩
    cases h with
    | load => exact hloaded ..
    | loadFailure => exact hended ..
  | loaded => exact hloaded ..
  | reading => exact hreading ..
  | scanning => exact hscanning ..
  | ended => exact hended ..

/-- **A run that is not over goes on**, if batches have room and no line of the input aborts the
program. -/
theorem Accords.exists_step (h : s.Accords r files) :
    (∃ result, s.phase = .ended result) ∨ (∃ t, Step r s t) ∨
      .output ∈ s.opened ∧ r.MeetsAbort files := by
  cases h with
  | starting =>
    cases hcatalog : r.catalog files with
    | ok catalog => exact .inr (.inl ⟨_, .load hcatalog⟩)
    | error e => exact .inr (.inl ⟨_, .loadFailure hcatalog⟩)
  | loaded =>
    by_cases hcheck : r.commandLine.check = true
    · exact .inr (.inl ⟨_, .checked hcheck⟩)
    · rw [Bool.not_eq_true] at hcheck
      cases hinput : r.commandLine.input with
      | none => exact .inr (.inl ⟨_, .noInput hcheck hinput⟩)
      | some input =>
        cases hcontent : files.content? input with
        | none => exact .inr (.inl ⟨_, .inputFailure hcheck hinput hcontent⟩)
        | some bytes => exact .inr (.inl ⟨_, .openInput hcheck hinput hcontent⟩)
  | reading hready =>
    cases hcreate : files.canCreate r.commandLine.output with
    | true => exact .inr (.inl ⟨_, .create hready.named hcreate⟩)
    | false => exact .inr (.inl ⟨_, .createFailure hcreate⟩)
  | @scanning catalog input scan w hready hscan =>
    have houtput : RunFile.output ∈ [RunFile.catalog, .input, .output] := by decide
    obtain ⟨lines, broken, hread⟩ :=
      exists_readsAs (((r.putOutput files []).content? input).getD [])
    by_cases hroom : CanReserve (max 1 r.commandLine.settings.batchSize)
    case neg => exact .inr (.inr ⟨houtput, .batch hroom⟩)
    by_cases hcalm : ∀ line ∈ lines, ¬ Line.Aborts line
    · refine .inr (.inl ?_)
      have hsize : CanReserve scan.source.batchSize := hscan.batchSize_eq ▸ hroom
      rcases (hscan.tracks hread).exists_step (c := r.scan catalog) hsize hcalm with
        hfinal | ⟨t, ht⟩
      · cases hresult : scan.result with
        | ok summary => exact ⟨_, .finish hfinal hresult⟩
        | error e => exact ⟨_, .scanFailure 0 hfinal hresult (.inl rfl)⟩
      · obtain ⟨rows, hrows⟩ := ht.exists_accepted_eq
        obtain ⟨w', hw'⟩ := w.exists_takes rows
        exact ⟨_, .scan ht hrows hw'⟩
    · push Not at hcalm
      obtain ⟨line, hline, habort⟩ := hcalm
      exact .inr (.inr ⟨houtput, .line hready.named hread hline habort⟩)
  | _ => exact .inl ⟨_, rfl⟩

end RunState

end SurveyQuests
