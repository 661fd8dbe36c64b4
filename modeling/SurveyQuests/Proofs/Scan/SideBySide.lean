import Mathlib.Order.WellFounded
import SurveyQuests.Proofs.Scan.Balance
import SurveyQuests.Proofs.Scan.Termination

/-!
# Scanning side by side is scanning line by line

On an input that is UTF-8 and has no line that aborts the program, and with a sink that accepts
every row, a scan does the same whatever the size of the batches, the number of workers and the
order of events: it cannot stop before it is over, it cannot go on for ever, and in the end the
rows, the counts and the warnings are those of the lines taken one after another.  Only the order of
the rows and of the warnings is open, and there the rows of a batch stay together.  There has to be
room for a batch of the size, though: if there is none the scan does not even begin.

No worker meets a failure in such a scan, and the lines ahead stay lines of the text
(`ScanState.Undisturbed`).  So nothing is lost, and in the end the balance of a scan says what there
is.

## What is here

* `LineSource.Holds.sum_due` — what is due of the lines of a text;
* `ScanState.Undisturbed`, `ScanState.Reachable.undisturbed`;
* `ScanState.Completes` — what a scan has done once it is over;
* `scan_side_by_side` — **every scan of a text completes, if there is room for its batches**;
* `scan_eq_ok` — the scan that takes one batch after another does the same.
-/

set_option autoImplicit false

namespace SurveyQuests

variable {c : ScanSetup}

/-! ## What is due of a text -/

theorem due_worker (x : Examiner) (batch : LineBatch) :
    batch.worker.due x =
      ({batch.lines.flatMap x.rowsOf}, batch.lines.countP Line.isRecord,
        batch.lines.countP Line.isMalformed,
        (Line.malformedFrom batch.firstLine batch.lines : Multiset ℕ)) := by
  rw [LineBatch.worker, Worker.due, BatchOutcome.empty_append, Examiner.outcomeOf,
    Line.length_malformedFrom]

/-- **What is due of lines**, taken in batches. -/
theorem LineSource.Holds.sum_due (x : Examiner) {s : LineSource} {lines : List String} {size : ℕ}
    (h : s.Holds lines) (hsize : s.batchSize = size) :
    (s.batches.map fun batch ↦ batch.worker.due x).sum =
      (((chunks size lines).map (·.flatMap x.rowsOf) : Multiset (List Row)),
        lines.countP Line.isRecord, lines.countP Line.isMalformed,
        (Line.malformedFrom s.nextLine lines : Multiset ℕ)) := by
  induction lines using chunks.induct size generalizing s with
  | case1 =>
    obtain ⟨s', hnext⟩ := LineSource.next_of_holds_nil h
    rw [LineSource.batches_of_next_eq_none hnext, chunks]
    rfl
  | case2 line lines ih =>
    obtain ⟨s', hnext, hholds, hsize', hline⟩ := LineSource.next_of_holds_cons h
    rw [hsize] at hnext hholds hsize' hline
    have hsplit : line :: lines =
        (line :: lines.take (size - 1)) ++ lines.drop (size - 1) := by
      rw [List.cons_append, List.take_append_drop]
    have hrecords := congrArg (List.countP Line.isRecord) hsplit
    have hmalformed := congrArg (List.countP Line.isMalformed) hsplit
    have hwarned := congrArg (Line.malformedFrom s.nextLine) hsplit
    rw [List.countP_append] at hrecords hmalformed
    rw [Line.malformedFrom_append, ← hline] at hwarned
    rw [LineSource.batches_of_next_eq_batch hnext, List.map_cons, List.sum_cons, due_worker,
      ih hholds hsize', chunks, hrecords, hmalformed, hwarned, List.map_cons, ← Multiset.cons_coe,
      ← Multiset.singleton_add, ← Multiset.coe_add]
    rfl

/-! ## No failures -/

/-- Has there been no failure, and will no line that is ahead abort the program? -/
structure ScanState.Undisturbed (s : ScanState) : Prop where
  source : ∃ lines, s.source.Holds lines ∧ ∀ line ∈ lines, ¬ Line.Aborts line
  workers : ∀ w ∈ s.workers, ∀ line ∈ w.lines, ¬ Line.Aborts line
  failure : s.exchange.failure = none
  written : s.exchange.written.failure = none

/-- A worker that can send does not fail. -/
theorem Worker.Step.undisturbed {x : Examiner} {w : Worker} {w' : Option Worker} {e e' : Exchange}
    (h : w.Step x e w' e') (hw : e.written.failure = none) : e'.failure = e.failure := by
  cases h with
  | sendFailure _ hstopped => exact absurd hw hstopped
  | _ => rfl

/-- A writer whose sink accepts every row does not fail. -/
theorem Exchange.Step.undisturbed {sink : Sink} {e e' : Exchange} (h : e.Step sink e')
    (hsink : ∀ accepted row, sink.failure? accepted row = none) :
    e'.failure = e.failure ∧ e'.written.failure = none := by
  cases h with
  | receive _ _ hw => exact ⟨rfl, hw⟩
  | accept => exact ⟨rfl, rfl⟩
  | @refuse row rows failure _ _ hrefused =>
    rw [hsink] at hrefused
    cases hrefused

namespace ScanState

theorem undisturbed_start {bs : List UInt8} {text : String} {batchSize : ℕ}
    (htext : decodeText? bs = some text) (hcalm : ∀ line ∈ textLines text, ¬ Line.Aborts line)
    (hroom : CanReserve (max 1 batchSize)) : (start (.ofBytes bs batchSize)).Undisturbed where
  source := ⟨textLines text, LineSource.holds_ofBytes htext hroom, hcalm⟩
  workers := fun _ hw ↦ nomatch hw
  failure := rfl
  written := rfl

theorem Step.undisturbed {s t : ScanState} (h : Step c s t)
    (hsink : ∀ accepted row, c.sink.failure? accepted row = none) (hs : s.Undisturbed) :
    t.Undisturbed := by
  obtain ⟨⟨lines, hholds, hlines⟩, hworkers, hf, hw⟩ := hs
  cases h with
  | @take batch source _ hnext =>
    cases lines with
    | nil =>
      obtain ⟨s', hnone⟩ := LineSource.next_of_holds_nil hholds
      rw [hnext] at hnone
      cases hnone
    | cons line lines =>
      obtain ⟨s', hnext', hholds', -⟩ := LineSource.next_of_holds_cons hholds
      rw [hnext] at hnext'
      cases hnext'
      refine ⟨⟨_, hholds', ?_⟩, ?_, hf, hw⟩
      · exact fun l hl ↦ hlines l (List.mem_cons_of_mem line (List.mem_of_mem_drop hl))
      · intro w hmem l hl
        rcases List.mem_cons.1 hmem with rfl | hmem
        · rcases List.mem_cons.1 hl with rfl | hl
          · exact hlines l List.mem_cons_self
          · exact hlines l (List.mem_cons_of_mem line (List.mem_of_mem_take hl))
        · exact hworkers w hmem l hl
  | readFailure _ hnext =>
    cases lines with
    | nil =>
      obtain ⟨s', hnone⟩ := LineSource.next_of_holds_nil hholds
      rw [hnext] at hnone
      cases hnone
    | cons line lines =>
      obtain ⟨s', hnext', -⟩ := LineSource.next_of_holds_cons hholds
      rw [hnext] at hnext'
      cases hnext'
  | @work before after w w' e hmem h =>
    rw [hmem] at hworkers
    exact ⟨⟨lines, hholds, hlines⟩, h.forall_lines hworkers, (h.undisturbed hw).trans hf,
      by rw [h.written_eq, hw]⟩
  | write h =>
    obtain ⟨hfailure, hwritten⟩ := h.undisturbed hsink
    exact ⟨⟨lines, hholds, hlines⟩, hworkers, hfailure.trans hf, hwritten⟩

/-- **No failure is met on the way.** -/
theorem Reachable.undisturbed {source : LineSource} {s : ScanState} (h : Reachable c source s)
    (hsink : ∀ accepted row, c.sink.failure? accepted row = none)
    (hstart : (ScanState.start source).Undisturbed) : s.Undisturbed := by
  induction h with
  | start => exact hstart
  | step _ hstep ih => exact hstep.undisturbed hsink ih

/-- An undisturbed scan that is not over goes on. -/
theorem Undisturbed.exists_step {s : ScanState} (hs : s.Undisturbed) :
    s.IsFinal ∨ ∃ t, Step c s t := by
  obtain ⟨lines, hholds, -⟩ := hs.source
  refine ScanState.exists_step hholds.room fun w hw line hline number ↦ ?_
  exact ⟨_, c.examiner.lineOutcome_eq_ok number (hs.workers w hw line hline)⟩

/-- **Every point of such a scan leads to its end.** -/
theorem Reachable.exists_isFinal {source : LineSource} {s : ScanState} (h : Reachable c source s)
    (hsink : ∀ accepted row, c.sink.failure? accepted row = none)
    (hstart : (ScanState.start source).Undisturbed) : ∃ t, Reachable c source t ∧ t.IsFinal := by
  induction s using (wellFounded_step c).induction with
  | _ s ih =>
    rcases (h.undisturbed hsink hstart).exists_step (c := c) with hfinal | ⟨t, ht⟩
    · exact ⟨s, h, hfinal⟩
    · exact ih t ht (.step h ht)

end ScanState

/-! ## What a scan has done -/

theorem conclude_eq_ok {written : Written} {progress : ScanProgress}
    (h : written.failure = none) :
    conclude written none progress =
      .ok ⟨progress.records, progress.malformed, written.accepted.length⟩ := by
  obtain ⟨accepted, failure⟩ := written
  obtain rfl : failure = none := h
  rfl

namespace ScanState

/-- Has the scan done what is to be done of these lines?  The result are the counts of records, of
lines that are neither blank nor records, and of rows; the rows of each batch were accepted
together, in the order of its lines; and a warning was given once about each line that is neither
blank nor a record, by its number in the whole input. -/
structure Completes (x : Examiner) (batchSize : ℕ) (lines : List String) (s : ScanState) :
    Prop where
  result : s.result = .ok
    ⟨lines.countP Line.isRecord, lines.countP Line.isMalformed, (lines.flatMap x.rowsOf).length⟩
  rows : s.exchange.written.accepted.Perm (lines.flatMap x.rowsOf)
  batches : ∃ groups : List (List Row),
    groups.Perm ((chunks (max 1 batchSize) lines).map (·.flatMap x.rowsOf)) ∧
      s.exchange.written.accepted = groups.flatten
  warned : s.exchange.warned.Perm (Line.malformedFrom 1 lines)
  warnedOnce : s.exchange.warned.Nodup

theorem due_start (x : Examiner) (source : LineSource) :
    (start source).due x = (source.batches.map fun batch ↦ batch.worker.due x).sum := by
  rw [due, start, List.map_nil, List.sum_nil, zero_add]

theorem flatten_chunks_rows (x : Examiner) (size : ℕ) (lines : List String) :
    ((chunks size lines).map (·.flatMap x.rowsOf)).flatten = lines.flatMap x.rowsOf := by
  conv_rhs => rw [← flatten_chunks size lines]
  rw [← List.flatMap_def, List.flatten_eq_flatMap, List.flatMap_assoc]
  rfl

/-- An undisturbed scan that is over has done what is to be done. -/
theorem Undisturbed.completes {s : ScanState} {bs : List UInt8} {text : String} {batchSize : ℕ}
    (hs : s.Undisturbed) (htext : decodeText? bs = some text)
    (hroom : CanReserve (max 1 batchSize)) (hreachable : Reachable c (.ofBytes bs batchSize) s)
    (hfinal : s.IsFinal) :
    s.Completes c.examiner batchSize (textLines text) := by
  obtain ⟨sent, haccepted, htally⟩ :=
    (hreachable.balanced hs.written).of_isFinal hfinal hs.written hs.failure
  rw [due_start, (LineSource.holds_ofBytes htext hroom).sum_due c.examiner rfl,
    Exchange.tally] at htally
  simp only [Prod.mk.injEq, Multiset.coe_eq_coe] at htally
  obtain ⟨hgroups, hrecords, hmalformed, hwarned⟩ := htally
  have hrows : s.exchange.written.accepted.Perm ((textLines text).flatMap c.examiner.rowsOf) := by
    rw [haccepted, ← flatten_chunks_rows c.examiner (max 1 batchSize)]
    exact hgroups.flatten
  have honce : s.exchange.warned.Nodup :=
    hwarned.nodup_iff.2 (Line.nodup_malformedFrom 1 (textLines text))
  refine ⟨?_, hrows, ⟨sent, hgroups, haccepted⟩, hwarned, honce⟩
  rw [result, hs.failure, conclude_eq_ok hs.written, hrecords, hmalformed, hrows.length_eq]

end ScanState

/-- Without room for a batch there is no outcome. -/
theorem scan_of_not_canReserve (x : Examiner) (sink : Sink) (bs : List UInt8) {batchSize : ℕ}
    (hroom : ¬ CanReserve (max 1 batchSize)) :
    scan x sink (.ofBytes bs batchSize) = .error .capacityOverflow := by
  rw [scan, LineSource.toList_of_next_eq_error (LineSource.next_ofBytes_of_not_canReserve bs hroom)]
  rfl

/-- **Every scan of a text completes, if there is room for its batches.**  Whatever the input, as
long as it is UTF-8 and none of its lines aborts the program, whatever the catalog, the day of
reference, the size of the batches and the number of workers, and in whatever order the workers and
the writer act: with a sink that accepts every row, a scan that is not over goes on, no scan goes on
for ever, and a scan that is over has done what is to be done of the lines.  Without room for a
batch nothing is done, no scan is ever over, and the program aborts. -/
theorem scan_side_by_side {bs : List UInt8} {text : String} {batchSize : ℕ} {s : ScanState}
    (htext : decodeText? bs = some text) (hcalm : ∀ line ∈ textLines text, ¬ Line.Aborts line)
    (hsink : ∀ accepted row, c.sink.failure? accepted row = none)
    (hs : ScanState.Reachable c (.ofBytes bs batchSize) s) :
    (CanReserve (max 1 batchSize) →
      (s.IsFinal ∨ ∃ t, ScanState.Step c s t) ∧
        (¬ ∃ run : ℕ → ScanState, run 0 = s ∧ ∀ n, ScanState.Step c (run n) (run (n + 1))) ∧
        (s.IsFinal → s.Completes c.examiner batchSize (textLines text))) ∧
      (¬ CanReserve (max 1 batchSize) →
        s = .start (.ofBytes bs batchSize) ∧ ¬ s.IsFinal ∧ (∀ t, ¬ ScanState.Step c s t) ∧
          scan c.examiner c.sink (.ofBytes bs batchSize) = .error .capacityOverflow) := by
  refine ⟨fun hroom ↦ ?_, fun hroom ↦ ?_⟩
  · have hundisturbed := hs.undisturbed hsink (ScanState.undisturbed_start htext hcalm hroom)
    refine ⟨hundisturbed.exists_step, ?_, hundisturbed.completes htext hroom hs⟩
    rintro ⟨run, -, hrun⟩
    exact (wellFounded_iff_isEmpty_descending_chain.1 (ScanState.wellFounded_step c)).false
      ⟨run, hrun⟩
  · have hstart := hs.eq_start hroom
    refine ⟨hstart, hs.not_isFinal hroom, fun t ↦ ?_, scan_of_not_canReserve _ _ bs hroom⟩
    rw [hstart]
    exact ScanState.not_step_start hroom

/-- Three lines in batches of two, by two workers: a blank line, a line that is no record, and the
record of a node, for which a quest about all nodes holds. -/
theorem scan_side_by_side_node :
    let quest : Quest := ⟨"any", ⟨"nodes", ⟨.ofList [.node], .always⟩, .conservative⟩, none, none,
      .everywhere⟩
    let setup : ScanSetup :=
      ⟨⟨{ quests := [quest] }, ⟨2024, 1, 1, by decide⟩⟩, .reliable, 2, Nat.two_pos⟩
    ∃ s, ScanState.Reachable setup
        (.ofBytes (utf8Bytes "\n?\n[\"node\"]\n".toList) 2) s ∧ s.IsFinal ∧
      s.result = .ok ⟨1, 1, 1⟩ ∧ s.exchange.written.accepted = [⟨"any", .node, 0⟩] ∧
      s.exchange.warned = [2] := by
  intro quest setup
  have htext : decodeText? (utf8Bytes "\n?\n[\"node\"]\n".toList) = some "\n?\n[\"node\"]\n" :=
    decodeText?_eq_some_iff.2 rfl
  have hcalm : ∀ line ∈ textLines "\n?\n[\"node\"]\n", ¬ Line.Aborts line := by
    decide +kernel
  have hsink : ∀ accepted row, setup.sink.failure? accepted row = none := fun _ _ ↦ rfl
  have hroom : CanReserve (max 1 2) := by decide
  obtain ⟨s, hs, hfinal⟩ := ScanState.Reachable.exists_isFinal .start hsink
    (ScanState.undisturbed_start htext hcalm hroom)
  have h := ((scan_side_by_side htext hcalm hsink hs).1 hroom).2.2 hfinal
  have hrows : (textLines "\n?\n[\"node\"]\n").flatMap setup.examiner.rowsOf =
      [⟨"any", .node, 0⟩] := by
    decide +kernel
  have hwarned : Line.malformedFrom 1 (textLines "\n?\n[\"node\"]\n") = [2] := by decide +kernel
  refine ⟨s, hs, hfinal, ?_, ?_, ?_⟩
  · rw [h.result, hrows]
    decide +kernel
  · exact List.perm_singleton.1 (hrows ▸ h.rows)
  · exact List.perm_singleton.1 (hwarned ▸ h.warned)

/-- The record of a node, read in batches for which there is no room: the sink accepts every row and
the line is harmless, but the scan does not begin. -/
theorem scan_not_begun :
    let quest : Quest := ⟨"any", ⟨"nodes", ⟨.ofList [.node], .always⟩, .conservative⟩, none, none,
      .everywhere⟩
    let setup : ScanSetup :=
      ⟨⟨{ quests := [quest] }, ⟨2024, 1, 1, by decide⟩⟩, .reliable, 2, Nat.two_pos⟩
    let text := "\x7b\"type\":\"node\",\"id\":1\x7d\n"
    let source : LineSource := .ofBytes (utf8Bytes text.toList) 9223372036854775807
    decodeText? (utf8Bytes text.toList) = some text ∧
      (∀ line ∈ textLines text, ¬ Line.Aborts line) ∧
      (∀ accepted row, setup.sink.failure? accepted row = none) ∧
      ∀ s, ScanState.Reachable setup source s → ¬ s.IsFinal ∧ ∀ t, ¬ ScanState.Step setup s t := by
  intro quest setup text source
  have hroom : ¬ CanReserve (max 1 9223372036854775807) := by decide
  refine ⟨decodeText?_eq_some_iff.2 rfl, by decide +kernel, fun _ _ ↦ rfl, fun s hs ↦ ?_⟩
  refine ⟨hs.not_isFinal hroom, ?_⟩
  rw [hs.eq_start hroom]
  exact fun _ ↦ ScanState.not_step_start hroom

/-! ## One batch after another -/

theorem evaluateAll_of_holds (x : Examiner) {s : LineSource} {lines : List String} {size : ℕ}
    (h : s.Holds lines) (hsize : s.batchSize = size)
    (hcalm : ∀ line ∈ lines, ¬ Line.Aborts line) :
    ∃ items, s.toList = .ok items ∧
      evaluateAll x items = .ok (x.outcomeOf s.nextLine lines, none) := by
  induction lines using chunks.induct size generalizing s with
  | case1 =>
    obtain ⟨s', hnext⟩ := LineSource.next_of_holds_nil h
    exact ⟨[], LineSource.toList_of_next_eq_none hnext, rfl⟩
  | case2 line lines ih =>
    obtain ⟨s', hnext, hholds, hsize', hline⟩ := LineSource.next_of_holds_cons h
    rw [hsize] at hnext hholds hsize' hline
    have hsplit : line :: lines =
        (line :: lines.take (size - 1)) ++ lines.drop (size - 1) := by
      rw [List.cons_append, List.take_append_drop]
    have hfirst : x.batchOutcome ⟨s.nextLine, line :: lines.take (size - 1)⟩ =
        .ok (x.outcomeOf s.nextLine (line :: lines.take (size - 1))) := by
      refine x.outcomeFrom_eq_ok s.nextLine fun l hl ↦ hcalm l ?_
      rw [hsplit]
      exact List.mem_append_left _ hl
    obtain ⟨items, hitems, hrest⟩ := ih hholds hsize' fun l hl ↦
      hcalm l (List.mem_cons_of_mem line (List.mem_of_mem_drop hl))
    have hall := congrArg (x.outcomeOf s.nextLine) hsplit
    rw [x.outcomeOf_append, ← hline] at hall
    refine ⟨_, by rw [LineSource.toList_of_next_eq_some hnext, hitems]; rfl, ?_⟩
    rw [evaluateAll, hfirst, hrest, hall]
    rfl

theorem Sink.write_of_accepts {sink : Sink} (h : ∀ accepted row, sink.failure? accepted row = none)
    (accepted rows : List Row) : sink.write accepted rows = { accepted := accepted ++ rows } := by
  induction rows generalizing accepted with
  | nil => rw [write, List.append_nil]
  | cons row rows ih => rw [write, h, ih, List.append_assoc, List.singleton_append]

/-- **The scan that takes one batch after another** does what is to be done of the lines, and gives
the rows and the warnings in the order of the lines. -/
theorem scan_eq_ok (x : Examiner) {sink : Sink} {bs : List UInt8} {text : String}
    {batchSize : ℕ} (htext : decodeText? bs = some text)
    (hcalm : ∀ line ∈ textLines text, ¬ Line.Aborts line) (hroom : CanReserve (max 1 batchSize))
    (hsink : ∀ accepted row, sink.failure? accepted row = none) :
    scan x sink (.ofBytes bs batchSize) = .ok {
      result := .ok ⟨(textLines text).countP Line.isRecord,
        (textLines text).countP Line.isMalformed, ((textLines text).flatMap x.rowsOf).length⟩
      accepted := (textLines text).flatMap x.rowsOf
      malformed := Line.malformedFrom 1 (textLines text) } := by
  have hholds := LineSource.holds_ofBytes htext hroom
  obtain ⟨items, hitems, hall⟩ := evaluateAll_of_holds x hholds rfl hcalm
  let outcome := x.outcomeOf 1 (textLines text)
  have hscan : scan x sink (.ofBytes bs batchSize) = .ok {
      result := conclude (sink.write [] outcome.rows) none
        (ScanProgress.add {} outcome.records outcome.malformed.length)
      accepted := (sink.write [] outcome.rows).accepted
      malformed := outcome.malformed } := by
    rw [scan, hitems]
    change (evaluateAll x items >>= _) = _
    rw [hall]
    rfl
  have hmalformed : outcome.malformed.length = (textLines text).countP Line.isMalformed :=
    Line.length_malformedFrom 1 (textLines text)
  rw [hscan, Sink.write_of_accepts hsink, conclude_eq_ok rfl]
  simp only [ScanProgress.add, Nat.zero_add, List.nil_append, hmalformed]
  rfl

end SurveyQuests
