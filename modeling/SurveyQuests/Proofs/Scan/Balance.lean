import Mathlib.Algebra.BigOperators.Group.Multiset.Basic
import Mathlib.Algebra.Order.Group.Multiset
import Mathlib.Tactic.Abel
import SurveyQuests.Proofs.Scan.Lines
import SurveyQuests.Proofs.Scan.Outcome
import SurveyQuests.Scan.Schedule

/-!
# Nothing is lost in a scan

Whatever the workers and the writer do, the rows that have come out of the channel or are in it, the
counts and the warnings, taken together with what the workers and the input are still *due*, stay
the same: an action only moves something from one place to another.  The single exception are rows
that cannot be sent since the writer has stopped.

What is balanced is a `Tally`: the rows of each batch as a group, the count of records, the count of
lines without a record, and the numbers of the lines that a warning is about.  The groups that have
been sent are not remembered in the state.  They are those whose rows make up, in their order, all
rows that were accepted, are being written, or are in the channel (`Exchange.Carries`).

## What is here

* `Tally`, `Worker.due`, `ScanState.due`, `Exchange.tally`;
* `Worker.Step.balanced`, `Exchange.Step.balanced`, `ScanState.Step.balanced` — one event;
* `ScanState.Reachable.balanced` — any number of events;
* `ScanState.Balanced.of_isFinal` — what is left in the end.
-/

set_option autoImplicit false

namespace SurveyQuests

/-- Rows in groups, the count of records, the count of lines without a record, and the numbers of
the lines that a warning is about. -/
abbrev Tally : Type := Multiset (List Row) × ℕ × ℕ × Multiset ℕ

/-! ## What is due -/

/-- What a worker will add: of the lines ahead all, of the lines it has looked at all but the
warnings. -/
def Worker.due (x : Examiner) : Worker → Tally
  | .looking number lines outcome =>
    let ahead := x.outcomeOf number lines
    ({(outcome.append ahead).rows}, (outcome.append ahead).records,
      (outcome.append ahead).malformed.length, (ahead.malformed : Multiset ℕ))
  | .counting outcome => ({outcome.rows}, outcome.records, 0, 0)
  | .sending rows => ({rows}, 0, 0, 0)

/-- The batches that will be handed out; there are none if the program aborts. -/
def LineSource.batches (s : LineSource) : List LineBatch :=
  (s.toList.toOption.getD []).filterMap Except.toOption

namespace LineSource

variable {s s' : LineSource}

theorem batches_of_next_eq_error {abort : Abort} (h : s.next = .error abort) : s.batches = [] := by
  rw [batches, toList_of_next_eq_error h]
  rfl

theorem batches_of_next_eq_none (h : s.next = .ok (none, s')) : s.batches = [] := by
  rw [batches, toList_of_next_eq_none h]
  rfl

/-- What was handed out stays in front of what is handed out next. -/
theorem batches_of_next_eq_some {item : Except ReadFailure LineBatch}
    (h : s.next = .ok (some item, s')) :
    s.batches = item.toOption.toList ++ s'.batches := by
  have hroom : CanReserve s'.batchSize := by
    rw [batchSize_of_next_eq_some h]
    exact (read_of_next_eq_some h).2
  obtain ⟨items, hitems⟩ := exists_toList_eq_ok hroom
  rw [batches, batches, toList_of_next_eq_some h, hitems]
  cases item <;> rfl

theorem batches_of_next_eq_batch {batch : LineBatch} (h : s.next = .ok (some (.ok batch), s')) :
    s.batches = batch :: s'.batches :=
  batches_of_next_eq_some h

theorem batches_of_next_eq_failure {failure : ReadFailure}
    (h : s.next = .ok (some (.error failure), s')) : s.batches = s'.batches :=
  batches_of_next_eq_some h

end LineSource

/-- What the workers and the input will add. -/
def ScanState.due (x : Examiner) (s : ScanState) : Tally :=
  (s.workers.map (·.due x)).sum + (s.source.batches.map fun batch ↦ batch.worker.due x).sum

/-! ## What is there -/

/-- What has been added, given the groups of rows that were sent. -/
def Exchange.tally (e : Exchange) (sent : List (List Row)) : Tally :=
  ((sent : Multiset (List Row)), e.progress.records, e.progress.malformed, (e.warned : Multiset ℕ))

/-- Are the rows of these groups the ones that were accepted, are being written, or are in the
channel, in this order? -/
def Exchange.Carries (e : Exchange) (sent : List (List Row)) : Prop :=
  sent.flatten = e.written.accepted ++ (e.writing ++ e.channel.flatten)

/-! ## One action -/

variable {x : Examiner} {sink : Sink} {c : ScanSetup}

/-- An action of a worker never makes up for a failure of the writer. -/
theorem Worker.Step.written_eq {w : Worker} {w' : Option Worker} {e e' : Exchange}
    (h : w.Step x e w' e') : e'.written = e.written := by
  cases h <;> rfl

/-- **What a worker adds is no longer due.** -/
theorem Worker.Step.balanced {w : Worker} {w' : Option Worker} {e e' : Exchange}
    {sent : List (List Row)} (h : w.Step x e w' e') (hw : e.written.failure = none)
    (hsent : e.Carries sent) :
    ∃ sent', e'.Carries sent' ∧
      e'.tally sent' + (w'.elim 0 (·.due x)) = e.tally sent + w.due x := by
  cases h with
  | @look number line lines outcome o e h =>
    refine ⟨sent, hsent, ?_⟩
    have ho := x.eq_outcomeOf_of_lineOutcome h
    have hall : (outcome.append o).append (x.outcomeOf (number + 1) lines) =
        outcome.append (x.outcomeOf number (line :: lines)) := by
      rw [x.outcomeOf_cons number line lines, ho, BatchOutcome.append_assoc]
    have hwarned : (x.outcomeOf number (line :: lines)).malformed =
        o.malformed ++ (x.outcomeOf (number + 1) lines).malformed := by
      rw [x.outcomeOf_cons number line lines, ho]
      rfl
    simp only [Option.elim, Worker.due, Exchange.tally, hall, hwarned, ← Multiset.coe_add,
      Prod.mk_add_mk, add_assoc]
  | @countMalformed number outcome e =>
    refine ⟨sent, hsent, ?_⟩
    simp [Option.elim, Worker.due, Exchange.tally, ScanProgress.add, BatchOutcome.append,
      Examiner.outcomeOf, Line.malformedFrom_nil]
  | @countRecords outcome e =>
    refine ⟨sent, hsent, ?_⟩
    simp [Option.elim, Worker.due, Exchange.tally, ScanProgress.add]
  | skip =>
    refine ⟨sent ++ [[]], ?_, ?_⟩
    · rw [Exchange.Carries, List.flatten_append, List.flatten_singleton, List.append_nil]
      exact hsent
    · simp [Option.elim, Worker.due, Exchange.tally, ← Multiset.coe_add]
  | @send rows e hrows _ hroom =>
    refine ⟨sent ++ [rows], ?_, ?_⟩
    · rw [Exchange.Carries] at hsent ⊢
      simp [hsent]
    · simp [Option.elim, Worker.due, Exchange.tally, ← Multiset.coe_add]
  | sendFailure _ hstopped => exact absurd hw hstopped

/-- **The writer moves rows in their order.** -/
theorem Exchange.Step.balanced {e e' : Exchange} {sent : List (List Row)} (h : e.Step sink e')
    (hsent : e.Carries sent) : e'.Carries sent ∧ e'.tally sent = e.tally sent := by
  refine ⟨?_, ?_⟩
  · rw [Exchange.Carries] at hsent ⊢
    cases h with
    | receive hc hi => simp [hsent, hc, hi]
    | accept hr => simp [hsent, hr]
    | refuse => exact hsent
  · cases h <;> rfl

/-- The writer does not go on after a failure. -/
theorem Exchange.Step.written_failure {e e' : Exchange} (h : e.Step sink e') :
    e.written.failure = none := by
  cases h with
  | receive _ _ hw => exact hw
  | accept _ hw => exact hw
  | refuse _ hw => exact hw

/-! ## One event -/

namespace ScanState

/-- **Is all that was to come of the input either there or due?** -/
def Balanced (x : Examiner) (total : Tally) (s : ScanState) : Prop :=
  ∃ sent, s.exchange.Carries sent ∧ s.exchange.tally sent + s.due x = total

theorem Step.written_failure {s t : ScanState} (h : Step c s t)
    (ht : t.exchange.written.failure = none) : s.exchange.written.failure = none := by
  cases h with
  | take => exact ht
  | readFailure => exact ht
  | work _ h => rw [← h.written_eq, ht]
  | write h => exact h.written_failure

theorem due_append (x : Examiner) (s : ScanState) (before ws after : List Worker) (e : Exchange) :
    due x { s with workers := before ++ ws ++ after, exchange := e } =
      (ws.map (·.due x)).sum + due x { s with workers := before ++ after } := by
  simp only [due, List.map_append, List.sum_append]
  abel

/-- **One event keeps the balance** as long as the sink accepts what it is given. -/
theorem Step.balanced {s t : ScanState} {total : Tally} (h : Step c s t)
    (ht : t.exchange.written.failure = none) (hs : s.Balanced c.examiner total) :
    t.Balanced c.examiner total := by
  have hw := h.written_failure ht
  obtain ⟨sent, hsent, htotal⟩ := hs
  cases h with
  | take _ h =>
    refine ⟨sent, hsent, ?_⟩
    rw [← htotal, due, due, LineSource.batches_of_next_eq_batch h, List.map_cons, List.map_cons,
      List.sum_cons, List.sum_cons]
    abel
  | readFailure _ h =>
    refine ⟨sent, hsent, ?_⟩
    rw [← htotal, due, due, LineSource.batches_of_next_eq_failure h]
    rfl
  | @work before after w w' e hworkers h =>
    obtain ⟨sent', hsent', hadd⟩ := h.balanced hw hsent
    refine ⟨sent', hsent', ?_⟩
    have hdue : s.due c.examiner =
        w.due c.examiner + due c.examiner { s with workers := before ++ after } := by
      have := due_append c.examiner s before [w] after s.exchange
      rw [List.append_assoc, List.singleton_append, ← hworkers] at this
      simpa using this
    have hw' : (w'.toList.map (·.due c.examiner)).sum = w'.elim 0 (·.due c.examiner) := by
      cases w' <;> simp
    rw [due_append, hw', ← htotal, hdue, ← add_assoc, ← add_assoc, hadd]
  | write h =>
    obtain ⟨hsent', htally⟩ := h.balanced hsent
    exact ⟨sent, hsent', by rw [htally, ← htotal]; rfl⟩

/-! ## Any number of events -/

theorem balanced_start (x : Examiner) (source : LineSource) :
    (start source).Balanced x ((start source).due x) := by
  refine ⟨[], rfl, ?_⟩
  have htally : (start source).exchange.tally [] = 0 := rfl
  rw [htally, zero_add]

/-- **A scan keeps the balance** as long as the sink accepts what it is given. -/
theorem Reachable.balanced {source : LineSource} {s : ScanState} (h : Reachable c source s)
    (hs : s.exchange.written.failure = none) :
    s.Balanced c.examiner ((ScanState.start source).due c.examiner) := by
  induction h with
  | start => exact balanced_start c.examiner source
  | step _ hstep ih => exact hstep.balanced hs (ih (hstep.written_failure hs))

/-- **In the end all is there**, and the rows of a batch were accepted together. -/
theorem Balanced.of_isFinal {s : ScanState} {total : Tally} (h : s.Balanced x total)
    (hfinal : s.IsFinal) (hw : s.exchange.written.failure = none)
    (hf : s.exchange.failure = none) :
    ∃ sent, s.exchange.written.accepted = sent.flatten ∧ s.exchange.tally sent = total := by
  obtain ⟨sent, hsent, htotal⟩ := h
  obtain ⟨⟨hworkers, hsource⟩, hwriter⟩ := hfinal
  obtain ⟨hchannel, hwriting⟩ := hwriter.resolve_left fun hstopped ↦ hstopped hw
  have hdue : s.due x = 0 := by
    obtain ⟨source, hnext⟩ := hsource hf
    rw [due, hworkers, LineSource.batches_of_next_eq_none hnext]
    rfl
  refine ⟨sent, ?_, by rw [← htotal, hdue, add_zero]⟩
  rw [Exchange.Carries, hchannel, hwriting] at hsent
  simpa using hsent.symm

end ScanState

end SurveyQuests
