import Mathlib.Algebra.GroupWithZero.Nat
import Mathlib.Data.Prod.Lex
import SurveyQuests.Proofs.Scan.Lines
import SurveyQuests.Scan.Schedule

/-!
# Every scan comes to an end

No event can go on for ever, whatever the input and the sink.  What counts is the work ahead: every
byte of the input that is left weighs more than a line that a worker has taken, a line more than a
batch of rows in the channel, and a batch of rows in the channel more than any number of rows that
the writer is at.

A scan that is not over has a next event, unless a worker has come to a line that aborts the program
or cannot reserve room for a batch.  The room is the same for all batches, so if there is none for
the first one nothing happens at all.

## What is here

* `ScanState.wellFounded_step` — **there is no endless scan**;
* `ScanState.exists_step` — **a scan that is not over goes on**;
* `ScanState.Reachable.eq_start` — without room for a batch a scan stays at its start.
-/

set_option autoImplicit false

namespace SurveyQuests

variable {c : ScanSetup}

/-! ## The work ahead -/

/-- The number of actions ahead of a worker, and one for the batch that it may send. -/
def Worker.weight : Worker → ℕ
  | .looking _ lines _ => lines.length + 4
  | .counting _ => 3
  | .sending _ => 2

theorem Worker.Step.weight_lt {x : Examiner} {w : Worker} {w' : Option Worker} {e e' : Exchange}
    (h : w.Step x e w' e') :
    w'.elim 0 Worker.weight + e'.channel.length < w.weight + e.channel.length := by
  cases h <;> simp [Worker.weight, Exchange.fail]
  omega

namespace ScanState

/-- The work ahead up to the channel. -/
def load (s : ScanState) : ℕ :=
  6 * s.source.bytes.length + (s.workers.map Worker.weight).sum + s.exchange.channel.length

/-- The work ahead of the writer, once it has taken rows out of the channel. -/
def writerLoad (s : ScanState) : ℕ :=
  s.exchange.writing.length + if s.exchange.written.failure = none then 1 else 0

theorem Step.load_lt {s t : ScanState} (h : Step c s t) :
    t.load < s.load ∨ t.load = s.load ∧ t.writerLoad < s.writerLoad := by
  cases h with
  | @take batch source _ h =>
    left
    obtain ⟨hne, hle⟩ := LineSource.length_of_next_eq_batch h
    have hpos := List.length_pos_iff.2 hne
    simp only [load, List.map_cons, List.sum_cons, LineBatch.worker, Worker.weight]
    omega
  | readFailure _ h =>
    left
    have hlt := (LineSource.done_of_next_eq_failure h).2
    simp only [load, Exchange.fail]
    omega
  | @work before after w w' e hw h =>
    left
    have hlt := h.weight_lt
    have hw' : (w'.toList.map Worker.weight).sum = w'.elim 0 Worker.weight := by
      cases w' <;> simp
    simp only [load, hw, List.map_append, List.map_cons, List.sum_append, List.sum_cons, hw']
    omega
  | write h =>
    cases h with
    | receive hc =>
      left
      simp only [load, hc, List.length_cons]
      omega
    | accept hr hw =>
      right
      refine ⟨rfl, ?_⟩
      simp [writerLoad, hr, hw]
    | refuse hr hw =>
      right
      refine ⟨rfl, ?_⟩
      simp [writerLoad, hw]

/-- **There is no endless scan.** -/
theorem wellFounded_step (c : ScanSetup) : WellFounded fun t s : ScanState ↦ Step c s t := by
  have hlex : WellFounded (Prod.Lex (fun a b : ℕ ↦ a < b) fun a b : ℕ ↦ a < b) :=
    WellFounded.prod_lex Nat.lt_wfRel.wf Nat.lt_wfRel.wf
  refine Subrelation.wf ?_ (InvImage.wf (fun s : ScanState ↦ (s.load, s.writerLoad)) hlex)
  intro t s h
  rcases h.load_lt with hlt | ⟨heq, hlt⟩
  · exact Prod.Lex.left _ _ hlt
  · rw [InvImage, heq]
    exact Prod.Lex.right _ hlt

end ScanState

/-! ## Progress -/

/-- The lines that a worker has not looked at. -/
def Worker.lines : Worker → List String
  | .looking _ lines _ => lines
  | .counting _ => []
  | .sending _ => []

/-- A worker comes upon no new lines. -/
theorem Worker.Step.lines_subset {x : Examiner} {w : Worker} {w' : Option Worker} {e e' : Exchange}
    (h : w.Step x e w' e') : ∀ v ∈ w', v.lines ⊆ w.lines := by
  intro v hv
  cases h with
  | look =>
    cases hv
    exact List.subset_cons_self _ _
  | countMalformed =>
    cases hv
    exact List.Subset.refl _
  | countRecords =>
    cases hv
    exact List.Subset.refl _
  | skip => cases hv
  | send => cases hv
  | sendFailure => cases hv

/-- What holds of all lines with the workers still holds when one of them has acted. -/
theorem Worker.Step.forall_lines {x : Examiner} {w : Worker} {w' : Option Worker} {e e' : Exchange}
    {before after : List Worker} {P : String → Prop} (h : w.Step x e w' e')
    (hall : ∀ v ∈ before ++ w :: after, ∀ line ∈ v.lines, P line) :
    ∀ v ∈ before ++ w'.toList ++ after, ∀ line ∈ v.lines, P line := by
  intro v hv line hline
  rw [List.mem_append, List.mem_append] at hv
  rcases hv with (hv | hv) | hv
  · exact hall v (List.mem_append_left _ hv) line hline
  · exact hall w List.mem_append_cons_self line (h.lines_subset v (by simpa using hv) hline)
  · exact hall v (List.mem_append_right _ (List.mem_cons_of_mem w hv)) line hline

/-- The writer goes on while there is something for it. -/
theorem Exchange.exists_step (sink : Sink) {e : Exchange} (hw : e.written.failure = none)
    (h : e.channel ≠ [] ∨ e.writing ≠ []) : ∃ e', e.Step sink e' := by
  cases hwriting : e.writing with
  | cons row rows =>
    cases hsink : sink.failure? e.written.accepted row with
    | none => exact ⟨_, .accept hwriting hw hsink⟩
    | some failure => exact ⟨_, .refuse hwriting hw hsink⟩
  | nil =>
    have hchannel := h.resolve_right fun hne ↦ hne hwriting
    obtain ⟨rows, channel, hc⟩ := List.exists_cons_of_ne_nil hchannel
    exact ⟨_, .receive hc hwriting hw⟩

/-- A worker goes on unless it has come to a line without an outcome, or the channel is full. -/
theorem Worker.exists_step {x : Examiner} (w : Worker) (e : Exchange)
    (hlines : ∀ line ∈ w.lines, ∀ number, ∃ o, x.lineOutcome number line = .ok o) :
    (∃ w' e', w.Step x e w' e') ∨ (e.written.failure = none ∧ e.channel ≠ []) := by
  cases w with
  | looking number lines outcome =>
    cases lines with
    | nil => exact .inl ⟨_, _, .countMalformed⟩
    | cons line lines =>
      obtain ⟨o, ho⟩ := hlines line List.mem_cons_self number
      exact .inl ⟨_, _, .look ho⟩
  | counting outcome => exact .inl ⟨_, _, .countRecords⟩
  | sending rows =>
    by_cases hrows : rows = []
    · subst hrows
      exact .inl ⟨_, _, .skip⟩
    · by_cases hw : e.written.failure = none
      · by_cases hroom : e.channel.length < channelSize
        · exact .inl ⟨_, _, .send hrows hw hroom⟩
        · refine .inr ⟨hw, ?_⟩
          intro hempty
          rw [hempty] at hroom
          exact hroom (by decide)
      · exact .inl ⟨_, _, .sendFailure hrows hw⟩

namespace ScanState

/-- **A scan that is not over goes on**, if there is room for batches and no busy worker has come to
a line that aborts the program. -/
theorem exists_step {s : ScanState} (hroom : CanReserve s.source.batchSize)
    (hlines : ∀ w ∈ s.workers, ∀ line ∈ w.lines, ∀ number,
      ∃ o, c.examiner.lineOutcome number line = .ok o) :
    s.IsFinal ∨ ∃ t, Step c s t := by
  -- The writer first: if it has something to do, it can do it.
  by_cases hwriter : s.WriterDone
  · cases hworkers : s.workers with
    | cons w ws =>
      have hw := w.exists_step s.exchange (hlines w (by rw [hworkers]; exact List.mem_cons_self))
      rcases hw with ⟨w', e, hstep⟩ | ⟨hw, hchannel⟩
      · exact .inr ⟨_, @Step.work c s [] ws w w' e hworkers hstep⟩
      · obtain ⟨e, hstep⟩ := Exchange.exists_step c.sink hw (.inl hchannel)
        exact .inr ⟨_, .write hstep⟩
    | nil =>
      have hfree : s.workers.length < c.threads := by
        rw [hworkers]
        exact c.threads_pos
      obtain ⟨item, source, hnext⟩ := LineSource.exists_next_eq_ok hroom
      cases item with
      | none => exact .inl ⟨⟨hworkers, fun _ ↦ ⟨source, hnext⟩⟩, hwriter⟩
      | some item =>
        cases item with
        | ok batch => exact .inr ⟨_, .take hfree hnext⟩
        | error failure => exact .inr ⟨_, .readFailure hfree hnext⟩
  · rw [WriterDone, not_or, not_not, not_and_or] at hwriter
    obtain ⟨e, hstep⟩ := Exchange.exists_step c.sink hwriter.1 hwriter.2
    exact .inr ⟨_, .write hstep⟩

/-! ## Room for batches -/

variable {source : LineSource} {s t : ScanState}

/-- All batches of a scan have the same size. -/
theorem Reachable.batchSize_eq (h : Reachable c source s) :
    s.source.batchSize = source.batchSize := by
  induction h with
  | start => rfl
  | step _ hs ih =>
    cases hs with
    | take _ hnext => rw [← ih, ← LineSource.batchSize_of_next_eq_some hnext]
    | readFailure _ hnext => rw [← ih, ← LineSource.batchSize_of_next_eq_some hnext]
    | work => exact ih
    | write => exact ih

section NoRoom

variable {bs : List UInt8} {batchSize : ℕ} (hroom : ¬ CanReserve (max 1 batchSize))
include hroom

/-- Without room for a batch a scan does not begin. -/
theorem not_step_start : ¬ Step c (start (.ofBytes bs batchSize)) t := by
  have hnext := LineSource.next_ofBytes_of_not_canReserve bs hroom
  intro h
  cases h with
  | take _ h => cases hnext.symm.trans h
  | readFailure _ h => cases hnext.symm.trans h
  | work hw => exact List.append_ne_nil_of_right_ne_nil _ (List.cons_ne_nil _ _) hw.symm
  | write h =>
    cases h with
    | receive hc => cases hc
    | accept hr => cases hr
    | refuse hr => cases hr

/-- **Without room for a batch a scan stays at its start.** -/
theorem Reachable.eq_start (h : Reachable c (.ofBytes bs batchSize) s) :
    s = ScanState.start (.ofBytes bs batchSize) := by
  induction h with
  | start => rfl
  | step _ hs ih =>
    rw [ih] at hs
    exact absurd hs (not_step_start hroom)

/-- A scan that stays at its start for want of room is never over. -/
theorem Reachable.not_isFinal (h : Reachable c (.ofBytes bs batchSize) s) : ¬ s.IsFinal := by
  rw [h.eq_start hroom]
  rintro ⟨⟨-, hend⟩, -⟩
  obtain ⟨s', hnext⟩ := hend rfl
  cases (LineSource.next_ofBytes_of_not_canReserve bs hroom).symm.trans hnext

end NoRoom

end ScanState

end SurveyQuests
