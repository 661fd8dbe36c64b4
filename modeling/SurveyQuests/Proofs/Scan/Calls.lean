import SurveyQuests.Proofs.Scan.Reading
import SurveyQuests.Proofs.Scan.SideBySide

/-!
# The calls of the sink

A scan gives rows to its sink one by one.  The state of a scan remembers what was accepted and the
failure that stopped the writer; here the calls themselves are written down beside the state, each
with the row and with what the sink answered (`ScanState.Run`).  So it can be said which rows have
*reached* the sink, whether or not they were accepted.

The calls and what the state remembers agree (`Sink.Transcript`).  That no row reaches the sink too
often follows from the balance of a scan: the rows that reached it, those that are being written and
those in the channel all come from batches of the input, each batch counted once
(`Exchange.Carries`).  This stays so after the writer has stopped, since nothing moves then.

## What is here

* `SinkCall`, `Sink.Transcript` — calls and what they leave behind;
* `Exchange.callsTo`, `ScanState.Run` — the calls in the course of a scan;
* `ScanState.Run.transcript` — **the calls are the sink's own**;
* `ScanState.Run.rows_subperm` — **no row reaches the sink too often**.
-/

set_option autoImplicit false

namespace SurveyQuests

/-- A row that reached a sink, and the failure that it met, if any. -/
structure SinkCall where
  row : Row
  failure? : Option SinkFailure

/-- Is this left behind by these calls of the sink, one after another?  After a refusal there is no
call. -/
inductive Sink.Transcript (sink : Sink) : List SinkCall → Written → Prop where
  | nil : Transcript sink [] { accepted := [] }
  | accept {calls : List SinkCall} {accepted : List Row} {row : Row}
      (h : Transcript sink calls { accepted }) (ha : sink.failure? accepted row = none) :
      Transcript sink (calls ++ [⟨row, none⟩]) { accepted := accepted ++ [row] }
  | refuse {calls : List SinkCall} {accepted : List Row} {row : Row} {failure : SinkFailure}
      (h : Transcript sink calls { accepted }) (ha : sink.failure? accepted row = some failure) :
      Transcript sink (calls ++ [⟨row, some failure⟩]) { accepted, failure := some failure }

namespace Sink.Transcript

variable {sink : Sink} {calls : List SinkCall} {w : Written}

/-- Where nothing was refused, all rows were accepted. -/
theorem of_failure_eq_none (h : sink.Transcript calls w) (hw : w.failure = none) :
    (∀ call ∈ calls, call.failure? = none) ∧ calls.map SinkCall.row = w.accepted := by
  induction h with
  | nil =>
    refine ⟨?_, rfl⟩
    intro call hc
    cases hc
  | @accept calls accepted row _ _ ih =>
    obtain ⟨hnone, hrows⟩ := ih rfl
    refine ⟨?_, by rw [List.map_append, hrows]; rfl⟩
    intro call hc
    rcases List.mem_append.1 hc with hc | hc
    · exact hnone call hc
    · rw [List.mem_singleton.1 hc]
  | refuse => cases hw

/-- A refusal is remembered. -/
theorem failure_of_mem (h : sink.Transcript calls w) {call : SinkCall} (hc : call ∈ calls)
    {failure : SinkFailure} (hfailure : call.failure? = some failure) :
    w.failure = some failure := by
  cases h with
  | nil => cases hc
  | accept h ha =>
    have hnone := ((h.accept ha).of_failure_eq_none rfl).1 call hc
    rw [hfailure] at hnone
    cases hnone
  | refuse h =>
    rcases List.mem_append.1 hc with hc | hc
    · rw [(h.of_failure_eq_none rfl).1 call hc] at hfailure
      cases hfailure
    · rw [List.mem_singleton.1 hc] at hfailure
      exact hfailure

theorem failure_eq_none_iff (h : sink.Transcript calls w) :
    w.failure = none ↔ ∀ call ∈ calls, call.failure? = none := by
  refine ⟨fun hw ↦ (h.of_failure_eq_none hw).1, fun hnone ↦ ?_⟩
  cases h with
  | nil => rfl
  | accept => rfl
  | refuse => exact absurd (hnone _ (List.mem_append_right _ (List.mem_singleton_self _))) (by simp)

/-- The last call. -/
theorem of_concat_eq {front : List SinkCall} {call : SinkCall} {accepted : List Row} {row : Row}
    {failure? : Option SinkFailure} (h : sink.Transcript calls { accepted })
    (heq : front ++ [call] = calls ++ [⟨row, failure?⟩])
    (ha : sink.failure? accepted row = failure?) :
    (∀ d ∈ front, d.failure? = none) ∧
      call.failure? = sink.failure? (front.map SinkCall.row) call.row := by
  obtain ⟨rfl, hcall⟩ := List.append_inj' heq rfl
  obtain rfl := List.singleton_inj.1 hcall
  obtain ⟨hnone, hrows⟩ := h.of_failure_eq_none rfl
  exact ⟨hnone, by rw [hrows, ha]⟩

/-- **Every call finds all calls before it accepted**, and the sink answers for itself. -/
theorem of_prefix (h : sink.Transcript calls w) {front : List SinkCall} {call : SinkCall}
    (hfront : front ++ [call] <+: calls) :
    (∀ d ∈ front, d.failure? = none) ∧
      call.failure? = sink.failure? (front.map SinkCall.row) call.row := by
  -- Either the call is the last one, or the calls before the last one have it already.
  induction h with
  | nil => simp at hfront
  | accept h ha ih =>
    rcases List.prefix_concat_iff.1 hfront with heq | hfront
    · exact h.of_concat_eq heq ha
    · exact ih hfront
  | refuse h ha ih =>
    rcases List.prefix_concat_iff.1 hfront with heq | hfront
    · exact h.of_concat_eq heq ha
    · exact ih hfront

end Sink.Transcript

/-! ## The calls in the course of a scan -/

/-- The calls of the sink in one action: where it changes what is written, the row that was next
reached the sink. -/
def Exchange.callsTo (e e' : Exchange) : List SinkCall :=
  if e'.written = e.written then []
  else (e.writing.take 1).map fun row ↦ ⟨row, e'.written.failure⟩

/-- What a number of events leads to, and the calls of the sink on the way. -/
inductive ScanState.Run (c : ScanSetup) (source : LineSource) : List SinkCall → ScanState → Prop
    where
  | start : Run c source [] (ScanState.start source)
  | step {calls : List SinkCall} {s t : ScanState} (h : Run c source calls s)
      (hs : ScanState.Step c s t) : Run c source (calls ++ s.exchange.callsTo t.exchange) t

variable {c : ScanSetup} {x : Examiner} {sink : Sink} {calls : List SinkCall}

/-- The row that was next reached the sink where something new is written. -/
theorem Exchange.callsTo_of_ne {e e' : Exchange} {row : Row} {rows : List Row}
    (hr : e.writing = row :: rows) (hne : e'.written ≠ e.written) :
    e.callsTo e' = [⟨row, e'.written.failure⟩] := by
  rw [callsTo, if_neg hne, hr]
  rfl

/-- Do the calls agree with what is written?  The rows that reached the sink are those accepted, and
maybe one more that is being written. -/
structure Exchange.Records (sink : Sink) (calls : List SinkCall) (e : Exchange) : Prop where
  transcript : sink.Transcript calls e.written
  rows : calls.map SinkCall.row <+: e.written.accepted ++ e.writing

/-- Where nothing is written, no row reaches the sink. -/
theorem Exchange.Records.of_written_eq {e e' : Exchange} (he : e.Records sink calls)
    (hw : e'.written = e.written) (hwriting : e.writing <+: e'.writing) :
    e'.Records sink (calls ++ e.callsTo e') := by
  obtain ⟨htranscript, hrows⟩ := he
  rw [callsTo, if_pos hw, List.append_nil]
  refine ⟨by rw [hw]; exact htranscript, hrows.trans ?_⟩
  rw [hw]
  exact (List.prefix_append_right_inj _).2 hwriting

/-- **An action of the writer is recorded by its call.** -/
theorem Exchange.Step.records {e e' : Exchange} (h : e.Step sink e') (he : e.Records sink calls) :
    e'.Records sink (calls ++ e.callsTo e') := by
  have htranscript := he.transcript
  have hw := h.written_failure
  have haccepted := (htranscript.of_failure_eq_none hw).2
  have hwritten : e.written = { accepted := e.written.accepted } := by rw [← hw]
  cases h with
  | receive _ hi => exact he.of_written_eq rfl (by rw [hi]; exact List.nil_prefix)
  | @accept row rows hr _ ha =>
    rw [hwritten] at htranscript
    have hne : { accepted := e.written.accepted ++ [row] } ≠ e.written := by
      intro heq
      simpa using congrArg Written.accepted heq
    rw [callsTo_of_ne hr hne]
    refine ⟨htranscript.accept ha, ?_⟩
    rw [List.map_append, haccepted]
    exact List.prefix_append _ _
  | @refuse row rows failure hr _ ha =>
    rw [hwritten] at htranscript
    have hne : { e.written with failure := some failure } ≠ e.written := by
      intro heq
      have hfailure := congrArg Written.failure heq
      rw [hw] at hfailure
      cases hfailure
    rw [callsTo_of_ne hr hne]
    refine ⟨htranscript.refuse ha, ?_⟩
    rw [List.map_append, haccepted, hr]
    exact ⟨rows, by simp⟩

/-- What is being written is a matter of the writer. -/
theorem Worker.Step.writing_eq {w : Worker} {w' : Option Worker} {e e' : Exchange}
    (h : w.Step x e w' e') : e'.writing = e.writing := by
  cases h <;> rfl

namespace ScanState

theorem Step.records {s t : ScanState} (h : Step c s t) (hs : s.exchange.Records c.sink calls) :
    t.exchange.Records c.sink (calls ++ s.exchange.callsTo t.exchange) := by
  cases h with
  | take => exact hs.of_written_eq rfl (List.prefix_refl _)
  | readFailure => exact hs.of_written_eq rfl (List.prefix_refl _)
  | work _ h => exact hs.of_written_eq h.written_eq (by rw [h.writing_eq])
  | write h => exact h.records hs

variable {source : LineSource} {s : ScanState}

theorem Run.reachable (h : Run c source calls s) : Reachable c source s := by
  induction h with
  | start => exact .start
  | step _ hs ih => exact .step ih hs

/-- **The calls are recorded in the state.** -/
theorem Run.records (h : Run c source calls s) : s.exchange.Records c.sink calls := by
  induction h with
  | start => exact ⟨.nil, List.nil_prefix⟩
  | step _ hs ih => exact hs.records ih

end ScanState

/-! ## No row reaches the sink too often -/

/-- The rows of the batches that are still to be handed out. -/
def LineSource.groups (x : Examiner) (s : LineSource) : List (List Row) :=
  s.batches.map fun batch ↦ batch.lines.flatMap x.rowsOf

/-- These are the rows of the first of the lines ahead, and of all of them if there is room for
batches and the input does not break off. -/
theorem LineSource.Faces.flatten_groups (x : Examiner) {s : LineSource} {lines : List String}
    {broken : Bool} (h : s.Faces lines broken) :
    ∃ back, lines.flatMap x.rowsOf = (s.groups x).flatten ++ back ∧
      (CanReserve s.batchSize → broken = false → back = []) := by
  obtain ⟨back, hlines, hback⟩ := h.flatMap_batches
  refine ⟨back.flatMap x.rowsOf, ?_,
    fun hroom hclosed ↦ by rw [hback hroom hclosed, List.flatMap_nil]⟩
  rw [hlines, List.flatMap_append, List.flatMap_assoc, groups, ← List.flatMap_def]

/-- After the writer has stopped a worker moves no rows. -/
theorem Worker.Step.carries {w : Worker} {w' : Option Worker} {e e' : Exchange}
    {sent : List (List Row)} (h : w.Step x e w' e') (hw : e.written.failure ≠ none)
    (hsent : e.Carries sent) : e'.Carries sent := by
  cases h with
  | send _ hrunning => exact absurd hrunning hw
  | _ => exact hsent

namespace ScanState

variable {source : LineSource} {s : ScanState}

/-- What was due at the start includes the rows of each batch as a group. -/
theorem due_start_fst (x : Examiner) (source : LineSource) :
    ((start source).due x).1 = (source.groups x : Multiset (List Row)) := by
  rw [due_start, LineSource.groups]
  induction source.batches with
  | nil => rfl
  | cons batch batches ih =>
    rw [List.map_cons, List.map_cons, List.sum_cons, Prod.fst_add, ih, due_worker,
      ← Multiset.cons_coe, Multiset.singleton_add]

/-- **All that has been sent came from batches of the input**, each of which was sent at most once,
also after the writer has stopped. -/
theorem Reachable.exists_carries (h : Reachable c source s) :
    ∃ sent, s.exchange.Carries sent ∧ sent.Subperm (source.groups c.examiner) := by
  induction h with
  | start => exact ⟨[], rfl, List.nil_subperm⟩
  | @step s t hreach hs ih =>
    obtain ⟨sent, hsent, hsub⟩ := ih
    cases hs with
    | take => exact ⟨sent, hsent, hsub⟩
    | readFailure => exact ⟨sent, hsent, hsub⟩
    | @work before after w w' e hworkers h =>
      by_cases hw : s.exchange.written.failure = none
      · -- While the writer is at work, the balance says what has been sent.
        have ht : e.written.failure = none := by rw [h.written_eq, hw]
        obtain ⟨sent', hsent', htotal⟩ :=
          (Reachable.step hreach (.work hworkers h)).balanced ht
        refine ⟨sent', hsent', Multiset.coe_le.1 ?_⟩
        rw [← due_start_fst, ← htotal, Prod.fst_add]
        exact Multiset.le_add_right _ _
      · exact ⟨sent, h.carries hw hsent, hsub⟩
    | write h => exact ⟨sent, (h.balanced hsent).1, hsub⟩

/-- **No row reaches the sink more often than the batches of the input have it.** -/
theorem Run.rows_subperm (h : Run c source calls s) :
    (calls.map SinkCall.row).Subperm (source.groups c.examiner).flatten := by
  obtain ⟨sent, hsent, l, hperm, hsublist⟩ := h.reachable.exists_carries
  have hfront : calls.map SinkCall.row <+: sent.flatten := by
    rw [hsent, ← List.append_assoc]
    exact h.records.rows.trans (List.prefix_append _ _)
  exact hfront.sublist.subperm.trans
    (hperm.symm.flatten.subperm.trans hsublist.flatten.subperm)

end ScanState

end SurveyQuests
