import SurveyQuests.Proofs.Scan.Calls

/-!
# A scan never reports success after losing a row

Here anything may go wrong: the input may break off at any line, and the sink may refuse any row, by
an error or by a panic.  In whatever order the workers and the writer come to know of this, the
result of a scan that is over is told by two questions, in this order.  Did the sink refuse a row?
Then the result is built from that refusal, whether or not workers failed too.  Did the input break
off?  Then the result is the failure of reading.  Otherwise all rows of all lines were accepted.

The reason is that workers do not fail for nothing (`ScanState.Tracks`): a worker fails to send only
after the writer has stopped, it fails to read only where the input breaks off, and as long as no
worker has failed it is still ahead whether the input breaks off.

## What is here

* `ScanState.Tracks`, `ScanState.Reachable.tracks` — what the failures of workers say;
* `ScanState.Faithful` — what is true of the calls of the sink at any time;
* `ScanState.Settled` — what is true of the result in the end;
* `scan_accounts_for_rows` — **every scan is faithful, and settled in the end**.
-/

set_option autoImplicit false

namespace SurveyQuests

variable {c : ScanSetup} {lines : List String} {broken : Bool} {calls : List SinkCall}

/-! ## What the failures of workers say -/

/-- Are the lines ahead, in the input and with the workers, among these, and does every failure of a
worker have its reason?  `breaks` tells whether the input is still to break off. -/
structure ScanState.Tracks (lines : List String) (broken : Bool) (s : ScanState) : Prop where
  source : ∃ ahead breaks, s.source.Faces ahead breaks ∧ ahead ⊆ lines ∧
    (breaks = true → broken = true) ∧ (s.exchange.failure = none → breaks = broken)
  workers : ∀ w ∈ s.workers, ∀ line ∈ w.lines, line ∈ lines
  read : s.exchange.failure = some .read → broken = true
  send : s.exchange.failure = some .send → s.exchange.written.failure ≠ none

/-- A busy worker fails only to send, after the writer has stopped. -/
theorem Worker.Step.failure_cases {x : Examiner} {w : Worker} {w' : Option Worker}
    {e e' : Exchange} (h : w.Step x e w' e') :
    e'.failure = e.failure ∨
      e.written.failure ≠ none ∧ e'.failure = e.failure.or (some .send) := by
  cases h with
  | sendFailure _ hstopped => exact .inr ⟨hstopped, rfl⟩
  | _ => exact .inl rfl

theorem Exchange.Step.failure_eq {sink : Sink} {e e' : Exchange} (h : e.Step sink e') :
    e'.failure = e.failure := by
  cases h <;> rfl

namespace ScanState

variable {s t : ScanState}

/-- **One event gives every failure its reason.** -/
theorem Step.tracks (h : Step c s t) (hs : s.Tracks lines broken) : t.Tracks lines broken := by
  obtain ⟨⟨ahead, breaks, hfaces, hahead, hbreaks, hopen⟩, hworkers, hread, hsend⟩ := hs
  cases h with
  | @take batch source _ hnext =>
    have hspec := hfaces.next_spec
    rw [hnext] at hspec
    obtain ⟨back, hlines, hback⟩ := hspec
    rw [hlines] at hahead
    have hall := List.append_subset.1 hahead
    refine ⟨⟨back, breaks, hback, hall.2, hbreaks, hopen⟩, ?_, hread, hsend⟩
    intro w hw
    rcases List.mem_cons.1 hw with rfl | hw
    · exact fun line hline ↦ hall.1 hline
    · exact hworkers w hw
  | readFailure _ hnext =>
    have hspec := hfaces.next_spec
    rw [hnext] at hspec
    obtain ⟨hbroken, hback⟩ := hspec
    refine ⟨⟨[], false, hback, List.nil_subset _, nofun, ?_⟩, hworkers, fun _ ↦ hbreaks hbroken, ?_⟩
    · intro hnone
      cases (Option.or_eq_none_iff.1 hnone).2
    · intro hfailed
      rcases Option.or_eq_some_iff.1 hfailed with hf | ⟨-, hf⟩
      · exact hsend hf
      · cases hf
  | @work before after w w' e hmem h =>
    rw [hmem] at hworkers
    have hlines := h.forall_lines hworkers
    rcases h.failure_cases with heq | ⟨hstopped, heq⟩
    · rw [← heq] at hopen hread hsend
      refine ⟨⟨ahead, breaks, hfaces, hahead, hbreaks, hopen⟩, hlines, hread, ?_⟩
      rw [h.written_eq]
      exact hsend
    · -- The first failure stays; if this is the first one, it is to send.
      refine ⟨⟨ahead, breaks, hfaces, hahead, hbreaks, ?_⟩, hlines, ?_, ?_⟩
      · intro hnone
        rw [heq] at hnone
        cases (Option.or_eq_none_iff.1 hnone).2
      · intro hfailed
        rw [heq] at hfailed
        rcases Option.or_eq_some_iff.1 hfailed with hf | ⟨-, hf⟩
        · exact hread hf
        · cases hf
      · rw [h.written_eq]
        exact fun _ ↦ hstopped
  | write h =>
    rw [← h.failure_eq] at hopen hread hsend
    exact ⟨⟨ahead, breaks, hfaces, hahead, hbreaks, hopen⟩, hworkers, hread,
      fun hfailed ↦ absurd h.written_failure (hsend hfailed)⟩

/-- **At any point every failure of a worker has its reason.** -/
theorem Reachable.tracks {bs : List UInt8} {batchSize : ℕ} (hread : ReadsAs bs lines broken)
    (h : Reachable c (.ofBytes bs batchSize) s) : s.Tracks lines broken := by
  induction h with
  | start =>
    refine ⟨⟨lines, broken, LineSource.faces_ofBytes hread batchSize, List.Subset.refl _, id,
      fun _ ↦ rfl⟩, ?_, nofun, nofun⟩
    intro w hw
    cases hw
  | step _ hs ih => exact hs.tracks ih

/-- A scan goes on if there is room for batches and the lines do not abort the program. -/
theorem Tracks.exists_step (h : s.Tracks lines broken) (hroom : CanReserve s.source.batchSize)
    (hcalm : ∀ line ∈ lines, ¬ Line.Aborts line) : s.IsFinal ∨ ∃ t, Step c s t := by
  refine ScanState.exists_step hroom fun w hw line hline number ↦ ?_
  exact ⟨_, c.examiner.lineOutcome_eq_ok number (hcalm line (h.workers w hw line hline))⟩

/-- **Every point of such a scan leads to its end.** -/
theorem Run.exists_isFinal {bs : List UInt8} {batchSize : ℕ} (hread : ReadsAs bs lines broken)
    (hroom : CanReserve (max 1 batchSize)) (hcalm : ∀ line ∈ lines, ¬ Line.Aborts line)
    (h : Run c (.ofBytes bs batchSize) calls s) :
    ∃ calls t, Run c (.ofBytes bs batchSize) calls t ∧ t.IsFinal := by
  induction s using (wellFounded_step c).induction generalizing calls with
  | _ s ih =>
    have hroom' : CanReserve s.source.batchSize := h.reachable.batchSize_eq ▸ hroom
    rcases (h.reachable.tracks hread).exists_step (c := c) hroom' hcalm with hfinal | ⟨t, ht⟩
    · exact ⟨calls, s, h, hfinal⟩
    · exact ih t ht (.step h ht)

end ScanState

/-! ## The result -/

/-- The error of a scan whose sink has refused a row. -/
def SinkFailure.scanError (workersFailed : Bool) : SinkFailure → ScanError
  | .error message => .sinkFailed message workersFailed
  | .panic payload => .writerPanicked payload

theorem conclude_of_refused {written : Written} {workers : Option WorkerFailure}
    {progress : ScanProgress} {failure : SinkFailure} (h : written.failure = some failure) :
    conclude written workers progress = .error (failure.scanError workers.isSome) := by
  obtain ⟨accepted, refused⟩ := written
  obtain rfl : refused = some failure := h
  cases failure <;> rfl

theorem conclude_of_workers {written : Written} {failure : WorkerFailure}
    {progress : ScanProgress} (h : written.failure = none) :
    conclude written (some failure) progress = .error (.workersFailed failure) := by
  obtain ⟨accepted, refused⟩ := written
  obtain rfl : refused = none := h
  rfl

namespace ScanState

variable {s : ScanState}

/-- **What is true of the calls of the sink at any time.** -/
structure Faithful (c : ScanSetup) (lines : List String) (calls : List SinkCall) (s : ScanState) :
    Prop where
  /-- Each call finds all calls before it accepted, and the answer is that of the sink. -/
  order : ∀ front call, front ++ [call] <+: calls →
    (∀ d ∈ front, d.failure? = none) ∧
      call.failure? = c.sink.failure? (front.map SinkCall.row) call.row
  /-- Each row of each line reaches the sink at most once. -/
  once : (calls.map SinkCall.row).Subperm (lines.flatMap c.examiner.rowsOf)

/-- **What is true of the result in the end.** -/
structure Settled (c : ScanSetup) (lines : List String) (broken : Bool) (calls : List SinkCall)
    (s : ScanState) : Prop where
  /-- A refusal decides, whether or not workers failed too. -/
  refused : ∀ call ∈ calls, ∀ failure, call.failure? = some failure →
    s.result = .error (failure.scanError s.exchange.failure.isSome)
  /-- Where only reading failed, this is the result. -/
  unread : (∀ call ∈ calls, call.failure? = none) → broken = true →
    s.result = .error (.workersFailed .read)
  /-- Where nothing failed, there are totals. -/
  complete : (∀ call ∈ calls, call.failure? = none) → broken = false →
    ∃ summary, s.result = .ok summary
  /-- Where there are totals, each row of each line of the input was accepted once. -/
  ok : ∀ summary, s.result = .ok summary →
    broken = false ∧ (∀ call ∈ calls, call.failure? = none) ∧
      (calls.map SinkCall.row).Perm (lines.flatMap c.examiner.rowsOf) ∧
      summary.rows = calls.length

variable {bs : List UInt8} {batchSize : ℕ}

theorem Run.faithful (hread : ReadsAs bs lines broken)
    (h : Run c (.ofBytes bs batchSize) calls s) : s.Faithful c lines calls := by
  refine ⟨fun front call ↦ h.records.transcript.of_prefix, ?_⟩
  obtain ⟨back, hrows, -⟩ :=
    (LineSource.faces_ofBytes hread batchSize).flatten_groups c.examiner
  rw [hrows]
  exact h.rows_subperm.trans (List.prefix_append _ _).sublist.subperm

/-- The failures of the workers of a scan that is over, if the writer has not failed. -/
theorem Tracks.failure_eq (h : s.Tracks lines broken) (hfinal : s.IsFinal)
    (hw : s.exchange.written.failure = none) :
    s.exchange.failure = if broken then some .read else none := by
  obtain ⟨⟨ahead, breaks, hfaces, -, -, hopen⟩, -, hread, hsend⟩ := h
  cases hf : s.exchange.failure with
  | none =>
    have hspec := hfaces.next_spec
    obtain ⟨source, hnext⟩ := hfinal.1.2 hf
    rw [hnext] at hspec
    rw [← hopen hf, hspec.2, if_neg Bool.false_ne_true]
  | some failure =>
    cases failure with
    | read => rw [hread hf, if_pos rfl]
    | send => exact absurd hw (hsend hf)

/-- **Nothing is lost without a failure.** -/
theorem Run.rows_perm (hread : ReadsAs bs lines false)
    (h : Run c (.ofBytes bs batchSize) calls s) (hfinal : s.IsFinal)
    (hw : s.exchange.written.failure = none) :
    (calls.map SinkCall.row).Perm (lines.flatMap c.examiner.rowsOf) := by
  have hf := (h.reachable.tracks hread).failure_eq hfinal hw
  obtain ⟨sent, haccepted, htally⟩ := (h.reachable.balanced hw).of_isFinal hfinal hw hf
  have hsent : sent.Perm ((LineSource.ofBytes bs batchSize).groups c.examiner) := by
    rw [← Multiset.coe_eq_coe, ← due_start_fst, ← htally]
    rfl
  have hroom : CanReserve (max 1 batchSize) :=
    Decidable.not_not.1 fun hroom ↦ h.reachable.not_isFinal hroom hfinal
  obtain ⟨back, hrows, hback⟩ :=
    (LineSource.faces_ofBytes hread batchSize).flatten_groups c.examiner
  rw [hrows, hback hroom rfl, List.append_nil, (h.records.transcript.of_failure_eq_none hw).2,
    haccepted]
  exact hsent.flatten

theorem Run.settled (hread : ReadsAs bs lines broken)
    (h : Run c (.ofBytes bs batchSize) calls s) (hfinal : s.IsFinal) :
    s.Settled c lines broken calls := by
  have htranscript := h.records.transcript
  have hworkers := (h.reachable.tracks hread).failure_eq hfinal
  have hnone := htranscript.failure_eq_none_iff
  refine ⟨?refused, ?unread, ?complete, ?ok⟩
  case refused =>
    intro call hcall failure hfailure
    exact conclude_of_refused (htranscript.failure_of_mem hcall hfailure)
  case unread =>
    intro haccepted hbroken
    have hw := hnone.2 haccepted
    rw [result, hworkers hw, hbroken, if_pos rfl, conclude_of_workers hw]
  case complete =>
    intro haccepted hopen
    have hw := hnone.2 haccepted
    rw [result, hworkers hw, hopen, if_neg Bool.false_ne_true, conclude_eq_ok hw]
    exact ⟨_, rfl⟩
  case ok =>
    intro summary hok
    rw [result] at hok
    cases hw : s.exchange.written.failure with
    | some failure =>
      rw [conclude_of_refused hw] at hok
      cases hok
    | none =>
      cases broken with
      | true =>
        rw [hworkers hw, if_pos rfl, conclude_of_workers hw] at hok
        cases hok
      | false =>
        rw [hworkers hw, if_neg Bool.false_ne_true, conclude_eq_ok hw] at hok
        cases hok
        refine ⟨rfl, hnone.1 hw, h.rows_perm hread hfinal hw, ?_⟩
        rw [← (htranscript.of_failure_eq_none hw).2, List.length_map]

end ScanState

/-- **A scan accounts for every row.**  Whatever the input, the catalog, the day of reference, the
size of the batches and the number of workers, whichever rows the sink refuses and in whatever order
the workers and the writer act: a row reaches the sink at most as often as the input has it, and no
row does after a refusal; once the scan is over, its result tells what went wrong, and if nothing
did, every row of every line was accepted once.  No scan goes on for ever, and none stops before it
is over unless a line aborts the program or there is no room for a batch. -/
theorem scan_accounts_for_rows {bs : List UInt8} {batchSize : ℕ} {s : ScanState}
    (hread : ReadsAs bs lines broken) (hrun : ScanState.Run c (.ofBytes bs batchSize) calls s) :
    s.Faithful c lines calls ∧ (s.IsFinal → s.Settled c lines broken calls) ∧
      (CanReserve (max 1 batchSize) → (∀ line ∈ lines, ¬ Line.Aborts line) →
        s.IsFinal ∨ ∃ t, ScanState.Step c s t) ∧
      ¬ ∃ run : ℕ → ScanState, run 0 = s ∧ ∀ n, ScanState.Step c (run n) (run (n + 1)) := by
  refine ⟨hrun.faithful hread, hrun.settled hread, fun hroom ↦ ?_, ?_⟩
  · exact (hrun.reachable.tracks hread).exists_step (hrun.reachable.batchSize_eq ▸ hroom)
  rintro ⟨run, -, hsteps⟩
  exact (wellFounded_iff_isEmpty_descending_chain.1 (ScanState.wellFounded_step c)).false
    ⟨run, hsteps⟩

/-- The records of two nodes, for which a quest about all nodes holds.  First the sink is full after
one row; then it takes every row, but the input breaks off. -/
theorem scan_accounts_for_rows_full :
    let quest : Quest := ⟨"any", ⟨"nodes", ⟨.ofList [.node], .always⟩, .conservative⟩, none, none,
      .everywhere⟩
    let examiner : Examiner := ⟨{ quests := [quest] }, ⟨2024, 1, 1, by decide⟩⟩
    let full : ScanSetup := ⟨examiner, .failingAfter 1 fun _ ↦ .error "full", 2, Nat.two_pos⟩
    let reliable : ScanSetup := ⟨examiner, .reliable, 2, Nat.two_pos⟩
    let bytes := utf8Bytes "[\"node\",1]\n[\"node\",2]\n".toList
    (∃ calls s, ScanState.Run full (.ofBytes bytes 1) calls s ∧ s.IsFinal ∧
        ∃ workersFailed, s.result = .error (.sinkFailed "full" workersFailed)) ∧
      ∃ calls s, ScanState.Run reliable (.ofBytes (bytes ++ [255]) 1) calls s ∧ s.IsFinal ∧
        s.result = .error (.workersFailed .read) := by
  intro quest examiner full reliable bytes
  let lines := ["[\"node\",1]\n", "[\"node\",2]\n"]
  have hroom : CanReserve (max 1 1) := by decide
  have hcalm : ∀ line ∈ lines, ¬ Line.Aborts line := by decide +kernel
  have hread : ReadsAs bytes lines false :=
    (linesOf_textLines (decodeText?_eq_some_iff.2 rfl)).readsAs
  have hbroken : ReadsAs (bytes ++ [255]) lines true :=
    .cons (by decide +kernel) (by decide +kernel)
      (.cons (by decide +kernel) (by decide +kernel)
        (.broken (by decide +kernel) (by decide +kernel)))
  refine ⟨?full, ?reliable⟩
  case full =>
    obtain ⟨calls, s, hrun, hfinal⟩ :=
      ScanState.Run.exists_isFinal (c := full) hread hroom hcalm .start
    obtain ⟨hfaithful, hsettled, -⟩ := scan_accounts_for_rows hread hrun
    refine ⟨calls, s, hrun, hfinal, ?_⟩
    by_cases hnone : ∀ call ∈ calls, call.failure? = none
    · -- Then both rows would have reached the sink, which refuses the second one.
      obtain ⟨summary, hok⟩ := (hsettled hfinal).complete hnone rfl
      have hlength := ((hsettled hfinal).ok summary hok).2.2.1.length_eq
      have htwo : (lines.flatMap examiner.rowsOf).length = 2 := by decide +kernel
      rw [List.length_map, htwo] at hlength
      obtain ⟨a, b, rfl⟩ := List.length_eq_two.1 hlength
      have hanswer := (hfaithful.order [a] b (List.prefix_refl _)).2
      rw [hnone b (by simp)] at hanswer
      cases hanswer
    · push Not at hnone
      obtain ⟨call, hcall, hrefused⟩ := hnone
      obtain ⟨failure, hfailure⟩ := Option.ne_none_iff_exists'.1 hrefused
      obtain ⟨front, back, hcalls⟩ := List.append_of_mem hcall
      have hanswer := (hfaithful.order front call ⟨back, by simp [hcalls]⟩).2
      rw [hfailure] at hanswer
      obtain ⟨-, rfl⟩ : _ ∧ SinkFailure.error "full" = failure := by
        simpa [full, Sink.failingAfter] using hanswer.symm
      exact ⟨_, (hsettled hfinal).refused call hcall _ hfailure⟩
  case reliable =>
    obtain ⟨calls, s, hrun, hfinal⟩ :=
      ScanState.Run.exists_isFinal (c := reliable) hbroken hroom hcalm .start
    obtain ⟨hfaithful, hsettled, -⟩ := scan_accounts_for_rows hbroken hrun
    refine ⟨calls, s, hrun, hfinal, (hsettled hfinal).unread ?_ rfl⟩
    intro call hcall
    obtain ⟨front, back, rfl⟩ := List.append_of_mem hcall
    exact (hfaithful.order front call ⟨back, by simp⟩).2

end SurveyQuests
