import SurveyQuests.Proofs.Scan.Balance

/-!
# Reading an input that may break off

An input is read line by line up to its end, or up to the first line that is not UTF-8, where it
breaks off.  (A line that cannot be read for another reason would end the input in the same way.)
`ReadsAs` says which lines come before that, for any bytes whatever.  The batches that are handed
out are then the first of these lines: all of them if the input does not break off, and otherwise
all but those that were collected for the batch that could not be completed.

## What is here

* `ReadsAs`, `exists_readsAs` — the lines before an input ends or breaks off;
* `LineSource.Faces` — the same for what is still to be handed out;
* `LineSource.Faces.next_of_le`, `LineSource.Faces.next_of_lt` — a call of `LineSource.next` with
  enough lines ahead, and one with too few;
* `LineSource.Faces.next_spec` — what a call tells;
* `LineSource.Faces.flatMap_batches` — **all that is handed out**.
-/

set_option autoImplicit false

namespace SurveyQuests

/-- Are these the texts of the lines of an input, up to its end, or up to the first line that is not
UTF-8?  The flag tells whether there is such a line, where the input breaks off. -/
inductive ReadsAs : List UInt8 → List String → Bool → Prop where
  | nil : ReadsAs [] [] false
  | broken {bs : List UInt8} (hne : bs ≠ []) (hline : decodeText? (splitLine bs).1 = none) :
      ReadsAs bs [] true
  | cons {bs : List UInt8} {line : String} {lines : List String} {broken : Bool} (hne : bs ≠ [])
      (hline : decodeText? (splitLine bs).1 = some line)
      (h : ReadsAs (splitLine bs).2 lines broken) : ReadsAs bs (line :: lines) broken

/-- Every input can be read in this way. -/
theorem exists_readsAs (bs : List UInt8) : ∃ lines broken, ReadsAs bs lines broken := by
  induction hlength : bs.length using Nat.strong_induction_on generalizing bs with
  | _ n ih =>
    by_cases hne : bs = []
    · exact ⟨[], false, hne ▸ .nil⟩
    · cases hline : decodeText? (splitLine bs).1 with
      | none => exact ⟨[], true, .broken hne hline⟩
      | some line =>
        obtain ⟨lines, broken, hrest⟩ := ih _ (hlength ▸ length_splitLine_lt hne) _ rfl
        exact ⟨line :: lines, broken, .cons hne hline hrest⟩

/-- An input all of whose lines are UTF-8 does not break off. -/
theorem LinesOf.readsAs {bs : List UInt8} {lines : List String} (h : LinesOf bs lines) :
    ReadsAs bs lines false := by
  induction h with
  | nil => exact .nil
  | cons hne hline _ ih => exact .cons hne hline ih

/-- All lines of an input that does not break off are UTF-8. -/
theorem ReadsAs.linesOf {bs : List UInt8} {lines : List String} (h : ReadsAs bs lines false) :
    LinesOf bs lines := by
  generalize hbroken : false = broken at h
  induction h with
  | nil => exact .nil
  | broken => cases hbroken
  | cons hne hline _ ih => exact .cons hne hline (ih hbroken)

namespace LineSource

/-- The lines of a batch are the next ones, unless the input ends or breaks off before the batch is
full, with too few lines ahead. -/
theorem collect_of_readsAs {bs : List UInt8} {lines : List String} {broken : Bool}
    (h : ReadsAs bs lines broken) (count : Nat) :
    (count ≤ lines.length ∧ ∃ rest, collect count bs = (lines.take count, rest, .full) ∧
        ReadsAs rest (lines.drop count) broken) ∨
      (lines.length < count ∧
        ∃ rest, collect count bs = (lines, rest, if broken then .failed else .ended)) := by
  induction count generalizing bs lines with
  | zero => exact .inl ⟨Nat.zero_le _, bs, rfl, h⟩
  | succ count ih =>
    cases h with
    | nil => exact .inr ⟨Nat.succ_pos count, [], rfl⟩
    | broken hne hline =>
      obtain ⟨b, bs, rfl⟩ := List.exists_cons_of_ne_nil hne
      refine .inr ⟨Nat.succ_pos count, (splitLine (b :: bs)).2, ?_⟩
      rw [collect]
      dsimp only
      rw [hline, if_pos rfl]
    | cons hne hline h =>
      obtain ⟨b, bs, rfl⟩ := List.exists_cons_of_ne_nil hne
      rcases ih h with ⟨hle, rest, hcollect, hrest⟩ | ⟨hlt, rest, hcollect⟩
      · refine .inl ⟨Nat.succ_le_succ hle, rest, ?_, hrest⟩
        rw [collect]
        dsimp only
        rw [hline, hcollect, List.take_succ_cons]
      · refine .inr ⟨Nat.succ_lt_succ hlt, rest, ?_⟩
        rw [collect]
        dsimp only
        rw [hline, hcollect]

/-- Are these the lines ahead, before the input ends or breaks off?  An input that has broken off
has nothing ahead. -/
def Faces (s : LineSource) (lines : List String) (broken : Bool) : Prop :=
  0 < s.batchSize ∧
    if s.done = true then lines = [] ∧ broken = false else ReadsAs s.bytes lines broken

theorem faces_ofBytes {bs : List UInt8} {lines : List String} {broken : Bool}
    (h : ReadsAs bs lines broken) (batchSize : Nat) : (ofBytes bs batchSize).Faces lines broken :=
  ⟨Nat.lt_of_lt_of_le Nat.one_pos (Nat.le_max_left 1 batchSize), h⟩

namespace Faces

variable {s s' : LineSource} {lines : List String} {broken : Bool}

/-- A call with enough lines ahead takes a full batch of them, if there is room for it. -/
theorem next_of_le (h : s.Faces lines broken) (hroom : CanReserve s.batchSize)
    (hle : s.batchSize ≤ lines.length) :
    ∃ s', s.next = .ok (some (.ok ⟨s.nextLine, lines.take s.batchSize⟩), s') ∧
      s'.Faces (lines.drop s.batchSize) broken ∧ s'.batchSize = s.batchSize ∧
      s'.nextLine = s.nextLine + s.batchSize := by
  obtain ⟨hsize, hahead⟩ := h
  have hpos : 0 < lines.length := Nat.lt_of_lt_of_le hsize hle
  split at hahead
  · exact absurd hahead.1 (List.length_pos_iff.1 hpos)
  · rename_i hopen
    rcases collect_of_readsAs hahead s.batchSize with ⟨-, rest, hcollect, hrest⟩ | ⟨hlt, -⟩
    · have hlength : (lines.take s.batchSize).length = s.batchSize := List.length_take_of_le hle
      have hne : (lines.take s.batchSize).isEmpty = false := by
        rw [← Bool.not_eq_true, List.isEmpty_iff_length_eq_zero, hlength]
        exact Nat.ne_of_gt hsize
      rw [next_of_canReserve hopen hroom, read, hcollect]
      dsimp only
      rw [if_neg (by decide), hne, if_neg Bool.false_ne_true, hlength]
      exact ⟨_, rfl, ⟨hsize, hrest⟩, rfl, rfl⟩
    · exact absurd hle (Nat.not_le_of_lt hlt)

/-- A call with too few lines ahead hands out the failure if the input breaks off, and otherwise
what is left, if anything is.  Then the source is done. -/
theorem next_of_lt (h : s.Faces lines broken) (hroom : CanReserve s.batchSize)
    (hlt : lines.length < s.batchSize) :
    ∃ s', s.next = .ok (if broken then some (.error .notText)
        else if lines.isEmpty then none else some (.ok ⟨s.nextLine, lines⟩), s') ∧
      s'.done = true ∧ s'.Faces [] false := by
  obtain ⟨hsize, hahead⟩ := h
  split at hahead
  · rename_i hdone
    obtain ⟨rfl, rfl⟩ := hahead
    rw [next_of_done hdone]
    exact ⟨s, rfl, hdone, hsize, by rw [if_pos hdone]; exact ⟨rfl, rfl⟩⟩
  · rename_i hopen
    rcases collect_of_readsAs hahead s.batchSize with ⟨hle, -⟩ | ⟨-, rest, hcollect⟩
    · exact absurd hle (Nat.not_le_of_lt hlt)
    · rw [next_of_canReserve hopen hroom, read, hcollect]
      cases broken with
      | true => exact ⟨_, rfl, rfl, hsize, rfl, rfl⟩
      | false =>
        cases lines with
        | nil => exact ⟨_, rfl, rfl, hsize, rfl, rfl⟩
        | cons line lines => exact ⟨_, rfl, rfl, hsize, rfl, rfl⟩

/-- **What the next call tells**: a batch holds the first of the lines ahead, a failure that the
input breaks off, and nothing is handed out where nothing is ahead.  The program aborts only where
there is no room for a batch. -/
theorem next_spec (h : s.Faces lines broken) :
    match s.next with
    | .ok (some (.ok batch), s') => ∃ back, lines = batch.lines ++ back ∧ s'.Faces back broken
    | .ok (some (.error _), s') => broken = true ∧ s'.Faces [] false
    | .ok (none, _) => lines = [] ∧ broken = false
    | .error _ => ¬ CanReserve s.batchSize := by
  by_cases hdone : s.done = true
  · rw [next_of_done hdone]
    have hahead := h.2
    rwa [if_pos hdone] at hahead
  by_cases hroom : CanReserve s.batchSize
  case neg =>
    rw [next_of_not_canReserve hdone hroom]
    exact hroom
  rcases Nat.lt_or_ge lines.length s.batchSize with hlt | hle
  · obtain ⟨s', hnext, -, hfaces⟩ := h.next_of_lt hroom hlt
    rw [hnext]
    cases broken with
    | true => exact ⟨rfl, hfaces⟩
    | false =>
      cases lines with
      | nil => exact ⟨rfl, rfl⟩
      | cons line lines => exact ⟨[], (List.append_nil _).symm, hfaces⟩
  · obtain ⟨s', hnext, hfaces, -⟩ := h.next_of_le hroom hle
    rw [hnext]
    exact ⟨_, (List.take_append_drop s.batchSize lines).symm, hfaces⟩

/-- **All that is handed out** are the first of the lines ahead, and all of them if there is room
for batches and the input does not break off. -/
theorem flatMap_batches (h : s.Faces lines broken) :
    ∃ back, lines = s.batches.flatMap LineBatch.lines ++ back ∧
      (CanReserve s.batchSize → broken = false → back = []) := by
  induction hlength : s.bytes.length using Nat.strong_induction_on generalizing s lines broken with
  | _ n ih =>
    have hspec := h.next_spec
    split at hspec
    · rename_i batch s' hnext
      obtain ⟨rest, hlines, hfaces⟩ := hspec
      obtain ⟨back, hrest, hback⟩ := ih _ (hlength ▸ length_next_lt hnext) hfaces rfl
      refine ⟨back, ?_, by rwa [batchSize_of_next_eq_some hnext] at hback⟩
      rw [batches_of_next_eq_batch hnext, List.flatMap_cons, hlines, hrest, List.append_assoc]
    · rename_i failure s' hnext
      obtain ⟨hbroken, hfaces⟩ := hspec
      obtain ⟨back, hnil, -⟩ := ih _ (hlength ▸ length_next_lt hnext) hfaces rfl
      refine ⟨lines, ?_, fun _ hclosed ↦ ?_⟩
      · rw [batches_of_next_eq_failure hnext, (List.nil_eq_append_iff.1 hnil).1, List.nil_append]
      · rw [hbroken] at hclosed
        cases hclosed
    · rename_i hnext
      rw [batches_of_next_eq_none hnext]
      exact ⟨[], hspec.1, fun _ _ ↦ rfl⟩
    · rename_i hnext
      rw [batches_of_next_eq_error hnext]
      exact ⟨lines, rfl, fun hroom ↦ absurd hroom hspec⟩

end Faces

end LineSource

end SurveyQuests
