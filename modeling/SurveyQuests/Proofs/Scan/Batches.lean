import Mathlib.Algebra.Order.Floor.Div
import Mathlib.Data.List.SplitBy
import Mathlib.Data.List.TakeWhile
import SurveyQuests.Proofs.Scan.Reading

/-!
# Batches call by call

`LineSource.next` goes on from where the last call stopped, so what a call hands out is found by
following the calls before it.  As long as there are enough lines ahead a call takes a full batch of
them and leaves the rest, which is what `LineSource.Faces` says about the source afterwards; after
`i` calls the source faces the lines that are left without the first `i` batches.  The call that
finds too few lines is the last one that matters: whatever it hands out, the source is done
afterwards.  All this takes room for a batch, without which not even the first call comes to an end.

The lines are those of the bytes, split after each line feed with no regard to what they hold.  That
the source reads these lines, and gives up at the first that is not UTF-8, is `ReadsAs.byteLines`.

## What is here

* `byteLines`, `ReadsAs.byteLines` — the lines of bytes, and those that are read as texts;
* `LineSource.after`, `LineSource.call` — the source after some calls, and what a call hands out;
* `LineSource.Faces.exists_after` — any number of calls that have enough lines ahead;
* `LineSource.Faces.call_of_whole`, `LineSource.Faces.call_of_broken` — every call;
* `LineSource.calls_keep_every_line` — **what all the calls hand out**.
-/

set_option autoImplicit false

namespace SurveyQuests

/-! ## The lines of bytes -/

/-- The lines of bytes, which end after each line feed; the last line may have none. -/
def byteLines (bytes : List UInt8) : List (List UInt8) := bytes.splitBy fun b _ ↦ b != lineFeed

/-- Are the bytes UTF-8? -/
def isUtf8 (bs : List UInt8) : Bool := (decodeText? bs).isSome

/-- The lines of a batch as bytes. -/
def LineBatch.byteLines (batch : LineBatch) : List (List UInt8) :=
  batch.lines.map fun line ↦ utf8Bytes line.toList

theorem splitLine_ne_nil {bs : List UInt8} (h : bs ≠ []) : (splitLine bs).1 ≠ [] := by
  intro hnil
  have hlength := length_splitLine_lt h
  have happend := splitLine_append bs
  rw [hnil, List.nil_append] at happend
  rw [happend] at hlength
  exact Nat.lt_irrefl _ hlength

/-- Only the last byte of a line may be a line feed. -/
theorem isChain_splitLine (bs : List UInt8) :
    (splitLine bs).1.IsChain fun b _ ↦ b != lineFeed := by
  induction bs with
  | nil => exact .nil
  | cons b bs ih =>
    rw [splitLine]
    split
    · exact .singleton b
    · rename_i hb
      exact List.isChain_cons.2 ⟨fun _ _ ↦ bne_iff_ne.2 hb, ih⟩

/-- A line that is not the last one ends with a line feed. -/
theorem getLast?_splitLine {bs : List UInt8} (h : (splitLine bs).2 ≠ []) :
    (splitLine bs).1.getLast? = some lineFeed := by
  induction bs with
  | nil => exact absurd rfl h
  | cons b bs ih =>
    rw [splitLine] at h ⊢
    split
    · rename_i hb
      rw [hb, List.getLast?_singleton]
    · rename_i hb
      rw [if_neg hb] at h
      rw [List.getLast?_cons, ih h, Option.getD_some]

theorem byteLines_eq_cons {bs : List UInt8} (h : bs ≠ []) :
    byteLines bs = (splitLine bs).1 :: byteLines (splitLine bs).2 := by
  have hends : ∀ b ∈ (splitLine bs).1.getLast?, ∀ d ∈ (splitLine bs).2.head?,
      (b != lineFeed) = false := by
    intro b hb d hd
    have hrest : (splitLine bs).2 ≠ [] := by
      intro hnil
      rw [hnil] at hd
      cases hd
    rw [getLast?_splitLine hrest, Option.mem_some_iff] at hb
    rw [← hb, bne_self_eq_false]
  calc byteLines bs
    _ = byteLines ((splitLine bs).1 ++ (splitLine bs).2) := by rw [splitLine_append]
    _ = byteLines (splitLine bs).1 ++ byteLines (splitLine bs).2 := List.splitBy_append hends
    _ = (splitLine bs).1 :: byteLines (splitLine bs).2 := by
      rw [byteLines, List.splitBy_of_isChain (splitLine_ne_nil h) (isChain_splitLine bs)]
      rfl

/-- **What is read** are the lines before the first one that is not UTF-8. -/
theorem ReadsAs.byteLines {bs : List UInt8} {lines : List String} {broken : Bool}
    (h : ReadsAs bs lines broken) :
    (lines.map fun line ↦ utf8Bytes line.toList) = (byteLines bs).takeWhile isUtf8 ∧
      (broken = false ↔ ∀ line ∈ byteLines bs, isUtf8 line = true) := by
  induction h with
  | nil => exact ⟨rfl, by simp [SurveyQuests.byteLines]⟩
  | @broken bs hne hline =>
    have hutf8 : isUtf8 (splitLine bs).1 = false := by rw [isUtf8, hline, Option.isSome_none]
    rw [byteLines_eq_cons hne]
    simp [hutf8]
  | @cons bs line lines broken hne hline _ ih =>
    have hutf8 : isUtf8 (splitLine bs).1 = true := by rw [isUtf8, hline, Option.isSome_some]
    rw [byteLines_eq_cons hne]
    refine ⟨?_, ?_⟩
    · rw [List.map_cons, List.takeWhile_cons_of_pos hutf8, ih.1, ← decodeText?_eq_some_iff.1 hline]
    · rw [ih.2, List.forall_mem_cons, and_iff_right hutf8]

namespace LineSource

/-! ## Calls -/

/-- The source after so many calls, if none of them aborts the program. -/
def after (s : LineSource) : ℕ → Except Abort LineSource
  | 0 => .ok s
  | calls + 1 => (s.after calls).bind fun s ↦ s.next.map Prod.snd

/-- What a call hands out; the first call has number 0. -/
def call (s : LineSource) (i : ℕ) : Except Abort (Option (Except ReadFailure LineBatch)) :=
  (s.after i).bind fun s ↦ s.next.map Prod.fst

variable {s s' s'' : LineSource} {lines : List String} {broken : Bool} {i : ℕ}
  {item : Option (Except ReadFailure LineBatch)}

theorem after_succ_of_next (h : s.after i = .ok s') (hnext : s'.next = .ok (item, s'')) :
    s.after (i + 1) = .ok s'' := by
  rw [after, h, Except.bind, hnext]
  rfl

theorem call_of_next (h : s.after i = .ok s') (hnext : s'.next = .ok (item, s'')) :
    s.call i = .ok item := by
  rw [call, h, Except.bind, hnext]
  rfl

/-- After a call that aborts the program there is no other. -/
theorem call_of_next_eq_error {abort : Abort} (h : s.next = .error abort) (i : ℕ) :
    s.call i = .error abort := by
  have hafter : ∀ calls, s.after (calls + 1) = .error abort := by
    intro calls
    induction calls with
    | zero =>
      rw [after, after, Except.bind, h]
      rfl
    | succ calls ih =>
      rw [after, ih]
      rfl
  cases i with
  | zero =>
    rw [call, after, Except.bind, h]
    rfl
  | succ i =>
    rw [call, hafter]
    rfl

/-- A source that is done stays so. -/
theorem after_of_done (h : s.after i = .ok s') (hdone : s'.done = true) {j : ℕ} (hle : i ≤ j) :
    s.after j = .ok s' := by
  induction j, hle using Nat.le_induction with
  | base => exact h
  | succ j _ ih => exact after_succ_of_next ih (next_of_done hdone)

namespace Faces

/-- **After some calls** that had enough lines ahead the source faces the lines after their
batches. -/
theorem exists_after (h : s.Faces lines broken) (hroom : CanReserve s.batchSize)
    (hle : i * s.batchSize ≤ lines.length) :
    ∃ s', s.after i = .ok s' ∧ s'.Faces (lines.drop (i * s.batchSize)) broken ∧
      s'.batchSize = s.batchSize ∧ s'.nextLine = s.nextLine + i * s.batchSize := by
  induction i with
  | zero =>
    rw [Nat.zero_mul]
    exact ⟨s, rfl, h, rfl, rfl⟩
  | succ i ih =>
    rw [Nat.succ_mul] at hle ⊢
    obtain ⟨s', hafter, hfaces, hsize, hnumber⟩ := ih (Nat.le_of_add_right_le hle)
    rw [← hsize] at hroom
    obtain ⟨s'', hnext, hfaces', hsize', hnumber'⟩ := hfaces.next_of_le hroom (by
      rw [hsize, List.length_drop]
      exact Nat.le_sub_of_add_le' hle)
    rw [hsize, List.drop_drop] at hfaces'
    exact ⟨s'', after_succ_of_next hafter hnext, hfaces', hsize'.trans hsize,
      by rw [hnumber', hnumber, hsize, Nat.add_assoc]⟩

end Faces

/-! ## All calls -/

/-- A batch has lines if there are lines after the batches before it. -/
theorem lt_ceilDiv_iff {size count : ℕ} (hsize : 0 < size) :
    i < count ⌈/⌉ size ↔ i * size < count := by
  rw [← Nat.not_le, ceilDiv_le_iff_le_mul hsize, Nat.not_le, Nat.mul_comm]

/-- A batch of a size, by its number, of lines the first of which has number 1. -/
def batchOf (lines : List String) (size i : ℕ) : LineBatch :=
  ⟨i * size + 1, (lines.drop (i * size)).take size⟩

/-- The first batches of lines. -/
def firstBatches (lines : List String) (size count : ℕ) : List LineBatch :=
  (List.range count).map (batchOf lines size)

theorem length_firstBatches (lines : List String) (size count : ℕ) :
    (firstBatches lines size count).length = count := by
  rw [firstBatches, List.length_map, List.length_range]

theorem getElem?_firstBatches (lines : List String) (size count i : ℕ) :
    (firstBatches lines size count)[i]? =
      if i < count then some (batchOf lines size i) else none := by
  rw [firstBatches, List.getElem?_map]
  split
  · rename_i hi
    rw [List.getElem?_range hi, Option.map_some]
  · rename_i hi
    rw [List.getElem?_eq_none (by rwa [List.length_range, ← Nat.not_lt]), Option.map_none]

/-- The first batches hold the first lines. -/
theorem flatMap_firstBatches (lines : List String) (size count : ℕ) :
    (firstBatches lines size count).flatMap LineBatch.lines = lines.take (count * size) := by
  induction count with
  | zero => rw [Nat.zero_mul]; rfl
  | succ count ih =>
    rw [firstBatches] at ih
    rw [firstBatches, List.range_succ, List.map_append, List.flatMap_append, ih, Nat.succ_mul,
      List.take_add, List.map_singleton, List.flatMap_singleton, batchOf]

namespace Faces

/-- A call with enough lines ahead hands out the full batch of its number. -/
theorem call_of_le (h : s.Faces lines broken) (hroom : CanReserve s.batchSize)
    (hfirst : s.nextLine = 1) (hle : (i + 1) * s.batchSize ≤ lines.length) :
    s.call i = .ok (some (.ok (batchOf lines s.batchSize i))) := by
  rw [Nat.succ_mul] at hle
  obtain ⟨s', hafter, hfaces, hsize, hnumber⟩ :=
    h.exists_after hroom (Nat.le_of_add_right_le hle)
  obtain ⟨s'', hnext, -⟩ := hfaces.next_of_le (by rwa [hsize]) (by
    rw [hsize, List.length_drop]
    exact Nat.le_sub_of_add_le' hle)
  rw [call_of_next hafter hnext, hsize, hnumber, hfirst, batchOf, Nat.add_comm 1]

/-- The first call with too few lines ahead hands out the failure, the lines that are left, or
nothing if the lines came out even; it is the last that reads. -/
theorem after_last (h : s.Faces lines broken) (hroom : CanReserve s.batchSize)
    (hfirst : s.nextLine = 1) (hle : i * s.batchSize ≤ lines.length)
    (hlt : lines.length < (i + 1) * s.batchSize) :
    s.call i = .ok (if broken then some (.error .notText)
      else if lines.length = i * s.batchSize then none
      else some (.ok (batchOf lines s.batchSize i))) ∧
      ∃ s', s.after (i + 1) = .ok s' ∧ s'.done = true := by
  rw [Nat.succ_mul] at hlt
  obtain ⟨s', hafter, hfaces, hsize, hnumber⟩ := h.exists_after hroom hle
  have hshort : (lines.drop (i * s.batchSize)).length < s.batchSize := by
    rw [List.length_drop]
    omega
  obtain ⟨s'', hnext, hdone, -⟩ := hfaces.next_of_lt (by rwa [hsize]) (by rwa [hsize])
  refine ⟨?_, s'', after_succ_of_next hafter hnext, hdone⟩
  rw [call_of_next hafter hnext, hnumber, hfirst, batchOf, Nat.add_comm 1,
    List.take_of_length_le hshort.le]
  have hempty : (lines.drop (i * s.batchSize)).isEmpty = true ↔
      lines.length = i * s.batchSize := by
    rw [List.isEmpty_iff, List.drop_eq_nil_iff]
    omega
  simp only [hempty]

/-- All later calls hand out nothing. -/
theorem call_of_lt (h : s.Faces lines broken) (hroom : CanReserve s.batchSize)
    (hfirst : s.nextLine = 1) (hlt : lines.length < i * s.batchSize) : s.call i = .ok none := by
  have hlast : lines.length / s.batchSize * s.batchSize ≤ lines.length := Nat.div_mul_le_self _ _
  have hshort : lines.length < (lines.length / s.batchSize + 1) * s.batchSize :=
    (Nat.div_lt_iff_lt_mul h.1).1 (Nat.lt_succ_self _)
  obtain ⟨-, s', hafter, hdone⟩ := h.after_last hroom hfirst hlast hshort
  have hi : lines.length / s.batchSize + 1 ≤ i := (Nat.div_lt_iff_lt_mul h.1).2 hlt
  exact call_of_next (after_of_done hafter hdone hi) (next_of_done hdone)

/-- **All calls on an input that does not break off** hand out batches of all the lines. -/
theorem call_of_whole (h : s.Faces lines false) (hroom : CanReserve s.batchSize)
    (hfirst : s.nextLine = 1) (i : ℕ) :
    s.call i =
      .ok ((firstBatches lines s.batchSize (lines.length ⌈/⌉ s.batchSize)).map Except.ok)[i]? := by
  rw [List.getElem?_map, getElem?_firstBatches]
  simp only [lt_ceilDiv_iff h.1]
  -- Full batches come first, then a short one unless the lines come out even, and then nothing.
  rcases Nat.lt_or_ge lines.length (i * s.batchSize) with hlt | hle
  · rw [h.call_of_lt hroom hfirst hlt, if_neg hlt.asymm, Option.map_none]
  · rcases Nat.lt_or_ge lines.length ((i + 1) * s.batchSize) with hlt | hfull
    · rw [(h.after_last hroom hfirst hle hlt).1, if_neg Bool.false_ne_true]
      rcases Nat.lt_or_eq_of_le hle with hlt | heq
      · rw [if_neg hlt.ne', if_pos hlt, Option.map_some]
      · rw [if_pos heq.symm, if_neg heq.not_lt, Option.map_none]
    · have hlt : i * s.batchSize < lines.length :=
        Nat.lt_of_lt_of_le (Nat.mul_lt_mul_of_pos_right i.lt_succ_self h.1) hfull
      rw [h.call_of_le hroom hfirst hfull, if_pos hlt, Option.map_some]

/-- **All calls on an input that breaks off** hand out the full batches before, and the failure. -/
theorem call_of_broken (h : s.Faces lines true) (hroom : CanReserve s.batchSize)
    (hfirst : s.nextLine = 1) (i : ℕ) :
    s.call i =
      .ok ((firstBatches lines s.batchSize (lines.length / s.batchSize)).map Except.ok ++
        [.error .notText])[i]? := by
  have hlength := length_firstBatches lines s.batchSize (lines.length / s.batchSize)
  rcases Nat.lt_trichotomy i (lines.length / s.batchSize) with hlt | rfl | hgt
  · have hfull : (i + 1) * s.batchSize ≤ lines.length := (Nat.le_div_iff_mul_le h.1).1 hlt
    rw [h.call_of_le hroom hfirst hfull,
      List.getElem?_append_left (by rwa [List.length_map, hlength]), List.getElem?_map,
      getElem?_firstBatches, if_pos hlt, Option.map_some]
  · have hshort : lines.length < (lines.length / s.batchSize + 1) * s.batchSize :=
      (Nat.div_lt_iff_lt_mul h.1).1 (Nat.lt_succ_self _)
    rw [(h.after_last hroom hfirst (Nat.div_mul_le_self _ _) hshort).1, if_pos rfl,
      List.getElem?_append_right (by rw [List.length_map, hlength]), List.length_map, hlength,
      Nat.sub_self, List.getElem?_cons_zero]
  · rw [h.call_of_lt hroom hfirst ((Nat.div_lt_iff_lt_mul h.1).1 hgt), List.getElem?_eq_none]
    rw [List.length_append, List.length_map, hlength]
    exact hgt

end Faces

theorem flatMap_byteLines_firstBatches (lines : List String) (size count : ℕ) :
    (firstBatches lines size count).flatMap LineBatch.byteLines =
      (lines.map fun line ↦ utf8Bytes line.toList).take (count * size) := by
  rw [← List.map_take, ← flatMap_firstBatches, List.map_flatMap]
  rfl

theorem length_batchOf (lines : List String) (size i : ℕ) :
    (batchOf lines size i).lines.length = min size (lines.length - i * size) := by
  rw [batchOf, List.length_take, List.length_drop]

theorem eq_batchOf_of_getElem? {size count : ℕ} {batch : LineBatch}
    (h : (firstBatches lines size count)[i]? = some batch) :
    i < count ∧ batch = batchOf lines size i := by
  rw [getElem?_firstBatches] at h
  split at h
  · rename_i hi
    exact ⟨hi, (Option.some_inj.1 h).symm⟩
  · cases h

/-- As many batches as it takes hold all the lines, and only the last of them may be short. -/
theorem firstBatches_ceilDiv {size : ℕ} (hsize : 0 < size) {batch : LineBatch}
    (h : (firstBatches lines size (lines.length ⌈/⌉ size))[i]? = some batch) :
    batch.firstLine = i * size + 1 ∧ batch.lines ≠ [] ∧ batch.lines.length ≤ size ∧
      (i + 1 < lines.length ⌈/⌉ size → batch.lines.length = size) := by
  obtain ⟨hi, rfl⟩ := eq_batchOf_of_getElem? h
  have hlength := length_batchOf lines size i
  have hsome := (lt_ceilDiv_iff hsize).1 hi
  refine ⟨rfl, ?_, ?_, fun hmore ↦ ?_⟩
  · rw [← List.length_pos_iff, hlength]
    omega
  · rw [hlength]
    exact Nat.min_le_left _ _
  · have hnext := (lt_ceilDiv_iff hsize).1 hmore
    rw [Nat.succ_mul] at hnext
    omega

/-- As many batches as there are lines for are full. -/
theorem firstBatches_div {size : ℕ} (hsize : 0 < size) {batch : LineBatch}
    (h : (firstBatches lines size (lines.length / size))[i]? = some batch) :
    batch.firstLine = i * size + 1 ∧ batch.lines.length = size := by
  obtain ⟨hi, rfl⟩ := eq_batchOf_of_getElem? h
  have hahead : (i + 1) * size ≤ lines.length := (Nat.le_div_iff_mul_le hsize).1 hi
  rw [Nat.succ_mul] at hahead
  refine ⟨rfl, ?_⟩
  rw [length_batchOf]
  omega

/-- **All calls together lose, repeat and renumber nothing, if there is room for a batch.**  Let
there be `k` lines before the first one that is not UTF-8, or altogether, and `b` lines in a batch.
If all lines are UTF-8, then the calls hand out all of them in batches, only the last of which may
have less than `b` lines.  Otherwise they hand out the full batches before the line that is not, and
then the failure.  Either way the lines keep their numbers, counted from 1, and all further calls
hand out nothing.  Without room for `b` lines there is no call that does not abort the program. -/
theorem calls_keep_every_line (bytes : List UInt8) (size : ℕ) :
    let s := ofBytes bytes size
    let b := max 1 size
    let k := ((byteLines bytes).takeWhile isUtf8).length
    (CanReserve b →
      ((∀ line ∈ byteLines bytes, isUtf8 line = true) →
        ∃ batches : List LineBatch, (∀ i, s.call i = .ok (batches.map .ok)[i]?) ∧
          batches.length = k ⌈/⌉ b ∧ batches.flatMap LineBatch.byteLines = byteLines bytes ∧
          (batches.flatMap LineBatch.byteLines).flatten = bytes ∧
          ∀ i, ∀ batch ∈ batches[i]?, batch.firstLine = i * b + 1 ∧ batch.lines ≠ [] ∧
            batch.lines.length ≤ b ∧ (i + 1 < batches.length → batch.lines.length = b)) ∧
      ((∃ line ∈ byteLines bytes, isUtf8 line = false) →
        ∃ batches : List LineBatch,
          (∀ i, s.call i = .ok (batches.map .ok ++ [.error .notText])[i]?) ∧
          batches.length = k / b ∧
          batches.flatMap LineBatch.byteLines = (byteLines bytes).take (k / b * b) ∧
          ∀ i, ∀ batch ∈ batches[i]?, batch.firstLine = i * b + 1 ∧ batch.lines.length = b)) ∧
    (¬ CanReserve b → ∀ i, s.call i = .error .capacityOverflow) := by
  intro s b k
  refine ⟨fun hroom ↦ ?_,
    fun hroom ↦ call_of_next_eq_error (next_ofBytes_of_not_canReserve bytes hroom)⟩
  obtain ⟨texts, broken, hreads⟩ := exists_readsAs bytes
  obtain ⟨htexts, hbroken⟩ := hreads.byteLines
  have hfaces : s.Faces texts broken := faces_ofBytes hreads size
  have hb : 0 < b := hfaces.1
  have hk : k = texts.length := by rw [← List.length_map, htexts]
  refine ⟨fun hvalid ↦ ?_, fun ⟨line, hline, hinvalid⟩ ↦ ?_⟩
  · obtain rfl := hbroken.2 hvalid
    have hall : k ≤ k ⌈/⌉ b * b := by
      rw [Nat.mul_comm]
      exact (ceilDiv_le_iff_le_mul hb).1 le_rfl
    have hlines : (firstBatches texts b (k ⌈/⌉ b)).flatMap LineBatch.byteLines =
        byteLines bytes := by
      rw [flatMap_byteLines_firstBatches, htexts, List.take_of_length_le hall,
        List.takeWhile_eq_self_iff.2 hvalid]
    refine ⟨firstBatches texts b (k ⌈/⌉ b), ?_, length_firstBatches _ _ _, hlines, ?_, ?_⟩
    · rw [hk]
      exact hfaces.call_of_whole hroom rfl
    · rw [hlines]
      exact List.flatten_splitBy _ _
    · intro i batch hbatch
      rw [length_firstBatches, hk]
      rw [hk] at hbatch
      exact firstBatches_ceilDiv hb hbatch
  · obtain rfl : broken = true := by
      rw [← Bool.not_eq_false, hbroken]
      intro hvalid
      rw [hvalid line hline] at hinvalid
      cases hinvalid
    have hfull : k / b * b ≤ k := Nat.div_mul_le_self k b
    have hfront : (byteLines bytes).takeWhile isUtf8 = (byteLines bytes).take k :=
      List.prefix_iff_eq_take.1 (List.takeWhile_prefix isUtf8)
    refine ⟨firstBatches texts b (k / b), ?_, length_firstBatches _ _ _, ?_, ?_⟩
    · rw [hk]
      exact hfaces.call_of_broken hroom rfl
    · rw [flatMap_byteLines_firstBatches, htexts, hfront, List.take_take, Nat.min_eq_left hfull]
    · intro i batch hbatch
      rw [hk] at hbatch
      exact firstBatches_div hb hbatch

/-- The theorem for an input of three lines, the last without a line feed, in batches of two, and
for one whose fourth line is not UTF-8. -/
theorem calls_keep_every_line_of_three :
    let whole : List UInt8 := [97, 10, 195, 164, 10, 98]
    let cut : List UInt8 := [97, 10, 10, 98, 10, 255, 10, 99]
    ((∀ line ∈ byteLines whole, isUtf8 line = true) ∧
      ∃ batches : List LineBatch, batches.length = 2 ∧
        (∀ i, (ofBytes whole 2).call i = .ok (batches.map .ok)[i]?) ∧
        (batches.flatMap LineBatch.byteLines).flatten = whole) ∧
    (∃ line ∈ byteLines cut, isUtf8 line = false) ∧
      ∃ batches : List LineBatch, batches.length = 1 ∧
        (∀ i, (ofBytes cut 2).call i = .ok (batches.map .ok ++ [.error .notText])[i]?) ∧
        batches.flatMap LineBatch.byteLines = [[97, 10], [10]] := by
  intro whole cut
  have hwhole : ∀ line ∈ byteLines whole, isUtf8 line = true := by decide +kernel
  have hcut : ∃ line ∈ byteLines cut, isUtf8 line = false := by decide +kernel
  have hroom : CanReserve (max 1 2) := by decide
  obtain ⟨batches, hcalls, hlength, -, hbytes, -⟩ :=
    ((calls_keep_every_line whole 2).1 hroom).1 hwhole
  obtain ⟨front, hfront, hcount, hlines, -⟩ := ((calls_keep_every_line cut 2).1 hroom).2 hcut
  have htwo : ((byteLines whole).takeWhile isUtf8).length ⌈/⌉ 2 = 2 := by decide +kernel
  have hone : ((byteLines cut).takeWhile isUtf8).length / 2 = 1 := by decide +kernel
  have htake : (byteLines cut).take (((byteLines cut).takeWhile isUtf8).length / 2 * 2) =
      [[97, 10], [10]] := by decide +kernel
  exact ⟨⟨hwhole, batches, hlength.trans htwo, hcalls, hbytes⟩, hcut, front, hcount.trans hone,
    hfront, hlines.trans htake⟩

/-- There is one line, and it is UTF-8, but it is not handed out in a batch of this size: room for
so many lines cannot be reserved. -/
theorem call_without_room :
    let bytes : List UInt8 := [97, 10]
    let s := ofBytes bytes 9223372036854775807
    (∀ line ∈ byteLines bytes, isUtf8 line = true) ∧ s.call 0 = .error .capacityOverflow ∧
      ¬ ∃ batches : List LineBatch, ∀ i, s.call i = .ok (batches.map .ok)[i]? := by
  intro bytes s
  have hroom : ¬ CanReserve (max 1 9223372036854775807) := by decide
  have hcall := call_of_next_eq_error (next_ofBytes_of_not_canReserve bytes hroom)
  refine ⟨by decide +kernel, hcall 0, ?_⟩
  rintro ⟨batches, hbatches⟩
  cases (hcall 0).symm.trans (hbatches 0)

end LineSource

end SurveyQuests
