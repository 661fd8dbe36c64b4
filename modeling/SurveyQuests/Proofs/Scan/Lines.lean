import SurveyQuests.Scan.Lines

/-!
# The lines of a text and their batches

An input that is UTF-8 is split where its text is: no byte of a character other than the line feed
is the line feed.  So the batches of the input are the lines of the text in chunks, and no failure
is handed out.

What is handed out in general is described by `LineSource.toList`, which takes one item at a time as
`LineSource.next` does: every item shortens the input.

## What is here

* `textLines`, `LinesOf` — the lines of a text, and of bytes;
* `linesOf_textLines` — the bytes of a text have the lines of the text;
* `LineSource.toList_of_next_eq_some`, `LineSource.toList_of_next_eq_none` — the items one by one;
* `LineSource.exists_toList_eq_ok` — all items, where there is room for batches;
* `LineSource.Holds`, `LineSource.next_of_holds_cons` — the batches of the lines that are ahead.
-/

set_option autoImplicit false

namespace SurveyQuests

/-! ## The bytes of a text -/

/-- The bytes of characters. -/
def utf8Bytes (cs : List Char) : List UInt8 := cs.flatMap String.utf8EncodeChar

theorem utf8Bytes_cons (c : Char) (cs : List Char) :
    utf8Bytes (c :: cs) = String.utf8EncodeChar c ++ utf8Bytes cs := by
  rw [utf8Bytes, List.flatMap_cons, utf8Bytes]

theorem toByteArray_utf8Bytes (cs : List Char) :
    ByteArray.mk (utf8Bytes cs).toArray = (String.ofList cs).toByteArray := by
  rw [String.toByteArray_ofList, List.utf8Encode, utf8Bytes, ByteArray.ext_iff,
    List.data_toByteArray]

/-- A text is what its bytes decode to. -/
theorem decodeText?_eq_some_iff {bs : List UInt8} {text : String} :
    decodeText? bs = some text ↔ bs = utf8Bytes text.toList := by
  have hbytes : text.toByteArray = ByteArray.mk bs.toArray ↔ bs = utf8Bytes text.toList := by
    have htext := toByteArray_utf8Bytes text.toList
    rw [String.ofList_toList] at htext
    rw [← htext, ByteArray.ext_iff]
    constructor
    · intro h
      simpa using (congrArg Array.toList h).symm
    · intro h
      rw [h]
  rw [decodeText?, String.fromUTF8?]
  split
  · rename_i h
    rw [Option.some_inj, ← hbytes, ← String.toByteArray_inj]
    exact eq_comm
  · rename_i h
    rw [← hbytes]
    constructor
    · intro hnone
      cases hnone
    · intro heq
      exact absurd (heq ▸ text.isValidUTF8) h

/-- The line feed is a byte of no other character. -/
theorem ne_lineFeed_of_mem {c : Char} (h : c ≠ '\n') :
    ∀ b ∈ String.utf8EncodeChar c, b ≠ lineFeed := by
  have hv : c.val.toNat ≠ 10 := by
    intro hv
    exact h (Char.ext (UInt32.toNat_inj.1 hv))
  have hbyte : ∀ n : Nat, n < 256 → n ≠ 10 → UInt8.ofNat n ≠ lineFeed := by
    intro n hlt hne heq
    have hn := congrArg UInt8.toNat heq
    rw [UInt8.toNat_ofNat_of_lt' hlt] at hn
    exact hne hn
  intro b hb
  unfold String.utf8EncodeChar at hb
  dsimp only at hb
  split at hb
  · rw [List.mem_singleton.1 hb]
    exact hbyte _ (by omega) hv
  · split at hb
    · simp only [List.mem_cons, List.not_mem_nil, or_false] at hb
      rcases hb with rfl | rfl <;> exact hbyte _ (by omega) (by omega)
    · split at hb
      · simp only [List.mem_cons, List.not_mem_nil, or_false] at hb
        rcases hb with rfl | rfl | rfl <;> exact hbyte _ (by omega) (by omega)
      · simp only [List.mem_cons, List.not_mem_nil, or_false] at hb
        rcases hb with rfl | rfl | rfl | rfl <;> exact hbyte _ (by omega) (by omega)

/-! ## Lines -/

/-- The lines of characters, each with its line feed; the last line may have none. -/
def charLines : List Char → List (List Char)
  | [] => []
  | c :: cs =>
    if c = '\n' then [c] :: charLines cs
    else
      match charLines cs with
      | [] => [[c]]
      | line :: lines => (c :: line) :: lines

theorem charLines_ne_nil (c : Char) (cs : List Char) : charLines (c :: cs) ≠ [] := by
  rw [charLines]
  split
  · exact List.cons_ne_nil _ _
  · split <;> exact List.cons_ne_nil _ _

/-- **The lines of a text**, each with its line feed; the last line may have none. -/
def textLines (text : String) : List String := (charLines text.toList).map String.ofList

/-- Are all lines of the bytes UTF-8, and are these their texts? -/
inductive LinesOf : List UInt8 → List String → Prop where
  | nil : LinesOf [] []
  | cons {bs : List UInt8} {line : String} {lines : List String} (hne : bs ≠ [])
      (hline : decodeText? (splitLine bs).1 = some line) (h : LinesOf (splitLine bs).2 lines) :
      LinesOf bs (line :: lines)

theorem LinesOf.unique {bs : List UInt8} {lines lines' : List String} (h : LinesOf bs lines)
    (h' : LinesOf bs lines') : lines = lines' := by
  induction h generalizing lines' with
  | nil =>
    cases h' with
    | nil => rfl
    | cons hne => exact absurd rfl hne
  | cons hne hline _ ih =>
    cases h' with
    | nil => exact absurd rfl hne
    | cons _ hline' h' => rw [ih h', Option.some_inj.1 (hline.symm.trans hline')]

theorem splitLine_append_of_forall {front : List UInt8} (h : ∀ b ∈ front, b ≠ lineFeed)
    (bs : List UInt8) :
    splitLine (front ++ bs) = (front ++ (splitLine bs).1, (splitLine bs).2) := by
  induction front with
  | nil => rfl
  | cons b front ih =>
    rw [List.cons_append, splitLine, if_neg (h b List.mem_cons_self),
      ih fun d hd ↦ h d (List.mem_cons_of_mem b hd)]
    rfl

theorem linesOf_utf8Bytes (cs : List Char) :
    LinesOf (utf8Bytes cs) ((charLines cs).map String.ofList) := by
  induction cs with
  | nil => exact .nil
  | cons c cs ih =>
    have hne : utf8Bytes (c :: cs) ≠ [] := by
      rw [utf8Bytes_cons]
      exact List.append_ne_nil_of_left_ne_nil String.utf8EncodeChar_ne_nil _
    by_cases hc : c = '\n'
    · subst hc
      have hsplit : splitLine (utf8Bytes ('\n' :: cs)) = ([lineFeed], utf8Bytes cs) := rfl
      rw [charLines, if_pos rfl, List.map_cons]
      refine .cons hne ?_ ?_
      · rw [hsplit, decodeText?_eq_some_iff]
        rfl
      · rw [hsplit]
        exact ih
    · have hsplit := splitLine_append_of_forall (ne_lineFeed_of_mem hc) (utf8Bytes cs)
      rw [← utf8Bytes_cons] at hsplit
      rw [charLines, if_neg hc]
      -- The first character joins the first line of the rest, if there is one.
      cases hlines : charLines cs with
      | nil =>
        obtain rfl : cs = [] := by
          cases cs with
          | nil => rfl
          | cons d cs => exact absurd hlines (charLines_ne_nil d cs)
        refine .cons hne ?_ ?_
        · rw [hsplit, decodeText?_eq_some_iff, String.toList_ofList, utf8Bytes_cons]
          rfl
        · rw [hsplit]
          exact .nil
      | cons line lines =>
        rw [hlines, List.map_cons] at ih
        generalize utf8Bytes cs = bs at ih hsplit
        cases ih with
        | cons _ hline hrest =>
          rw [decodeText?_eq_some_iff, String.toList_ofList] at hline
          refine .cons hne ?_ ?_
          · rw [hsplit, hline, decodeText?_eq_some_iff, String.toList_ofList, utf8Bytes_cons]
          · rw [hsplit]
            exact hrest

/-- **The bytes of a text have the lines of the text.** -/
theorem linesOf_textLines {bs : List UInt8} {text : String} (h : decodeText? bs = some text) :
    LinesOf bs (textLines text) := by
  rw [decodeText?_eq_some_iff.1 h]
  exact linesOf_utf8Bytes text.toList

namespace LineSource

/-! ## One item after another -/

theorem length_collect_le (count : Nat) (bs : List UInt8) :
    (collect count bs).2.1.length + (collect count bs).1.length ≤ bs.length := by
  induction count generalizing bs with
  | zero => exact Nat.le_refl _
  | succ count ih =>
    cases bs with
    | nil => exact Nat.le_refl _
    | cons b bs =>
      have hlt := length_splitLine_lt (List.cons_ne_nil b bs)
      have hle := ih (splitLine (b :: bs)).2
      rw [collect]
      dsimp only
      split
      · exact Nat.le_of_lt hlt
      · calc (collect count (splitLine (b :: bs)).2).2.1.length +
              ((collect count (splitLine (b :: bs)).2).1.length + 1)
          _ ≤ (splitLine (b :: bs)).2.length + 1 := Nat.add_le_add_right hle 1
          _ ≤ (b :: bs).length := hlt

theorem length_collect_lt_of_failed {count : Nat} {bs : List UInt8}
    (h : (collect count bs).2.2 = .failed) : (collect count bs).2.1.length < bs.length := by
  induction count generalizing bs with
  | zero => cases h
  | succ count ih =>
    cases bs with
    | nil => cases h
    | cons b bs =>
      have hlt := length_splitLine_lt (List.cons_ne_nil b bs)
      rw [collect] at h ⊢
      dsimp only at h ⊢
      split at h
      · exact hlt
      · exact Nat.lt_trans (ih h) hlt

variable {s s' : LineSource}

theorem next_of_done (h : s.done = true) : s.next = .ok (none, s) := by
  rw [next, if_pos h]

theorem next_of_canReserve (hopen : ¬ s.done = true) (hroom : CanReserve s.batchSize) :
    s.next = .ok s.read := by
  rw [next, if_neg hopen, if_pos hroom]

theorem next_of_not_canReserve (hopen : ¬ s.done = true) (hroom : ¬ CanReserve s.batchSize) :
    s.next = .error .capacityOverflow := by
  rw [next, if_neg hopen, if_neg hroom]

/-- Without room for a batch the first call aborts the program, whatever the input. -/
theorem next_ofBytes_of_not_canReserve (bs : List UInt8) {batchSize : Nat}
    (hroom : ¬ CanReserve (max 1 batchSize)) :
    (ofBytes bs batchSize).next = .error .capacityOverflow :=
  next_of_not_canReserve Bool.false_ne_true hroom

/-- **What a call hands out has been read**, and room for it was reserved. -/
theorem read_of_next_eq_some {item : Except ReadFailure LineBatch}
    (h : s.next = .ok (some item, s')) : s.read = (some item, s') ∧ CanReserve s.batchSize := by
  rw [next] at h
  split at h
  · cases h
  · split at h
    · rename_i hroom
      exact ⟨Except.ok.inj h, hroom⟩
    · cases h

theorem batchSize_read (s : LineSource) : s.read.2.batchSize = s.batchSize := by
  rw [read]
  dsimp only
  split
  · rfl
  · split <;> rfl

/-- All batches have the same size. -/
theorem batchSize_of_next_eq_some {item : Except ReadFailure LineBatch}
    (h : s.next = .ok (some item, s')) : s'.batchSize = s.batchSize := by
  rw [← batchSize_read s, (read_of_next_eq_some h).1]

/-- A batch has at least one line, and takes at least one byte for each of its lines. -/
theorem length_of_next_eq_batch {batch : LineBatch} (h : s.next = .ok (some (.ok batch), s')) :
    batch.lines ≠ [] ∧ s'.bytes.length + batch.lines.length ≤ s.bytes.length := by
  have hle := length_collect_le s.batchSize s.bytes
  obtain ⟨hread, -⟩ := read_of_next_eq_some h
  rw [read] at hread
  dsimp only at hread
  split at hread
  · cases hread
  · split at hread
    · cases hread
    · rename_i hlines
      cases hread
      exact ⟨by simpa using hlines, hle⟩

/-- After a failure nothing is handed out, and the failure takes at least one byte. -/
theorem done_of_next_eq_failure {failure : ReadFailure}
    (h : s.next = .ok (some (.error failure), s')) :
    s'.done = true ∧ s'.bytes.length < s.bytes.length := by
  obtain ⟨hread, -⟩ := read_of_next_eq_some h
  rw [read] at hread
  dsimp only at hread
  split at hread
  · rename_i hstop
    have hlt := length_collect_lt_of_failed hstop
    cases hread
    exact ⟨by simp [hstop], hlt⟩
  · split at hread <;> cases hread

theorem length_next_lt {item : Except ReadFailure LineBatch} (h : s.next = .ok (some item, s')) :
    s'.bytes.length < s.bytes.length := by
  cases item with
  | ok batch =>
    obtain ⟨hne, hle⟩ := length_of_next_eq_batch h
    have := List.length_pos_iff.2 hne
    omega
  | error failure => exact (done_of_next_eq_failure h).2

theorem take_eq_take {m n : Nat} (hm : s.bytes.length < m) (hn : s.bytes.length < n) :
    s.take m = s.take n := by
  induction m generalizing s n with
  | zero => exact absurd hm (Nat.not_lt_zero _)
  | succ m ih =>
    obtain ⟨n, rfl⟩ := Nat.exists_eq_succ_of_ne_zero (Nat.ne_of_gt (Nat.zero_lt_of_lt hn))
    rw [take, take]
    split
    · rfl
    · rfl
    · rename_i item s' h
      have hlt := length_next_lt h
      rw [ih (s := s') (n := n) (by omega) (by omega)]

theorem toList_of_next_eq_error {abort : Abort} (h : s.next = .error abort) :
    s.toList = .error abort := by
  rw [toList, take, h]

theorem toList_of_next_eq_none (h : s.next = .ok (none, s')) : s.toList = .ok [] := by
  rw [toList, take, h]

/-- **The items are what is handed out one after another.** -/
theorem toList_of_next_eq_some {item : Except ReadFailure LineBatch}
    (h : s.next = .ok (some item, s')) : s.toList = s'.toList.map (item :: ·) := by
  have hlt := length_next_lt h
  rw [toList, take, h]
  dsimp only
  rw [toList, take_eq_take hlt (Nat.lt_succ_self _)]

/-- Where there is room for batches, a call is answered. -/
theorem exists_next_eq_ok (hroom : CanReserve s.batchSize) :
    ∃ item s', s.next = .ok (item, s') := by
  by_cases hdone : s.done = true
  · exact ⟨_, _, next_of_done hdone⟩
  · exact ⟨_, _, next_of_canReserve hdone hroom⟩

/-- Where there is room for batches, all calls are answered. -/
theorem exists_toList_eq_ok (hroom : CanReserve s.batchSize) : ∃ items, s.toList = .ok items := by
  induction hlength : s.bytes.length using Nat.strongRecOn generalizing s with
  | ind n ih =>
    obtain ⟨item, s', hnext⟩ := exists_next_eq_ok hroom
    cases item with
    | none => exact ⟨[], toList_of_next_eq_none hnext⟩
    | some item =>
      have hroom' : CanReserve s'.batchSize := by rwa [batchSize_of_next_eq_some hnext]
      obtain ⟨items, hitems⟩ := ih _ (hlength ▸ length_next_lt hnext) hroom' rfl
      refine ⟨item :: items, ?_⟩
      rw [toList_of_next_eq_some hnext, hitems]
      rfl

/-! ## The batches of a text -/

theorem collect_of_linesOf {bs : List UInt8} {lines : List String} (h : LinesOf bs lines)
    (count : Nat) :
    ∃ rest, collect count bs =
        (lines.take count, rest, if count ≤ lines.length then .full else .ended) ∧
      LinesOf rest (lines.drop count) := by
  induction count generalizing bs lines with
  | zero => exact ⟨bs, rfl, h⟩
  | succ count ih =>
    cases h with
    | nil => exact ⟨[], rfl, .nil⟩
    | @cons _ line lines hne hline h =>
      obtain ⟨b, bs, rfl⟩ := List.exists_cons_of_ne_nil hne
      obtain ⟨rest, hcollect, hrest⟩ := ih h
      refine ⟨rest, ?_, hrest⟩
      have hlength : count + 1 ≤ (line :: lines).length ↔ count ≤ lines.length :=
        Nat.succ_le_succ_iff
      rw [collect]
      dsimp only
      rw [hline, hcollect]
      simp only [hlength, List.take_succ_cons]

/-- Are these the lines ahead, and is there room for batches of them? -/
structure Holds (s : LineSource) (lines : List String) : Prop where
  linesOf : LinesOf s.bytes lines
  batchSize_pos : 0 < s.batchSize
  room : CanReserve s.batchSize
  eq_nil : s.done = true → lines = []

theorem holds_ofBytes {bs : List UInt8} {text : String} (h : decodeText? bs = some text)
    {batchSize : Nat} (hroom : CanReserve (max 1 batchSize)) :
    (ofBytes bs batchSize).Holds (textLines text) where
  linesOf := linesOf_textLines h
  batchSize_pos := Nat.lt_of_lt_of_le Nat.one_pos (Nat.le_max_left 1 batchSize)
  room := hroom
  eq_nil hdone := by cases hdone

theorem next_of_holds_nil (h : s.Holds []) : ∃ s', s.next = .ok (none, s') := by
  by_cases hdone : s.done = true
  · exact ⟨s, next_of_done hdone⟩
  · obtain ⟨hlines, hsize, hroom, -⟩ := h
    rw [next_of_canReserve hdone hroom, read]
    obtain ⟨size, hs⟩ := Nat.exists_eq_succ_of_ne_zero (Nat.ne_of_gt hsize)
    generalize s.bytes = bs at hlines
    cases hlines
    rw [hs]
    exact ⟨_, rfl⟩

/-- **The next batch are the next lines**, as many as a batch has or all that are left. -/
theorem next_of_holds_cons {line : String} {lines : List String} (h : s.Holds (line :: lines)) :
    ∃ s', s.next = .ok (some (.ok ⟨s.nextLine, line :: lines.take (s.batchSize - 1)⟩), s') ∧
      s'.Holds (lines.drop (s.batchSize - 1)) ∧ s'.batchSize = s.batchSize ∧
      s'.nextLine = s.nextLine + (line :: lines.take (s.batchSize - 1)).length := by
  obtain ⟨hlines, hsize, hroom, hdone⟩ := h
  obtain ⟨size, hs⟩ := Nat.exists_eq_succ_of_ne_zero (Nat.ne_of_gt hsize)
  obtain ⟨rest, hcollect, hrest⟩ := collect_of_linesOf hlines s.batchSize
  have hopen : ¬ s.done = true := fun hd ↦ List.cons_ne_nil _ _ (hdone hd)
  rw [hs, Nat.succ_sub_one]
  rw [hs, List.take_succ_cons] at hcollect
  rw [hs, List.drop_succ_cons] at hrest
  rw [next_of_canReserve hopen hroom, read, hs, hcollect]
  dsimp only
  rw [if_neg (by split <;> simp), if_neg (by simp)]
  refine ⟨_, rfl, ⟨hrest, Nat.succ_pos size, hs ▸ hroom, ?_⟩, rfl, rfl⟩
  intro hd
  have hshort : ¬ size + 1 ≤ (line :: lines).length := by
    intro hfull
    rw [if_pos hfull] at hd
    cases hd
  rw [List.length_cons] at hshort
  exact List.drop_eq_nil_of_le (by omega)

end LineSource

/-- A list in pieces of a size, only the last of which may be shorter; no size counts as one. -/
def chunks {α : Type} (size : Nat) : List α → List (List α)
  | [] => []
  | a :: l => (a :: l.take (size - 1)) :: chunks size (l.drop (size - 1))
termination_by l => l.length
decreasing_by
  rw [List.length_drop, List.length_cons]
  omega

theorem flatten_chunks {α : Type} (size : Nat) (l : List α) : (chunks size l).flatten = l := by
  induction l using chunks.induct size with
  | case1 => rw [chunks, List.flatten_nil]
  | case2 a l ih =>
    rw [chunks, List.flatten_cons, ih, List.cons_append, List.take_append_drop]

end SurveyQuests
