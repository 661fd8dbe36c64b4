import Mathlib.Data.List.Basic
import SurveyQuests.Element.Reader
import SurveyQuests.Proofs.Json.RoundTrip
import SurveyQuests.Proofs.Scan.Lines
import SurveyQuests.Scan.Output

/-!
# Rows are told from an output

An output holds the rows that were written to it and nothing else, and they can be told from it: its
lines are those of the rows, and each of them reads back as its row.  So an output belongs to no
other rows.

There are two reasons.  No line feed is written inside a row, since all control characters of a
quest's name are escaped (`Json.Written.isPrinted`); and JSON that is written is read back as it was
(`Json.read?_compact`).

## What is here

* `Row.ofJson?`, `Row.read?` — reads a row, with `Row.read?_line`;
* `textLines_linesText` — the lines of rows;
* `RowWriter.Takes.total` — what was written, wherever it is;
* `RowWriter.Takes.framed` — **the rows of an output**.
-/

set_option autoImplicit false

namespace SurveyQuests

/-! ## Reading a row -/

namespace Row

/-- The row of a value: an object that has the three fields once each. -/
def ofJson? : Json → Option Row
  | .object members =>
    match Json.fields "quest" members, Json.fields "type" members, Json.fields "id" members with
    | [.string (some quest)], [kind], [id] => do
      return ⟨quest, ← Element.readKind? kind, ← Element.readId? id⟩
    | _, _, _ => none
  | _ => none

/-- The row of a text. -/
def read? (text : String) : Option Row := (Json.read? text).bind ofJson?

theorem written_json (row : Row) : row.json.Written := by
  refine .object ?_ ?_
  · simp
  · simp only [List.map_cons, List.map_nil, List.forall_mem_cons]
    exact ⟨.string _, .string _, .number (Json.Numeral.proper_ofInt _), List.forall_mem_nil _⟩

theorem integer?_ofInt (i : Int) : (Json.Numeral.ofInt i).integer? = some i := by
  have hsize : Decimal.ofDigits (Nat.toDigits 10 i.natAbs) = i.natAbs :=
    Decimal.ofDigits_toDigits _
  rw [Json.Numeral.ofInt, Json.Numeral.integer?]
  simp only [List.isEmpty_nil, Option.isNone_none, Bool.and_self, if_true, hsize,
    decide_eq_true_eq]
  by_cases hi : i < 0
  · rw [if_pos hi, if_neg (by omega)]
    congr 1
    omega
  · rw [if_neg hi]
    congr 1
    omega

/-- A number of at most 64 bits is read back from its digits. -/
theorem readId?_ofInt (id : Int64) : Element.readId? (.ofInt id.toInt) = some id := by
  have hword : (Json.Numeral.ofInt id.toInt).word? = some id.toInt := by
    rw [Json.Numeral.word?, integer?_ofInt]
    exact if_pos ⟨id.le_toInt, id.toInt_lt⟩
  rw [Json.ofInt, Element.readId?, hword, Option.map_some, Int64.ofInt_toInt]

theorem ofJson?_json (row : Row) : ofJson? row.json = some row := by
  have hkind : Element.readKind? (.text row.kind.text) = some row.kind :=
    ElementKind.ofText?_text row.kind
  have hfields : ofJson? row.json = (do
      return ⟨row.quest, ← Element.readKind? (.text row.kind.text),
        ← Element.readId? (.ofInt row.id.toInt)⟩) := rfl
  rw [hfields, hkind, readId?_ofInt]
  rfl

/-- **A row is read back from its line.** -/
theorem read?_line (row : Row) : read? row.line = some row := by
  rw [read?, line, Json.read?_compact row.written_json, Option.bind_some, ofJson?_json]

theorem line_ne_empty (row : Row) : row.line ≠ "" := by
  intro h
  have hread := row.read?_line
  rw [h] at hread
  cases hread

theorem lineFeed_not_mem_line (row : Row) : '\n' ∉ row.line.toList := by
  rw [line, Json.compact, String.toList_ofList]
  exact fun h ↦ (row.written_json.isPrinted _ h).ne_lineFeed rfl

theorem line_injective : Function.Injective line := by
  intro a b h
  have ha := a.read?_line
  rw [h, b.read?_line] at ha
  exact (Option.some_inj.1 ha).symm

end Row

/-! ## The lines of rows -/

/-- A line goes up to its line feed. -/
theorem charLines_append_lineFeed {cs : List Char} (h : '\n' ∉ cs) (rest : List Char) :
    charLines (cs ++ '\n' :: rest) = (cs ++ ['\n']) :: charLines rest := by
  induction cs with
  | nil => rw [List.nil_append, charLines, if_pos rfl, List.nil_append]
  | cons c cs ih =>
    have hc : c ≠ '\n' := fun hc ↦ h (hc ▸ List.mem_cons_self)
    have hcs : '\n' ∉ cs := fun hcs ↦ h (List.mem_cons_of_mem c hcs)
    rw [List.cons_append, charLines, if_neg hc, ih hcs]
    rfl

theorem toList_linesText_cons (row : Row) (rows : List Row) :
    (Row.linesText (row :: rows)).toList =
      row.line.toList ++ '\n' :: (Row.linesText rows).toList := by
  simp [Row.linesText]

/-- **The lines of rows**, in their order. -/
theorem textLines_linesText (rows : List Row) :
    textLines (Row.linesText rows) = rows.map fun row ↦ row.line ++ "\n" := by
  induction rows with
  | nil => rfl
  | cons row rows ih =>
    have hline : String.ofList (row.line.toList ++ ['\n']) = row.line ++ "\n" := by
      simp [String.ofList_append]
    rw [textLines] at ih
    rw [textLines, toList_linesText_cons, charLines_append_lineFeed row.lineFeed_not_mem_line,
      List.map_cons, List.map_cons, hline, ih]

/-- Rows are told from their text. -/
theorem linesText_injective : Function.Injective Row.linesText := by
  intro rows rows' h
  have hlines := congrArg textLines h
  rw [textLines_linesText, textLines_linesText] at hlines
  refine List.map_injective_iff.2 ?_ hlines
  intro a b hab
  exact Row.line_injective ((String.append_left_inj _).1 hab)

/-! ## What has been written -/

theorem encodeText_eq (text : String) : encodeText text = utf8Bytes text.toList := by
  have h := toByteArray_utf8Bytes text.toList
  rw [String.ofList_toList] at h
  rw [encodeText, ← h]

theorem flatMap_bytes (rows : List Row) :
    rows.flatMap Row.bytes = encodeText (Row.linesText rows) := by
  induction rows with
  | nil => rfl
  | cons row rows ih =>
    rw [List.flatMap_cons, ih, Row.bytes]
    simp [encodeText_eq, toList_linesText_cons, utf8Bytes]

namespace RowWriter

/-- Whatever goes on to the output after each row, nothing is lost and nothing comes in between. -/
theorem Takes.total_eq {w w' : RowWriter} {rows : List Row} (h : Takes w rows w') :
    w'.total = w.total ++ rows.flatMap Row.bytes := by
  induction h with
  | nil => simp
  | cons count _ ih => simp [ih]

/-- In the end the output holds the text of the rows. -/
theorem Takes.decodeText?_arrived {w : RowWriter} {rows : List Row} (h : Takes {} rows w) :
    decodeText? w.finish.arrived = some (Row.linesText rows) := by
  rw [decodeText?_eq_some_iff, arrived_finish, h.total_eq, flatMap_bytes, encodeText_eq]
  rfl

/-- **The rows of an output.**  When rows have been written and the buffer is emptied, the output is
a text with one line for each row, in the order of the rows.  Each of these lines ends with the only
line feed it has, is not empty before it, and reads back as its row.  No other rows come with the
same output. -/
theorem Takes.framed {w : RowWriter} {rows : List Row} (h : Takes {} rows w) :
    ∃ text, decodeText? w.finish.arrived = some text ∧
      textLines text = rows.map (fun row ↦ row.line ++ "\n") ∧
      (∀ row ∈ rows, row.line ≠ "" ∧ '\n' ∉ row.line.toList ∧ Row.read? row.line = some row) ∧
      ∀ (rows' : List Row) (w' : RowWriter), Takes {} rows' w' →
        w'.finish.arrived = w.finish.arrived → rows' = rows := by
  refine ⟨_, h.decodeText?_arrived, textLines_linesText rows, ?_, ?_⟩
  · intro row _
    exact ⟨row.line_ne_empty, row.lineFeed_not_mem_line, row.read?_line⟩
  · intro rows' w' h' hw
    have htext := h'.decodeText?_arrived
    rw [hw, h.decodeText?_arrived, Option.some_inj] at htext
    exact (linesText_injective htext).symm

theorem Takes.framed_breaks :
    ∃ w, Takes {} [⟨"\n\"", .node, -9223372036854775808⟩, ⟨"é\x01", .way, 7⟩] w ∧
      ∃ text, decodeText? w.finish.arrived = some text ∧
        textLines text =
          ["\x7b\"quest\":\"\\n\\\"\",\"type\":\"node\",\"id\":-9223372036854775808\x7d\n",
            "\x7b\"quest\":\"é\\u0001\",\"type\":\"way\",\"id\":7\x7d\n"] := by
  -- Five bytes go on after the first row, and forty after the second.
  have h : ∃ w, Takes {} [⟨"\n\"", .node, -9223372036854775808⟩, ⟨"é\x01", .way, 7⟩] w :=
    ⟨_, .cons 5 (.cons 40 .nil)⟩
  obtain ⟨w, hw⟩ := h
  obtain ⟨text, htext, hlines, -⟩ := hw.framed
  refine ⟨w, hw, text, htext, ?_⟩
  rw [hlines]
  decide +kernel

end RowWriter

end SurveyQuests
