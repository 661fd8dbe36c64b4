import SurveyQuests.Proofs.Element.EditDate
import SurveyQuests.Proofs.Scan.Outcome

/-!
# Lines that are survived

Every line that is not blank counts, as a record or as something else, and no line does any harm to
the lines around it: with a single exception.  A line that begins with a record whose edit is late
(`Element.HasLateEdit`) leaves the whole batch without an outcome.  Such a line should count as a
record whose edit is on an unknown day; so "no line is fatal" is false, and what is true is that
late edits are the only fatal thing in a line.

## What is here

* `Line.HoldsLateEdit`, `Line.aborts_iff` — the lines that abort the program;
* `Examiner.outcomeFrom_eq_ok_iff` — when lines have an outcome;
* `Line.countP_isRecord_add_countP_isMalformed` — every line that is not blank counts once;
* `batch_survives_iff` — **a batch is survived unless one of its lines holds a late edit**;
* `batch_not_survived` — a batch of one line that is not survived.
-/

set_option autoImplicit false

namespace SurveyQuests

namespace Line

/-- Does the line have nothing but blanks? -/
def isBlank (line : String) : Bool := (Character.trim line.toList).isEmpty

/-- Does the line begin with a record that has a late edit? -/
def HoldsLateEdit (line : String) : Prop :=
  ∃ v rest, Json.readValue? (Character.trim line.toList) = some (v, rest) ∧ Element.HasLateEdit v

theorem aborts_iff {line : String} : Aborts line ↔ HoldsLateEdit line :=
  Element.ofLine_eq_beyondCalendar_iff

/-- A blank line holds no record. -/
theorem isBlank_eq_false_of_isRecord {line : String} (h : isRecord line = true) :
    isBlank line = false := by
  cases hblank : isBlank line with
  | false => rfl
  | true =>
    rw [isRecord, List.isEmpty_iff.1 hblank, Examiner.ofLine_nil] at h
    cases h

/-- **Every line that is not blank counts once**, as a record or as something else. -/
theorem countP_isRecord_add_countP_isMalformed (lines : List String) :
    lines.countP isRecord + lines.countP isMalformed = lines.countP fun line ↦ !isBlank line := by
  induction lines with
  | nil => rfl
  | cons line lines ih =>
    have hone : (if isRecord line = true then 1 else 0) + (if isMalformed line = true then 1 else 0)
        = if (!isBlank line) = true then 1 else 0 := by
      cases hrecord : isRecord line with
      | true => simp [isMalformed, hrecord, isBlank_eq_false_of_isRecord hrecord]
      | false => simp [isMalformed, hrecord, isBlank]
    rw [List.countP_cons, List.countP_cons, List.countP_cons, ← ih, ← hone]
    omega

end Line

namespace Examiner

/-- Lines among which one aborts the program have no outcome. -/
theorem outcomeFrom_of_aborts (x : Examiner) (number : Nat) {line : String} {lines : List String}
    (hmem : line ∈ lines) (h : Line.Aborts line) :
    x.outcomeFrom number lines = .error .beyondCalendar := by
  induction lines generalizing number with
  | nil => cases hmem
  | cons first lines ih =>
    by_cases hfirst : Line.Aborts first
    · rw [outcomeFrom, x.lineOutcome_of_aborts number hfirst]
      rfl
    · rcases List.mem_cons.1 hmem with rfl | hmem
      · exact absurd h hfirst
      · rw [outcomeFrom, x.lineOutcome_eq_ok number hfirst, ih (number + 1) hmem]
        rfl

/-- **Lines have an outcome if none of them aborts the program**, and then it counts every line that
is not blank. -/
theorem outcomeFrom_eq_ok_iff (x : Examiner) (number : Nat) (lines : List String) :
    (∃ o, x.outcomeFrom number lines = .ok o ∧
        o.records + o.malformed.length = lines.countP fun line ↦ !Line.isBlank line) ↔
      ∀ line ∈ lines, ¬ Line.Aborts line := by
  constructor
  · rintro ⟨o, ho, -⟩ line hmem haborts
    rw [x.outcomeFrom_of_aborts number hmem haborts] at ho
    cases ho
  · intro hcalm
    refine ⟨x.outcomeOf number lines, x.outcomeFrom_eq_ok number hcalm, ?_⟩
    rw [outcomeOf, Line.length_malformedFrom, Line.countP_isRecord_add_countP_isMalformed]

end Examiner

/-- **A batch is survived unless one of its lines holds a late edit**, whatever the catalog and the
day of reference: it has an outcome, which counts every line that is not blank.  Every value but a
late point in time gives a day of the edit or is unreadable. -/
theorem batch_survives_iff (x : Examiner) (batch : LineBatch) (v : Json) :
    ((∃ o, x.batchOutcome batch = .ok o ∧
        o.records + o.malformed.length = batch.lines.countP fun line ↦ !Line.isBlank line) ↔
      ∀ line ∈ batch.lines, ¬ Line.HoldsLateEdit line) ∧
      (EditDate.ofJson v = .beyondCalendar ↔ EditDate.IsLate v) := by
  refine ⟨?_, EditDate.ofJson_eq_beyondCalendar_iff⟩
  simp only [← Line.aborts_iff]
  exact x.outcomeFrom_eq_ok_iff batch.firstLine batch.lines

/-- The node of this line was edited half an hour before midnight on the last day of the calendar,
by a clock one hour behind universal time. -/
theorem batch_not_survived :
    ¬ ∀ (x : Examiner) (batch : LineBatch), ∃ o, x.batchOutcome batch = .ok o ∧
        o.records + o.malformed.length = batch.lines.countP fun line ↦ !Line.isBlank line := by
  intro hall
  let line := "\x7b\"type\":\"node\",\"id\":7,\"edited\":\"9999-12-31T23:30:00-01:00\"\x7d"
  let x : Examiner := ⟨{ quests := [] }, ⟨2024, 1, 1, by decide⟩⟩
  have haborts : Line.Aborts line := by decide +kernel
  exact (x.outcomeFrom_eq_ok_iff 1 [line]).1 (hall x ⟨1, [line]⟩) line List.mem_cons_self haborts

end SurveyQuests
