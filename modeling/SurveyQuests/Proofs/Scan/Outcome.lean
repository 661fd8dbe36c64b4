import SurveyQuests.Scan.Batch

/-!
# What comes of lines one after another

Whether a line is a record, and whether it is blank, is a matter of the line alone; so what comes of
lines that do not abort the program can be said of each line by itself.

## What is here

* `Line.isRecord`, `Line.isMalformed`, `Line.Aborts` — the kinds of lines;
* `Line.malformedFrom` — the numbers of the lines that hold something else than a record;
* `Examiner.rowsOf`, `Examiner.outcomeOf` — rows of a line, and what comes of lines;
* `Examiner.outcomeFrom_eq_ok` — **this is the outcome of lines that do not abort**.
-/

set_option autoImplicit false

namespace SurveyQuests

namespace Line

/-- Does the line hold the record of an element? -/
def isRecord (line : String) : Bool := (Element.ofLine (Character.trim line.toList)).toBool

/-- Is the line neither blank nor a record? -/
def isMalformed (line : String) : Bool :=
  !(Character.trim line.toList).isEmpty && !isRecord line

/-- Does the line abort the program, by an edit beyond the calendar? -/
def Aborts (line : String) : Prop :=
  Element.ofLine (Character.trim line.toList) = .error .beyondCalendar

instance (line : String) : Decidable (Aborts line) :=
  match h : Element.ofLine (Character.trim line.toList) with
  | .error .beyondCalendar => isTrue h
  | .error .invalid => isFalse fun ha ↦ nomatch h.symm.trans ha
  | .ok _ => isFalse fun ha ↦ nomatch h.symm.trans ha

/-- The numbers of the lines that are neither blank nor records; the first line has the number
given. -/
def malformedFrom (number : Nat) (lines : List String) : List Nat :=
  ((lines.zipIdx number).filter fun p ↦ isMalformed p.1).map Prod.snd

theorem malformedFrom_nil (number : Nat) : malformedFrom number [] = [] := rfl

theorem malformedFrom_append (number : Nat) (front back : List String) :
    malformedFrom number (front ++ back) =
      malformedFrom number front ++ malformedFrom (number + front.length) back := by
  rw [malformedFrom, List.zipIdx_append, List.filter_append, List.map_append]
  rfl

/-- The numbers are all different. -/
theorem nodup_malformedFrom (number : Nat) (lines : List String) :
    (malformedFrom number lines).Nodup := by
  have hsub : (malformedFrom number lines).Sublist ((lines.zipIdx number).map Prod.snd) :=
    List.filter_sublist.map Prod.snd
  rw [List.zipIdx_map_snd] at hsub
  exact List.Nodup.sublist hsub List.nodup_range'

theorem length_malformedFrom (number : Nat) (lines : List String) :
    (malformedFrom number lines).length = lines.countP isMalformed := by
  induction lines generalizing number with
  | nil => rfl
  | cons line lines ih =>
    have hih := ih (number + 1)
    rw [malformedFrom, List.length_map] at hih ⊢
    rw [List.zipIdx_cons, List.filter_cons, List.countP_cons]
    split <;> simp [hih]

end Line

/-! ## Outcomes follow each other -/

namespace BatchOutcome

theorem append_assoc (a b c : BatchOutcome) : (a.append b).append c = a.append (b.append c) := by
  simp only [append, List.append_assoc, Nat.add_assoc]

theorem empty_append (a : BatchOutcome) : BatchOutcome.append {} a = a := by
  rw [append, List.nil_append, List.nil_append, Nat.zero_add]

end BatchOutcome

namespace Examiner

variable (x : Examiner)

/-- The rows of a line; a line that holds no record has none. -/
def rowsOf (line : String) : List Row :=
  ((x.lineRows (Character.trim line.toList)).toOption).getD []

/-- What comes of lines from a number on. -/
def outcomeOf (number : Nat) (lines : List String) : BatchOutcome :=
  ⟨lines.flatMap x.rowsOf, lines.countP Line.isRecord, Line.malformedFrom number lines⟩

theorem outcomeOf_append (number : Nat) (front back : List String) :
    x.outcomeOf number (front ++ back) =
      (x.outcomeOf number front).append (x.outcomeOf (number + front.length) back) := by
  rw [outcomeOf, List.flatMap_append, List.countP_append, Line.malformedFrom_append]
  rfl

theorem outcomeOf_cons (number : Nat) (line : String) (lines : List String) :
    x.outcomeOf number (line :: lines) =
      (x.outcomeOf number [line]).append (x.outcomeOf (number + 1) lines) :=
  x.outcomeOf_append number [line] lines

/-- A blank line is not a record. -/
theorem ofLine_nil : Element.ofLine [] = .error .invalid := by rfl

/-- A line that does not abort has an outcome of its own. -/
theorem lineOutcome_eq_ok (number : Nat) {line : String} (h : ¬ Line.Aborts line) :
    x.lineOutcome number line = .ok (x.outcomeOf number [line]) := by
  rw [lineOutcome]
  by_cases hblank : Character.trim line.toList = []
  · have hrecord : Line.isRecord line = false := by
      rw [Line.isRecord, hblank]
      rfl
    have hrows : x.rowsOf line = [] := by
      rw [rowsOf, hblank]
      rfl
    rw [if_pos (by rw [hblank]; rfl)]
    simp [outcomeOf, hrows, hrecord, Line.malformedFrom, Line.isMalformed, hblank]
  · have hempty : (Character.trim line.toList).isEmpty = false := by simpa using hblank
    rw [hempty, if_neg Bool.false_ne_true]
    rw [Line.Aborts] at h
    cases helement : Element.ofLine (Character.trim line.toList) with
    | ok e =>
      simp [lineRows, helement, Except.map, outcomeOf, rowsOf, Except.toOption, Line.isRecord,
        Except.toBool, Line.malformedFrom, Line.isMalformed]
    | error failure =>
      cases failure with
      | beyondCalendar => exact absurd helement h
      | invalid =>
        simp [lineRows, helement, Except.map, outcomeOf, rowsOf, Except.toOption, Line.isRecord,
          Except.toBool, Line.malformedFrom, Line.isMalformed, hempty]

theorem lineOutcome_of_aborts (number : Nat) {line : String} (h : Line.Aborts line) :
    x.lineOutcome number line = .error .beyondCalendar := by
  rw [Line.Aborts] at h
  have hblank : Character.trim line.toList ≠ [] := by
    intro hnil
    rw [hnil, ofLine_nil] at h
    cases h
  rw [lineOutcome, if_neg (by simpa using hblank)]
  simp [lineRows, h, Except.map]

/-- Where a line has an outcome at all, it is its own. -/
theorem eq_outcomeOf_of_lineOutcome {number : Nat} {line : String} {o : BatchOutcome}
    (h : x.lineOutcome number line = .ok o) : o = x.outcomeOf number [line] := by
  have hcalm : ¬ Line.Aborts line := by
    intro haborts
    rw [x.lineOutcome_of_aborts number haborts] at h
    cases h
  rw [x.lineOutcome_eq_ok number hcalm] at h
  exact (Except.ok.inj h).symm

/-- **What comes of lines that do not abort.** -/
theorem outcomeFrom_eq_ok (number : Nat) {lines : List String}
    (h : ∀ line ∈ lines, ¬ Line.Aborts line) :
    x.outcomeFrom number lines = .ok (x.outcomeOf number lines) := by
  induction lines generalizing number with
  | nil => rfl
  | cons line lines ih =>
    rw [outcomeFrom, x.lineOutcome_eq_ok number (h line List.mem_cons_self),
      ih (number + 1) fun l hl ↦ h l (List.mem_cons_of_mem line hl),
      x.outcomeOf_cons number line lines]
    rfl

end Examiner

end SurveyQuests
