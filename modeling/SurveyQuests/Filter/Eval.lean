import SurveyQuests.Element.Basic
import SurveyQuests.Filter.Basic

/-!
# What a filter says about an element

`Filter.holds` tells whether a filter holds for an element.  There are no errors: a key without a
tag, or a value that is no number or no date, makes a condition false, or true where the condition
is the negated one.

Whether a date condition holds also depends on the day of reference, and on the policy for dates
that are known only in part; `EvalContext` has the two.

## What is here

* `readNumeric?` — the number that a value starts with;
* `knownDate?` — the latest date known for the target of a date condition;
* `Condition.holds`, `Filter.holds`.
-/

set_option autoImplicit false

namespace SurveyQuests

/-- What the meaning of a filter depends on besides the element. -/
structure EvalContext where
  /-- The day of reference for relative dates. -/
  reference : Date
  /-- The policy for dates that are known only in part. -/
  policy : PinningPolicy := .conservative

/-! ## Numbers -/

/-- May the character stand in the number that a value starts with? -/
def isNumeralChar (c : Char) : Bool := c.isDigit || c == '.' || c == '-'

/-- The number of a value: the whole value, which may be any text of a number but has to be finite,
or else digits, points and minus signs at its front, as in `50 mph`. -/
def readNumeric? (s : String) : Option Binary64 :=
  match Binary64.read? (Character.trim s.toList) with
  | some x => if x.isFinite then some x else none
  | none => Binary64.read? ((s.toList.dropWhile Character.isSpace).takeWhile isNumeralChar)

/-- Numbers that differ by less than this count as equal: the distance from one to the next greater
number. -/
def Binary64.tolerance : Binary64 := .ofRatio false 1 (Nat.pow 2 52)

/-- Compares two numbers. -/
def Comparison.test (op : Comparison) (x y : Binary64) : Bool :=
  match op with
  | .eq => (x.sub y).abs.lt .tolerance
  | .ne => Binary64.tolerance.le (x.sub y).abs
  | .lt => x.lt y
  | .le => x.le y
  | .gt => y.lt x
  | .ge => y.le x

/-! ## Dates -/

/-- The days that the values of the keys are pinned to. -/
def pinnedDates (keys : TagDateKeys) (direction : Direction) (e : Element)
    (policy : PinningPolicy) : List Date :=
  keys.candidates.filterMap fun k ↦ do
    let span ← DateSpan.read? (← e.tags.get? k).toList
    some (policy.pin direction span)

/-- The latest date known for the target of a date condition.  The edit of an element tells
something about a key only if there is a tag with the key or with a check date key of it. -/
def knownDate? (target : DateTarget) (direction : Direction) (e : Element)
    (policy : PinningPolicy) : Option Date :=
  match target with
  | .element => e.edited
  | .tag keys =>
    if keys.candidates.any e.tags.contains then
      Date.latestOf? (pinnedDates keys direction e policy ++ e.edited.toList)
    else none

/-- Does a day lie in a direction from another? -/
def Direction.test (direction : Direction) (d threshold : Date) : Bool :=
  match direction with
  | .older => d.before threshold
  | .newer => threshold.before d

/-! ## Conditions and filters -/

/-- Does the condition hold for the element? -/
def Condition.holds (c : Condition) (e : Element) (ctx : EvalContext) : Bool :=
  match c with
  | .hasKey key negated => e.tags.contains key != negated
  | .keyMatches pattern negated => e.tags.keys.any pattern.isMatch != negated
  | .compares key op value =>
    match e.tags.get? key with
    | some actual => if op = .ne then actual != value else actual == value
    | none => op == .ne
  | .valueMatches key pattern negated =>
    match e.tags.get? key with
    | some actual => pattern.isMatch actual != negated
    | none => negated
  | .oneOf key values negated =>
    match e.tags.get? key with
    | some actual => values.contains actual != negated
    | none => negated
  | .numeric key op value =>
    match (e.tags.get? key).bind readNumeric? with
    | some actual => op.test actual value
    | none => false
  | .date target direction anchor =>
    match knownDate? target direction e ctx.policy with
    | some d => direction.test d (anchor.resolve ctx.reference)
    | none => false

namespace Filter

mutual

/-- **Does the filter hold for the element?** -/
def holds (e : Element) (ctx : EvalContext) : Filter → Bool
  | .condition c => c.holds e ctx
  | .all fs => allHold e ctx fs
  | .any fs => anyHolds e ctx fs
  | .not f => !f.holds e ctx
  | .always => true

/-- Do all filters of a list hold for the element? -/
def allHold (e : Element) (ctx : EvalContext) : List Filter → Bool
  | [] => true
  | f :: fs => f.holds e ctx && allHold e ctx fs

/-- Does some filter of a list hold for the element? -/
def anyHolds (e : Element) (ctx : EvalContext) : List Filter → Bool
  | [] => false
  | f :: fs => f.holds e ctx || anyHolds e ctx fs

end

theorem allHold_eq_all (e : Element) (ctx : EvalContext) (fs : List Filter) :
    allHold e ctx fs = fs.all (holds e ctx) := by
  induction fs with
  | nil => rfl
  | cons f fs ih => rw [allHold, ih, List.all_cons]

theorem anyHolds_eq_any (e : Element) (ctx : EvalContext) (fs : List Filter) :
    anyHolds e ctx fs = fs.any (holds e ctx) := by
  induction fs with
  | nil => rfl
  | cons f fs ih => rw [anyHolds, ih, List.any_cons]

end Filter

end SurveyQuests
