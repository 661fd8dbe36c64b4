import SurveyQuests.Calendar.Arithmetic
import SurveyQuests.Calendar.Span
import SurveyQuests.Pattern.Basic

/-!
# Filters

A filter says which elements are wanted.  It is put together with *and*, *or* and *not* from
conditions on the tags of an element and on the day of its last edit.

## What is here

* `TagDateKeys` — a key and the keys that may hold the day on which it was last surveyed;
* `Comparison`, `DateTarget`, `DateAnchor` — parts of conditions;
* `Condition` — a condition on one element;
* `Filter` — conditions put together;
* `Filter.same` — equality of filters with numbers compared as numbers, so that the two zeros are
  the same and no NaN is the same as another.
-/

set_option autoImplicit false

namespace SurveyQuests

/-- The ways to compare two values. -/
inductive Comparison where
  | eq
  | ne
  | lt
  | le
  | gt
  | ge
deriving DecidableEq, Repr

/-- The sign of a comparison. -/
def Comparison.text : Comparison → String
  | .eq => "="
  | .ne => "!="
  | .lt => "<"
  | .le => "<="
  | .gt => ">"
  | .ge => ">="

/-- A key, along with the keys that may hold the day on which it was last surveyed. -/
structure TagDateKeys where
  key : String
  checkDateKeys : List String
deriving DecidableEq, Repr

namespace TagDateKeys

/-- A key with its check date keys, which are made from it by the customary words. -/
def ofKey (key : String) : TagDateKeys :=
  ⟨key, ["check_date:" ++ key, key ++ ":check_date", key ++ ":lastcheck", "lastcheck:" ++ key,
    key ++ ":last_checked", "last_checked:" ++ key]⟩

/-- The keys whose dates count, the key itself first. -/
def candidates (keys : TagDateKeys) : List String := keys.key :: keys.checkDateKeys

end TagDateKeys

/-- What a date condition takes its date from. -/
inductive DateTarget where
  /-- The last edit of the element. -/
  | element
  /-- A key, or a check date key of it. -/
  | tag (keys : TagDateKeys)
deriving DecidableEq, Repr

/-- The day that a date is compared with. -/
inductive DateAnchor where
  /-- So many units before the day of reference. -/
  | relative (magnitude : Binary64) (unit : DateUnit)
  /-- A day of the calendar. -/
  | fixed (d : Date)
deriving DecidableEq

/-- The anchor seen from a day of reference. -/
def DateAnchor.resolve (anchor : DateAnchor) (reference : Date) : Date :=
  match anchor with
  | .relative magnitude unit => reference.goBack magnitude unit
  | .fixed d => d

/-- A condition on an element. -/
inductive Condition where
  /-- There is a tag with the key, or there is none. -/
  | hasKey (key : String) (negated : Bool)
  /-- Some key matches, or none does. -/
  | keyMatches (pattern : Pattern) (negated : Bool)
  /-- The value of a key is compared with a text. -/
  | compares (key : String) (op : Comparison) (value : String)
  /-- The value of a key matches, or does not. -/
  | valueMatches (key : String) (pattern : Pattern) (negated : Bool)
  /-- The value of a key is among the values, or is not. -/
  | oneOf (key : String) (values : List String) (negated : Bool)
  /-- The value of a key is compared as a number. -/
  | numeric (key : String) (op : Comparison) (value : Binary64)
  /-- A date is older or newer than a day. -/
  | date (target : DateTarget) (direction : Direction) (anchor : DateAnchor)
deriving DecidableEq

/-- Conditions put together. -/
inductive Filter where
  | condition (c : Condition)
  /-- All of the filters. -/
  | all (fs : List Filter)
  /-- At least one of the filters. -/
  | any (fs : List Filter)
  | not (f : Filter)
  /-- No condition at all. -/
  | always

/-! ## Sameness -/

/-- Are the anchors the same, magnitudes compared as numbers? -/
def DateAnchor.same : DateAnchor → DateAnchor → Bool
  | .relative m u, .relative n v => m.eq n && u == v
  | .fixed d, .fixed e => d == e
  | _, _ => false

/-- Are the conditions the same, numbers compared as numbers? -/
def Condition.same : Condition → Condition → Bool
  | .numeric k op x, .numeric l oq y => k == l && op == oq && x.eq y
  | .date t d a, .date s e b => t == s && d == e && a.same b
  | c, d => c == d

namespace Filter

mutual

/-- Are the filters the same, numbers compared as numbers? -/
def same : Filter → Filter → Bool
  | .condition c, .condition d => c.same d
  | .all fs, .all gs => sameList fs gs
  | .any fs, .any gs => sameList fs gs
  | .not f, .not g => same f g
  | .always, .always => true
  | _, _ => false

/-- Are the filters of two lists the same one by one? -/
def sameList : List Filter → List Filter → Bool
  | [], [] => true
  | f :: fs, g :: gs => same f g && sameList fs gs
  | _, _ => false

end

/-- The filter that asks for nothing. -/
instance : Inhabited Filter := ⟨.always⟩

end Filter

end SurveyQuests
