import SurveyQuests.Pattern.Reader
import SurveyQuests.Pattern.Meaning
import SurveyQuests.Pattern.Size

/-!
# Patterns of filters

A filter compares a key or a value with a pattern, and the whole text has to match.  To this end
the source is put between the assertions for the two ends of the text, in a group of its own, and
the result is searched for.

A `Pattern` keeps its source beside the regular expression that the source stands for; the last
field says that they belong together, so that two patterns with one source are equal.

## What is here

* `Regex.compile?` — the regular expression of a source;
* `Pattern.compile?` — the pattern of a source;
* `Pattern.isMatch` — does a text match?
* `Pattern.ext_source` — patterns with one source are equal.
-/

set_option autoImplicit false

namespace SurveyQuests

/-- The regular expression of a source, if the source can be read and the expression is not too
large. -/
def Regex.compile? (source : List Char) : Option Regex := do
  let written ← Pattern.Expr.read? source
  let e ← written.regex?
  if e.fits then some e else none

/-- The source of a pattern between the assertions for the ends of the text. -/
def Pattern.enclosed (source : List Char) : List Char :=
  ['^', '(', '?', ':'] ++ source ++ [')', '$']

/-- A pattern that whole texts are compared with. -/
structure Pattern where
  source : String
  regex : Regex
  compiled : Regex.compile? (Pattern.enclosed source.toList) = some regex

namespace Pattern

/-- The pattern of a source, if there is one. -/
def compile? (source : String) : Option Pattern :=
  match h : Regex.compile? (enclosed source.toList) with
  | some regex => some ⟨source, regex, h⟩
  | none => none

theorem ext_source {p q : Pattern} (h : p.source = q.source) : p = q := by
  obtain ⟨s, r, hr⟩ := p
  obtain ⟨s', r', hr'⟩ := q
  cases h
  rw [hr] at hr'
  cases hr'
  rfl

instance : DecidableEq Pattern := fun p q ↦
  if h : p.source = q.source then isTrue (ext_source h)
  else isFalse fun e ↦ h (congrArg Pattern.source e)

theorem compile?_source (p : Pattern) : compile? p.source = some p := by
  unfold compile?
  split
  · rename_i regex h
    exact congrArg some (ext_source rfl)
  · rename_i h
    rw [p.compiled] at h
    cases h

/-- Does the text match? -/
def isMatch (p : Pattern) (text : String) : Bool := p.regex.search text.toList.toArray

end Pattern

end SurveyQuests
