import SurveyQuests.Filter.Text
import SurveyQuests.Filter.Eval
import SurveyQuests.Filter.Simplify

/-!
# Queries

A query names the kinds of elements that it is about and has a filter for them.  `Query.text` writes
it: the kinds, and the filter after the word `with` unless the filter is the empty condition.
-/

set_option autoImplicit false

namespace SurveyQuests

/-- Kinds of elements and a filter for them. -/
structure Query where
  kinds : KindSet
  filter : Filter

namespace Query

/-- Are the queries the same, numbers compared as numbers? -/
def same (p q : Query) : Bool := p.kinds == q.kinds && p.filter.same q.filter

/-- The text of a query. -/
def text (q : Query) : String :=
  if q.filter.isAlways then q.kinds.text else q.kinds.text ++ " with " ++ q.filter.text

/-- Is the element of one of the kinds, and does the filter hold for it? -/
def holds (q : Query) (e : Element) (ctx : EvalContext) : Bool :=
  q.kinds.contains e.kind && q.filter.holds e ctx

end Query

end SurveyQuests
