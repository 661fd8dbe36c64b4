import SurveyQuests.Filter.Basic

/-!
# The normal form of filters

`Filter.simplify` takes apart what says the same without it: an *and* inside an *and*, an *or*
inside an *or*, an *and* or an *or* of a single filter, and the empty condition wherever it decides
the whole or adds nothing.  An *or* of no filters becomes the empty condition too; that is the only
case in which the meaning changes, and no text compiles to it.

The definition goes bottom up: a simplified filter gives its *conjuncts* to an *and* around it, or
its *alternatives* to an *or* around it, and what has been collected is put together again.
-/

set_option autoImplicit false

namespace SurveyQuests.Filter

/-- The filters that have to hold for this one to hold. -/
def conjuncts : Filter → List Filter
  | .all fs => fs
  | .always => []
  | f => [f]

/-- The filters one of which has to hold for this one to hold; there are none to be named if it
always holds. -/
def alternatives? : Filter → Option (List Filter)
  | .any fs => some fs
  | .always => none
  | f => some [f]

/-- All of the filters, put together. -/
def ofConjuncts : List Filter → Filter
  | [] => .always
  | [f] => f
  | fs => .all fs

/-- At least one of the filters, put together. -/
def ofAlternatives : List Filter → Filter
  | [] => .always
  | [f] => f
  | fs => .any fs

mutual

/-- **The normal form of a filter.** -/
def simplify : Filter → Filter
  | .condition c => .condition c
  | .all fs => ofConjuncts ((simplifyList fs).flatMap conjuncts)
  | .any fs =>
    match (simplifyList fs).mapM alternatives? with
    | some gs => ofAlternatives gs.flatten
    | none => .always
  | .not f => .not f.simplify
  | .always => .always

/-- The normal forms of filters. -/
def simplifyList : List Filter → List Filter
  | [] => []
  | f :: fs => f.simplify :: simplifyList fs

end

theorem simplifyList_eq_map (fs : List Filter) : simplifyList fs = fs.map simplify := by
  induction fs with
  | nil => rfl
  | cons f fs ih => rw [simplifyList, ih, List.map_cons]

end SurveyQuests.Filter
