import SurveyQuests.Element.Basic

/-!
# Sets of element kinds

A query names the kinds of elements that it is about.  `KindSet` is the set of them;
`KindSet.contains_insert` and `KindSet.contains_ofList` say what is in it.
-/

set_option autoImplicit false

namespace SurveyQuests

/-- A set of element kinds. -/
structure KindSet where
  nodes : Bool := false
  ways : Bool := false
  relations : Bool := false
deriving DecidableEq, Repr

namespace KindSet

/-- The set without kinds. -/
def empty : KindSet := {}

/-- Is the kind in the set? -/
def contains (s : KindSet) : ElementKind → Bool
  | .node => s.nodes
  | .way => s.ways
  | .relation => s.relations

/-- The set with one more kind. -/
def insert (s : KindSet) : ElementKind → KindSet
  | .node => { s with nodes := true }
  | .way => { s with ways := true }
  | .relation => { s with relations := true }

/-- The set of the kinds of a list. -/
def ofList (kinds : List ElementKind) : KindSet := kinds.foldl insert empty

/-- The kinds of a set, nodes first and relations last. -/
def toList (s : KindSet) : List ElementKind := ElementKind.all.filter s.contains

@[simp] theorem contains_empty (k : ElementKind) : empty.contains k = false := by
  cases k <;> rfl

theorem contains_insert (s : KindSet) (k l : ElementKind) :
    (s.insert k).contains l = (s.contains l || decide (l = k)) := by
  cases k <;> cases l <;> simp [insert, contains]

theorem contains_foldl_insert (kinds : List ElementKind) (s : KindSet) (l : ElementKind) :
    (kinds.foldl insert s).contains l = (s.contains l || decide (l ∈ kinds)) := by
  induction kinds generalizing s with
  | nil => simp
  | cons k kinds ih => simp [ih, contains_insert, Bool.or_assoc]

theorem contains_ofList (kinds : List ElementKind) (l : ElementKind) :
    (ofList kinds).contains l = decide (l ∈ kinds) := by
  simp [ofList, contains_foldl_insert]

/-- The words for the kinds of a set with commas between them. -/
def text (s : KindSet) : String := ", ".intercalate (s.toList.map ElementKind.plural)

end KindSet

end SurveyQuests
