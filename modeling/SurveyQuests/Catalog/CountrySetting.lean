import SurveyQuests.Json.Basic

/-!
# Where a quest is offered

A quest is offered everywhere, in some countries only, or everywhere but in some countries.
Countries are named by codes; the case of ASCII letters in a code does not count.
-/

set_option autoImplicit false

namespace SurveyQuests

/-- The countries that a quest is offered in. -/
inductive CountrySetting where
  | everywhere
  | only (codes : List String)
  | except (codes : List String)
deriving DecidableEq, Repr

namespace CountrySetting

/-- Are two codes the same but for the case of ASCII letters? -/
def sameCode (a b : String) : Bool := a.toList.map Char.toLower == b.toList.map Char.toLower

/-- Is a country among the codes? -/
def isListed (country : String) (codes : List String) : Bool := codes.any (sameCode country)

/-- Is the quest offered in a country? -/
def allows (setting : CountrySetting) (country : String) : Bool :=
  match setting with
  | .everywhere => true
  | .only codes => isListed country codes
  | .except codes => !isListed country codes

/-- The word for everywhere. -/
def everywhereWord : String := "all"

/-- The setting that a value stands for: the word for everywhere, by itself or as the only name of
an object without a value, or an object with a list of codes under `only` or `except`.  Where both
could be read the first counts. -/
def ofJson? (v : Json) : Option CountrySetting :=
  match v with
  | .string (some s) => if s = everywhereWord then some .everywhere else none
  | .object [(some s, .null)] => if s = everywhereWord then some .everywhere else none
  | _ =>
    match (v.field? "only").bind Json.texts? with
    | some codes => some (.only codes)
    | none => ((v.field? "except").bind Json.texts?).map .except

/-- The value of a setting. -/
def json : CountrySetting → Json
  | .everywhere => .text everywhereWord
  | .only codes => .record [("only", .array (codes.map .text))]
  | .except codes => .record [("except", .array (codes.map .text))]

end CountrySetting

end SurveyQuests
