import SurveyQuests.Element.Basic
import SurveyQuests.Json.Writer

/-!
# Rows of output

A row says that a quest applies to an element.  It is written as a JSON object on a line of its own.
-/

set_option autoImplicit false

namespace SurveyQuests

/-- A quest and an element that it applies to. -/
structure Row where
  quest : String
  kind : ElementKind
  id : Int64
deriving DecidableEq

namespace Row

/-- The value that is written for a row. -/
def json (row : Row) : Json :=
  .record [("quest", .text row.quest), ("type", .text row.kind.text), ("id", .ofInt row.id.toInt)]

/-- The line of a row, without its line feed. -/
def line (row : Row) : String := row.json.compact

/-- The text of rows, each with a line feed at its end. -/
def linesText (rows : List Row) : String := String.join (rows.map fun row ↦ row.line ++ "\n")

end Row

end SurveyQuests
