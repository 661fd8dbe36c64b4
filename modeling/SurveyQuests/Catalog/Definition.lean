import SurveyQuests.Calendar.Span
import SurveyQuests.Catalog.CountrySetting
import SurveyQuests.Number.Shortest

/-!
# The definitions of a catalog

A catalog is defined by a list of quests, each with a name and the source of a filter and perhaps
with a message, a link and the countries that it is offered in; the catalog may also set the policy
for dates that are known only in part.

A definition comes as a document or as settings.  The two differ in what they make of a value that
is no text where a text is called for: a document takes a word or a number as it is written,
settings convert a truth value or a number and refuse what is empty.

## What is here

* `QuestDefinition`, `CatalogDefinition`;
* `CatalogFormat`, `CatalogFormat.text?` — documents and settings;
* `CatalogDefinition.ofJson?` — the definition that a value stands for.
-/

set_option autoImplicit false

namespace SurveyQuests

/-- A quest as it is defined. -/
structure QuestDefinition where
  name : String
  /-- The source of the filter. -/
  filter : String
  commitMessage : Option String := none
  wikiLink : Option String := none
  countries : CountrySetting := .everywhere
deriving DecidableEq, Repr

/-- A catalog as it is defined. -/
structure CatalogDefinition where
  quests : List QuestDefinition
  policy : Option PinningPolicy := none
deriving DecidableEq, Repr

/-- The forms that a definition comes in. -/
inductive CatalogFormat where
  /-- A document, whose words and numbers stand for themselves. -/
  | document
  /-- Settings, whose values have types and are converted. -/
  | settings
deriving DecidableEq, Repr

namespace CatalogFormat

/-- The word for a truth value. -/
def boolWord (b : Bool) : String := if b then "true" else "false"

/-- A number converted to a text: an integer by its digits, any other number by its value. -/
def convertedNumber (n : Json.Numeral) : String :=
  match n.integer? with
  | some i => String.ofList (Json.Numeral.ofInt i).chars
  | none => ((Binary64.read? n.chars).getD .nan).plainText

/-- The text that a value stands for where a text is called for. -/
def text? (format : CatalogFormat) (v : Json) : Option String :=
  match format, v with
  | _, .string s => s
  | _, .bool b => some (boolWord b)
  | .document, .number n => some (String.ofList n.chars)
  | .settings, .number n => some (convertedNumber n)
  | .document, .null => some "null"
  | _, _ => none

/-- The text that a value stands for where a text may be left out. -/
def optionalText? (format : CatalogFormat) : Option Json → Option (Option String)
  | none | some .null => some none
  | some v => (format.text? v).map some

/-- The policy that a value names; settings also take an object with the name as its only field. -/
def policy? (format : CatalogFormat) : Option Json → Option (Option PinningPolicy)
  | none | some .null => some none
  | some (.string (some s)) => (PinningPolicy.ofName? s).map some
  | some (.object [(some s, _)]) =>
    if format = .settings then (PinningPolicy.ofName? s).map some else none
  | some _ => none

/-- May a character stand in a document as it is?  Control characters below the space are written as
escapes. -/
def isDocumentChar (c : Char) : Bool :=
  let n := c.toNat
  !(decide (0x7f ≤ n ∧ n < 0xa0 ∧ n ≠ 0x85) || n == 0xfeff || n == 0xfffe || n == 0xffff)

mutual

/-- May all texts of a value stand in a document? -/
def isDocument : Json → Bool
  | .null | .bool _ | .number _ => true
  | .string s => (s.getD "").toList.all isDocumentChar
  | .array items => itemsAreDocuments items
  | .object members => membersAreDocuments members

/-- May all texts of a list of values stand in a document? -/
def itemsAreDocuments : List Json → Bool
  | [] => true
  | v :: vs => isDocument v && itemsAreDocuments vs

/-- May all texts of members stand in a document? -/
def membersAreDocuments : List (Option String × Json) → Bool
  | [] => true
  | (name, v) :: ms =>
    (name.getD "").toList.all isDocumentChar && isDocument v && membersAreDocuments ms

end

/-- May a value come in the format? -/
def admits (format : CatalogFormat) (v : Json) : Bool :=
  match format with
  | .document => isDocument v
  | .settings => true

end CatalogFormat

/-- The quest that a value stands for. -/
def QuestDefinition.ofJson? (format : CatalogFormat) (v : Json) : Option QuestDefinition := do
  let name ← (v.field? "name").bind format.text?
  let filter ← (v.field? "filter").bind format.text?
  let commitMessage ← format.optionalText? (v.field? "commit_message")
  let wikiLink ← format.optionalText? (v.field? "wiki_link")
  let countries ←
    match v.field? "countries" with
    | none => some .everywhere
    | some setting => CountrySetting.ofJson? setting
  some { name, filter, commitMessage, wikiLink, countries }

/-- **The catalog that a value stands for.** -/
def CatalogDefinition.ofJson? (format : CatalogFormat) (v : Json) : Option CatalogDefinition := do
  let items ← (v.field? "quests").bind Json.items?
  let quests ← items.mapM (QuestDefinition.ofJson? format)
  let policy ← format.policy? (v.field? "partial_date_policy")
  if format.admits v then some { quests, policy } else none

end SurveyQuests
