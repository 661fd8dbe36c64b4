import SurveyQuests.Element.Basic
import SurveyQuests.Element.EditDate
import SurveyQuests.Json.Reader

/-!
# Reading element records

An element comes as a JSON object with the fields `type`, `id`, `tags`, `edited` and `timestamp`, or
as an array with the same values in this order.  Only the first is required.  Other fields of an
object may hold anything.  The day of the edit is read from `edited`, or from `timestamp` where that
is unreadable; odd values there make the day unknown but do not spoil the record.

A record is refused when it has no such shape (`RecordError.invalid`), and there is no element
either when the day of the edit lies beyond the calendar (`RecordError.beyondCalendar`).

## What is here

* `Element.Parts.ofJson?` — the five values of a record;
* `Element.ofJson` — the element of a record;
* `Element.ofLine` — the element of a line of text.
-/

set_option autoImplicit false

namespace SurveyQuests

/-- Why there is no element to be had from a record. -/
inductive RecordError where
  /-- The text is no JSON or has not the shape of a record. -/
  | invalid
  /-- The day of the edit lies beyond the calendar. -/
  | beyondCalendar
deriving DecidableEq, Repr

namespace Element

/-- The values of a record; the day of the edit is read from the first of `dates` that is
readable. -/
structure Parts where
  kind : Json
  id : Option Json
  tags : Option Json
  dates : List Json

/-- The value of a field that an object may have once. -/
def optionalField? (name : String) (members : List (Option String × Json)) :
    Option (Option Json) :=
  match Json.fields name members with
  | [] => some none
  | [v] => some (some v)
  | _ => none

/-- The values of a record: an object whose known fields do not repeat, or an array. -/
def Parts.ofJson? : Json → Option Parts
  | .object members => do
    let kind ← (← optionalField? "type" members)
    let id ← optionalField? "id" members
    let tags ← optionalField? "tags" members
    let edited ← optionalField? "edited" members
    let timestamp ← optionalField? "timestamp" members
    if members.all (·.1.isSome) then some ⟨kind, id, tags, edited.toList ++ timestamp.toList⟩
    else none
  | .array (kind :: rest) =>
    if rest.length ≤ 4 then some ⟨kind, rest[0]?, rest[1]?, rest.drop 2⟩ else none
  | _ => none

/-- The kind that a value names: its word, or an object that has the word as its only name and
holds nothing there. -/
def readKind? : Json → Option ElementKind
  | .string (some s) => ElementKind.ofText? s
  | .object [(some s, .null)] => ElementKind.ofText? s
  | _ => none

/-- Reads the number of an element, an integer of at most 64 bits. -/
def readId? : Json → Option Int64
  | .number n => n.word?.map Int64.ofInt
  | _ => none

/-- Reads a tag. -/
def readTag? : Option String × Json → Option (String × String)
  | (some key, .string (some value)) => some (key, value)
  | _ => none

/-- Reads the tags: an object that holds nothing but texts. -/
def readTags? : Json → Option Tags
  | .object members => (members.mapM readTag?).map Tags.ofList
  | _ => none

/-- How deep a value for the day of the edit may be nested. -/
def maxNesting : Nat := 126

/-- May the value stand where the day of the edit is looked for? -/
def isAdmissible (v : Json) : Bool := v.isSound && decide (v.nesting ≤ maxNesting)

/-- The element of a record. -/
def ofJson (v : Json) : Except RecordError Element := do
  let some parts := Parts.ofJson? v | throw .invalid
  let some kind := readKind? parts.kind | throw .invalid
  let some id := (parts.id.map readId?).getD (some 0) | throw .invalid
  let some tags := (parts.tags.map readTags?).getD (some .empty) | throw .invalid
  if !parts.dates.all isAdmissible then throw .invalid
  match EditDate.ofFirst parts.dates with
  | .day d => return { kind, id, tags, edited := some d }
  | .unreadable => return { kind, id, tags }
  | .beyondCalendar => throw .beyondCalendar

/-- **The element of a line of text.**  The record is read before the text after it is looked at. -/
def ofLine (cs : List Char) : Except RecordError Element := do
  let some (v, rest) := Json.readValue? cs | throw .invalid
  let element ← ofJson v
  if (Json.skipSpace rest).isEmpty then return element else throw .invalid

end Element

end SurveyQuests
