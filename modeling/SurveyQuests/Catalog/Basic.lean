import SurveyQuests.Catalog.Definition
import SurveyQuests.Query.Compiled

/-!
# Catalogs of quests

A catalog is compiled from its definition: every filter is compiled once, and the policy of the
catalog is put into every query.  Compiling is *strict* or *lenient*.  A strict compilation ends at
the first filter that does not compile; a lenient one leaves out the quests whose filters do not
compile and keeps the faults.

## What is here

* `FilterFault` — a filter that does not compile, and the messages about it;
* `Quest`, `Catalog`;
* `Catalog.compileLenient`, `Catalog.compileStrict`;
* `Catalog.retain` — the quests offered in a country;
* `Catalog.matching` — the quests that hold for an element.
-/

set_option autoImplicit false

namespace SurveyQuests

/-- A filter of a catalog that does not compile. -/
structure FilterFault where
  /-- The place of the quest in the catalog, counted from 1. -/
  number : Nat
  /-- The name of the quest. -/
  name : String
  location : Location
  error : CompileError
deriving DecidableEq, Repr

namespace FilterFault

/-- Where the fault is and what it is. -/
def details (fault : FilterFault) : String :=
  "at line " ++ toString fault.location.line ++ ", column " ++ toString fault.location.column ++
    ": " ++ fault.error.message

/-- The message that ends a strict compilation. -/
def message (fault : FilterFault) : String :=
  "Config: Error compiling filter of quest " ++ toString fault.number ++ " '" ++ fault.name ++
    "' " ++ fault.details

/-- The warning of a lenient compilation. -/
def warning (fault : FilterFault) : String :=
  "Config: Skipping quest '" ++ fault.name ++ "': filter error " ++ fault.details

end FilterFault

/-- A quest with its compiled filter. -/
structure Quest where
  name : String
  query : CompiledQuery
  commitMessage : Option String
  wikiLink : Option String
  countries : CountrySetting

/-- Quests in the order of their definition, and the faults of those left out. -/
structure Catalog where
  quests : List Quest := []
  faults : List FilterFault := []

/-- The quest of a definition at a place of the catalog. -/
def QuestDefinition.compile (d : QuestDefinition) (policy : Option PinningPolicy) (number : Nat) :
    Except FilterFault Quest :=
  match CompiledQuery.compile d.filter with
  | .ok query =>
    .ok {
      name := d.name
      query := match policy with
        | some policy => query.withPolicy policy
        | none => query
      commitMessage := d.commitMessage
      wikiLink := d.wikiLink
      countries := d.countries }
  | .error error => .error { number, name := d.name, location := error.location d.filter, error }

namespace Catalog

/-! ## Compiling -/

/-- The quests of definitions from a place on, and the faults of those that do not compile. -/
def compileEach (policy : Option PinningPolicy) (number : Nat) : List QuestDefinition → Catalog
  | [] => {}
  | d :: ds =>
    let catalog := compileEach policy (number + 1) ds
    match d.compile policy number with
    | .ok quest => { catalog with quests := quest :: catalog.quests }
    | .error fault => { catalog with faults := fault :: catalog.faults }

/-- The quests of definitions from a place on, or the first fault. -/
def compileAll (policy : Option PinningPolicy) (number : Nat) :
    List QuestDefinition → Except FilterFault (List Quest)
  | [] => .ok []
  | d :: ds => do
    let quest ← d.compile policy number
    let quests ← compileAll policy (number + 1) ds
    return quest :: quests

/-- **The catalog of a definition, without the quests whose filters do not compile.** -/
def compileLenient (d : CatalogDefinition) : Catalog := compileEach d.policy 1 d.quests

/-- **The catalog of a definition, or its first fault.** -/
def compileStrict (d : CatalogDefinition) : Except FilterFault Catalog :=
  (compileAll d.policy 1 d.quests).map fun quests ↦ { quests }

/-- The catalog of a definition, compiled strictly or leniently. -/
def compile (d : CatalogDefinition) (strict : Bool) : Except FilterFault Catalog :=
  if strict then compileStrict d else .ok (compileLenient d)

/-! ## Looking at a catalog -/

/-- The names of the quests left out. -/
def skipped (catalog : Catalog) : List String := catalog.faults.map FilterFault.name

/-- The catalog without the quests that are not offered in a country. -/
def retain (catalog : Catalog) (country : String) : Catalog :=
  { catalog with quests := catalog.quests.filter fun quest ↦ quest.countries.allows country }

/-- The quests that hold for an element, seen from a day of reference, in the order of the
catalog. -/
def matching (catalog : Catalog) (e : Element) (reference : Date) : List Quest :=
  catalog.quests.filter fun quest ↦ quest.query.holds e reference

end Catalog

end SurveyQuests
