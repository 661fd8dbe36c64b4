/-!
# Counting records

A scan counts the lines that held a record and the lines that held something else.
-/

set_option autoImplicit false

namespace SurveyQuests

/-- The counts of a scan so far. -/
structure ScanProgress where
  records : Nat := 0
  malformed : Nat := 0
deriving DecidableEq, Repr

/-- The counts with those of a batch added. -/
def ScanProgress.add (p : ScanProgress) (records malformed : Nat) : ScanProgress :=
  ⟨p.records + records, p.malformed + malformed⟩

end SurveyQuests
