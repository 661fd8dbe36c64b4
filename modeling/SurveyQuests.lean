import SurveyQuests.Main
import SurveyQuests.Command.Course
import SurveyQuests.Proofs.Catalog.Compiling
import SurveyQuests.Proofs.Query.Composition
import SurveyQuests.Proofs.Query.Rendering
import SurveyQuests.Proofs.Scan.SideBySide
import SurveyQuests.Proofs.Calendar.DayNumber
import SurveyQuests.Proofs.Calendar.GoingBack
import SurveyQuests.Proofs.Filter.Polarity
import SurveyQuests.Proofs.Query.Ripening
import SurveyQuests.Proofs.Filter.Pinning
import SurveyQuests.Proofs.Element.EditDate
import SurveyQuests.Proofs.Scan.LateEdit
import SurveyQuests.Proofs.Scan.Calls
import SurveyQuests.Proofs.Scan.Failures
import SurveyQuests.Proofs.Json.RoundTrip
import SurveyQuests.Proofs.Scan.RowLines
import SurveyQuests.Proofs.Query.WellMade
import SurveyQuests.Proofs.Command.RowsDue
import SurveyQuests.Proofs.Scan.InTurn
import SurveyQuests.Proofs.Command.Stages
import SurveyQuests.Proofs.Command.OneGo
import SurveyQuests.Proofs.Command.Orderly
import SurveyQuests.Proofs.Filter.Layout
import SurveyQuests.Proofs.Pattern.WholeText
import SurveyQuests.Proofs.Filter.Faults
import SurveyQuests.Proofs.Grammar.FirstMisfit
import SurveyQuests.Proofs.Filter.Surveys
import SurveyQuests.Proofs.Calendar.LargerCounts
import SurveyQuests.Proofs.Query.Widening
import SurveyQuests.Proofs.Calendar.Thresholds
import SurveyQuests.Proofs.Calendar.NamedDays
import SurveyQuests.Proofs.Query.Footprint
import SurveyQuests.Proofs.Scan.Batches
import SurveyQuests.Proofs.Catalog.Modes
import SurveyQuests.Proofs.Query.Location
import SurveyQuests.Proofs.Element.Encodings
import SurveyQuests.Proofs.Filter.Units
import SurveyQuests.Proofs.Filter.Duality
import SurveyQuests.Proofs.Filter.Quoting
import SurveyQuests.Proofs.Grammar.Descent
