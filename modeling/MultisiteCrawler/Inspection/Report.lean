import MultisiteCrawler.Foundation.JsonOrder
import MultisiteCrawler.Inspection.HealthInput

/-!
# Daily inspection reports

What the daily inspection finds in an input.  A source has a finding for every
rule it breaks, and a report asks for attention if any of its sources has a
finding.
-/

namespace MultisiteCrawler.Inspection

open Foundation.CivilTime
open Foundation.EscapingErrors
open Foundation.JsonNumbers
open Foundation.JsonOrder
open Foundation.JsonText
open Foundation.PythonErrors
open Foundation.PythonFloats

/-! ## Reports -/

/-- Stable summary and findings for one source. -/
structure SourceInspection (Number : Type) where
  sourceId : String
  failureRate : Number
  lastSuccessAt : Option String
  averageDurationSeconds : Number
  p95DurationSeconds : Number
  itemCount : ℕ
  baselineItemCount : Option ℕ
  parseFailureSnapshotCount : ℕ
  httpStatuses : HttpStatuses
  queueDepth : ℕ
  circuitBreakerOpen : Bool
  findings : List String

/-- The status of a report. -/
inductive ReportStatus where
  | noData
  | healthy
  | attention
deriving DecidableEq

/-- The text of a status. -/
def ReportStatus.value : ReportStatus → String
  | .noData => "no_data"
  | .healthy => "healthy"
  | .attention => "attention"

/-- Machine-trackable report without runtime secrets or source payloads. -/
structure DailyInspectionReport (Number : Type) where
  schemaVersion : ℕ
  generatedAt : String
  windowStart : String
  windowEnd : String
  status : ReportStatus
  sources : List (SourceInspection Number)

/-! ## Findings -/

theorem unit_fifth : (0 : ℚ) ≤ 1 / 5 ∧ (1 / 5 : ℚ) ≤ 1 := by
  norm_num

theorem unit_half : (0 : ℚ) ≤ 1 / 2 ∧ (1 / 2 : ℚ) ≤ 1 := by
  norm_num

section Findings

variable {Number : Type} (floats : FloatArithmetic Number)

/-- `_MAX_FAILURE_RATE`. -/
def maxFailureRate : Number :=
  (floats.nearest (1 / 5)).get
    (floats.nearest_unit _ unit_fifth.1 unit_fifth.2)

/-- `_MAX_ITEM_DEVIATION`. -/
def maxItemDeviation : Number :=
  (floats.nearest (1 / 2)).get
    (floats.nearest_unit _ unit_half.1 unit_half.2)

/-- `_MAX_QUEUE_DEPTH`. -/
def maxQueueDepth : ℕ := 100

/-- The share of the runs which failed, zero if there are none. -/
def failureRate (source : SourceHealthInput Number) :
    Except PyError Number :=
  let totalRuns := source.runsSucceeded + source.runsFailed
  if totalRuns = 0 then floats.float 0
  else floats.trueDivide source.runsFailed totalRuns

/-- `_item_count_is_abnormal`. -/
def itemCountIsAbnormal (source : SourceHealthInput Number) :
    Except PyError Bool :=
  match source.baselineItemCount with
  | none => .ok false
  | some baseline =>
      if baseline = 0 then .ok false
      else
        (floats.trueDivide |(source.itemCount : ℤ) - baseline| baseline).map
          (floats.atMost (maxItemDeviation floats))

/-- A finding, if there is one. -/
def finding (condition : Bool) (text : String) : List String :=
  if condition then [text] else []

/-- The finding about the runs of a source. -/
def runFindings (source : SourceHealthInput Number) (rate : Number) :
    List String :=
  if source.runsSucceeded + source.runsFailed = 0 then
    ["no runs in the inspection window"]
  else
    finding (floats.atMost (maxFailureRate floats) rate)
      "failure rate at or above 20%"

/-- The finding about the last success of a source. -/
def lastSuccessFindings (lastSuccessAt : Option BeijingTime)
    (windowEnd : BeijingTime) : List String :=
  match lastSuccessAt with
  | none => ["no recorded successful run"]
  | some success =>
      finding
        ((dayMicroseconds : ℤ) <
          windowEnd.wall.microseconds - success.wall.microseconds)
        "last success is older than 24 hours"

/-- The findings of a source. -/
def findings (source : SourceHealthInput Number) (windowEnd : BeijingTime)
    (rate : Number) (abnormal : Bool) : List String :=
  runFindings floats source rate ++
    lastSuccessFindings source.lastSuccessAt windowEnd ++
    finding abnormal "item count deviates by at least 50%" ++
    finding (source.parseFailureSnapshotCount != 0)
      "new parser-failure snapshots require review" ++
    finding (source.httpStatuses.entries.any (·.2 != 0))
      "observed HTTP 401, 403, or 429" ++
    finding (maxQueueDepth ≤ source.queueDepth)
      "queue depth at or above 100" ++
    finding source.circuitBreakerOpen "circuit breaker is open"

/-- `_inspect_source`. -/
def inspectSource (rules : BeijingRules) (source : SourceHealthInput Number)
    (windowEnd : BeijingTime) : Except PyError (SourceInspection Number) := do
  let rate ← failureRate floats source
  let abnormal ← itemCountIsAbnormal floats source
  .ok
    { sourceId := source.sourceId
      failureRate := rate
      lastSuccessAt := source.lastSuccessAt.map (·.isoformat rules)
      averageDurationSeconds := source.averageDurationSeconds
      p95DurationSeconds := source.p95DurationSeconds
      itemCount := source.itemCount
      baselineItemCount := source.baselineItemCount
      parseFailureSnapshotCount := source.parseFailureSnapshotCount
      httpStatuses := source.httpStatuses
      queueDepth := source.queueDepth
      circuitBreakerOpen := source.circuitBreakerOpen
      findings := findings floats source windowEnd rate abnormal }

/-- The status of a report with the given sources. -/
def reportStatus (reports : List (SourceInspection Number)) : ReportStatus :=
  if reports.any (!·.findings.isEmpty) then .attention
  else if reports.isEmpty then .noData
  else .healthy

/-- `build_daily_report`. -/
def buildDailyReport (rules : BeijingRules)
    (input : HealthReportInput Number) (now : Option Timestamp) :
    Except PyError (DailyInspectionReport Number) := do
  let generatedAt ←
    beijingTimestamp rules (now.getD input.windowEnd.timestamp) "now"
  let reports ←
    input.sources.mapM (inspectSource floats rules · input.windowEnd)
  let windowStart ←
    datetimeAt (input.windowEnd.wall.microseconds - dayMicroseconds)
  .ok
    { schemaVersion := 1
      generatedAt := generatedAt.isoformat rules
      windowStart := (⟨windowStart, false⟩ : BeijingTime).isoformat rules
      windowEnd := input.windowEnd.isoformat rules
      status := reportStatus reports
      sources := reports }

/-- The share of failed runs does not overflow. -/
theorem exists_failureRate (source : SourceHealthInput Number) :
    ∃ rate, failureRate floats source = .ok rate := by
  rw [failureRate]
  split_ifs with none
  · exact floats.exists_rounded _ (by simp) (by simp)
  · have positive : (0 : ℚ) < (source.runsSucceeded + source.runsFailed : ℕ) :=
      Nat.cast_pos.mpr (Nat.pos_of_ne_zero none)
    rw [FloatArithmetic.trueDivide, if_neg (by exact_mod_cast none)]
    refine floats.exists_rounded _ ?_ ?_
    · exact div_nonneg (by simp) (by exact_mod_cast positive.le)
    · push_cast at positive ⊢
      rw [div_le_one positive]
      simp

/-- The item count of a source is judged if its deviation has a float. -/
theorem exists_itemCountIsAbnormal
    (source : SourceHealthInput Number)
    (within : ∀ baseline, source.baselineItemCount = some baseline →
      baseline ≠ 0 → ∃ deviation,
        floats.nearest (|(source.itemCount : ℚ) - baseline| / baseline) =
          some deviation) :
    ∃ abnormal, itemCountIsAbnormal floats source = .ok abnormal := by
  rw [itemCountIsAbnormal]
  cases isBaseline : source.baselineItemCount with
  | none => exact ⟨false, rfl⟩
  | some baseline =>
      dsimp only
      split_ifs with zero
      · exact ⟨false, rfl⟩
      · rcases within baseline isBaseline zero with ⟨deviation, isDeviation⟩
        rw [FloatArithmetic.trueDivide, if_neg (by exact_mod_cast zero),
          FloatArithmetic.rounded]
        push_cast
        rw [isDeviation]
        exact ⟨_, rfl⟩

end Findings

/-! ## Texts -/

section Texts

variable {Number : Type}

/-- The counts of the statuses as a document. -/
def HttpStatuses.asdict (statuses : HttpStatuses) : Json :=
  .obj (statuses.entries.map fun entry => (entry.1, .int entry.2))

/-- A text, or `None`. -/
def textOrNull : Option String → Json
  | none => .null
  | some text => .str text

/-- The fields of a source. -/
def SourceInspection.entries (floats : JsonFloats Number)
    (source : SourceInspection Number) : List (String × Json) :=
  [("source_id", .str source.sourceId),
    ("failure_rate", floats.toJson source.failureRate),
    ("last_success_at", textOrNull source.lastSuccessAt),
    ("average_duration_seconds",
      floats.toJson source.averageDurationSeconds),
    ("p95_duration_seconds", floats.toJson source.p95DurationSeconds),
    ("item_count", .int source.itemCount),
    ("baseline_item_count", countOrNull source.baselineItemCount),
    ("parse_failure_snapshot_count", .int source.parseFailureSnapshotCount),
    ("http_statuses", source.httpStatuses.asdict),
    ("queue_depth", .int source.queueDepth),
    ("circuit_breaker_open", .bool source.circuitBreakerOpen),
    ("findings", .arr (source.findings.map .str))]

/-- The fields of a report. -/
def DailyInspectionReport.entries (floats : JsonFloats Number)
    (report : DailyInspectionReport Number) : List (String × Json) :=
  [("schema_version", .int report.schemaVersion),
    ("generated_at", .str report.generatedAt),
    ("window_start", .str report.windowStart),
    ("window_end", .str report.windowEnd),
    ("status", .str report.status.value),
    ("sources", .arr (report.sources.map fun source =>
      .obj (source.entries floats)))]

/-- `asdict(report)`. -/
def DailyInspectionReport.asdict (floats : JsonFloats Number)
    (report : DailyInspectionReport Number) : Json :=
  .obj (report.entries floats)

/-- The separators and the escapes of `to_json`. -/
def reportStyle : DumpStyle := ⟨true, true⟩

/-- `DailyInspectionReport.to_json`. -/
def DailyInspectionReport.toJson (floats : JsonFloats Number)
    (report : DailyInspectionReport Number) : String :=
  dumps reportStyle (sortKeys (report.asdict floats))

/-- `_status_summary`. -/
def statusSummary (statuses : HttpStatuses) : String :=
  ", ".intercalate
    (statuses.entries.map fun entry => entry.1 ++ "=" ++ toString entry.2)

/-- The lines of one source. -/
def sourceLines (library : Library Number)
    (source : SourceInspection Number) : List String :=
  let baseline := (source.baselineItemCount.map toString).getD "none"
  ["",
    "## `" ++ source.sourceId ++ "`",
    "- Failure rate: `" ++ library.percent source.failureRate ++ "`",
    "- Last success: `" ++ source.lastSuccessAt.getD "none" ++ "`",
    "- Duration: average `" ++
      library.fixed source.averageDurationSeconds ++ "s`, P95 `" ++
      library.fixed source.p95DurationSeconds ++ "s`",
    "- Items: current `" ++ toString source.itemCount ++ "`, baseline `" ++
      baseline ++ "`",
    "- Parse-failure snapshots: `" ++
      toString source.parseFailureSnapshotCount ++ "`",
    "- HTTP 401/403/429: `" ++ statusSummary source.httpStatuses ++ "`",
    "- Queue depth: `" ++ toString source.queueDepth ++ "`",
    "- Circuit breaker open: `" ++ toString source.circuitBreakerOpen ++
      "`"] ++
    if source.findings = [] then []
    else ["- Findings: " ++ "; ".intercalate source.findings]

/-- `render_markdown`. -/
def renderMarkdown (library : Library Number)
    (report : DailyInspectionReport Number) : String :=
  let heading :=
    ["# Crawler Daily Inspection",
      "",
      "- Status: `" ++ report.status.value ++ "`",
      "- Window: `" ++ report.windowStart ++ "` to `" ++ report.windowEnd ++
        "`",
      "- Generated: `" ++ report.generatedAt ++ "`"]
  let lines :=
    if report.status = .noData then
      heading ++
        ["",
          "No safe health-report input was supplied. " ++
            "Human setup review is required."]
    else heading ++ report.sources.flatMap (sourceLines library)
  "\n".intercalate lines ++ "\n"

end Texts

/-! ## A library -/

theorem eightHours_lt_day : -86400 < (28800 : ℤ) ∧ (28800 : ℤ) < 86400 := by
  decide

/-- The rules of `ZoneInfo("Asia/Shanghai")` for the years since 1992. -/
def currentBeijing : BeijingRules where
  utcoffset _ _ := ⟨28800, eightHours_lt_day⟩
  fromutc _ := (⟨28800, eightHours_lt_day⟩, false)

/-- `json.loads` of a document within the limits of the interpreter. -/
def loadsDocument (text : String) : Except LoadsError Json :=
  match loads text with
  | none => .error .notJson
  | some document => .ok document

/-- `datetime.fromisoformat` of a text as `isoformat` writes it. -/
def readTimestamp (text : String) : Option Timestamp :=
  (readIso text.toList).map fun (wall, offset) =>
    ⟨wall, false, offset.map fun offset => .other (offset.seconds * 1000000)⟩

/-- A number which is not negative, with a fixed number of decimals. -/
def fixedText (decimals : ℕ) (value : ℚ) : String :=
  let scaled := ⌊value * 10 ^ decimals + 1 / 2⌋₊
  String.ofList
    (Nat.toDigits 10 (scaled / 10 ^ decimals) ++
      '.' :: digitsText decimals (scaled % 10 ^ decimals))

/-- The text of a float which is kept as its literal. -/
def literalText (text : ℚ → String) : LiteralFloat → String
  | .inl literal => text (literalValue literal.1)
  | .inr .nan => "nan"
  | .inr .infinity => "inf"
  | .inr .negativeInfinity => "-inf"

/-- A library whose floats are kept as their literals. -/
def literalLibrary : Library LiteralFloat where
  loads := loadsDocument
  fromisoformat := readTimestamp
  beijing := currentBeijing
  floats := literalFloats
  percent := literalText fun value => fixedText 2 (value * 100) ++ "%"
  fixed := literalText (fixedText 3)

/-! ## An input -/

/-- `2026-07-13T08:00:00+08:00`. -/
def demoEnd : BeijingTime := ⟨⟨63919526400000000, by decide⟩, false⟩

/-- `2026-07-13T07:59:00+08:00`. -/
def demoSuccess : BeijingTime := ⟨⟨63919526340000000, by decide⟩, false⟩

/-- A healthy source with the given durations. -/
def demoSource {Number : Type} (average p95 : Number) :
    SourceHealthInput Number where
  sourceId := "demo_api"
  runsSucceeded := 24
  runsFailed := 0
  lastSuccessAt := some demoSuccess
  averageDurationSeconds := average
  p95DurationSeconds := p95
  itemCount := 12
  baselineItemCount := none
  parseFailureSnapshotCount := 0
  httpStatuses := ⟨0, 0, 0⟩
  queueDepth := 0
  circuitBreakerOpen := false

/-- An input with one healthy source. -/
def demoInput {Number : Type} (average p95 : Number) :
    HealthReportInput Number :=
  ⟨demoEnd, [demoSource average p95]⟩

/-- The input is reported on in any arithmetic. -/
theorem exists_demoReport
    {Number : Type} (floats : FloatArithmetic Number) (average p95 : Number) :
    ∃ report,
      buildDailyReport floats currentBeijing (demoInput average p95) none =
        .ok report := by
  rcases exists_failureRate floats (demoSource average p95) with ⟨rate, isRate⟩
  have inspected : ∃ inspection,
      inspectSource floats currentBeijing (demoSource average p95) demoEnd =
        .ok inspection := by
    rw [inspectSource, isRate]
    exact ⟨_, rfl⟩
  rcases inspected with ⟨inspection, isInspected⟩
  have windowStart :
      datetimeAt (demoEnd.wall.microseconds - dayMicroseconds) =
        .ok ⟨63919440000000000, by decide⟩ := by
    decide +kernel
  simp only [buildDailyReport, bind_eq_ok_iff, mapM_eq_ok_iff]
  exact ⟨_, demoEnd, rfl, [inspection], .cons isInspected .nil, _,
    windowStart, rfl⟩

end MultisiteCrawler.Inspection
