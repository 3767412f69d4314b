import MultisiteCrawler.Foundation.JsonSorted
import MultisiteCrawler.Foundation.Lists
import MultisiteCrawler.Inspection.Report

/-!
# Reports as strict JSON

Whether the text of a report is a JSON text which is read back as the report.
The check of a duration is `value < 0`, which a float that is not a number
passes and an infinity passes too; `json.dumps` writes both as names that JSON
does not have.
-/

namespace MultisiteCrawler.Inspection

open Foundation.CivilTime
open Foundation.EscapingErrors
open Foundation.JsonNumbers
open Foundation.JsonOrder
open Foundation.JsonText
open Foundation.Lists
open Foundation.PythonErrors
open Foundation.PythonFloats

/-! ## What a report says -/

/-- The fields of a source in a report. -/
def inspectionFields : List String :=
  ["source_id", "failure_rate", "last_success_at",
    "average_duration_seconds", "p95_duration_seconds", "item_count",
    "baseline_item_count", "parse_failure_snapshot_count", "http_statuses",
    "queue_depth", "circuit_breaker_open", "findings"]

/-- The fields of a report. -/
def reportFields : List String :=
  ["schema_version", "generated_at", "window_start", "window_end", "status",
    "sources"]

section Statements

variable {Number : Type} (library : Library Number)

/-- A mapping says what was found in a source, and its aggregate values. -/
structure ReportsSource (source : SourceHealthInput Number)
    (found : List String) (members : List (String × Json)) : Prop where
  keys : HasKeys members inspectionFields
  sourceId : getMember "source_id" members = .str source.sourceId
  failureRate :
    ∃ rate,
      failureRate library.floats.toFloatArithmetic source = .ok rate ∧
        library.floats.ofJson (getMember "failure_rate" members) = some rate
  lastSuccessAt :
    getMember "last_success_at" members =
      textOrNull (source.lastSuccessAt.map (·.isoformat library.beijing))
  averageDurationSeconds :
    library.floats.ofJson (getMember "average_duration_seconds" members) =
      some source.averageDurationSeconds
  p95DurationSeconds :
    library.floats.ofJson (getMember "p95_duration_seconds" members) =
      some source.p95DurationSeconds
  itemCount : getMember "item_count" members = .int source.itemCount
  baselineItemCount :
    getMember "baseline_item_count" members =
      countOrNull source.baselineItemCount
  parseFailureSnapshotCount :
    getMember "parse_failure_snapshot_count" members =
      .int source.parseFailureSnapshotCount
  httpStatuses :
    ∃ statuses, getMember "http_statuses" members = .obj statuses ∧
      DescribesStatuses statuses source.httpStatuses
  queueDepth : getMember "queue_depth" members = .int source.queueDepth
  circuitBreakerOpen :
    getMember "circuit_breaker_open" members = .bool source.circuitBreakerOpen
  findings : getMember "findings" members = .arr (found.map .str)

/-- A value is the object of a source in a report. -/
def IsSourceReport (item : Json)
    (reported : SourceHealthInput Number × SourceInspection Number) : Prop :=
  ∃ members, item = .obj members ∧
    ReportsSource library reported.1 reported.2.findings members

/-- A mapping says what a report on an input says. -/
structure ReportsInput (input : HealthReportInput Number)
    (report : DailyInspectionReport Number) (root : List (String × Json)) :
    Prop where
  keys : HasKeys root reportFields
  schemaVersion : getMember "schema_version" root = .int report.schemaVersion
  generatedAt : getMember "generated_at" root = .str report.generatedAt
  windowStart : getMember "window_start" root = .str report.windowStart
  windowEnd :
    getMember "window_end" root =
      .str (input.windowEnd.isoformat library.beijing)
  status : getMember "status" root = .str report.status.value
  length : report.sources.length = input.sources.length
  sources :
    ∃ items, getMember "sources" root = .arr items ∧
      List.Forall₂ (IsSourceReport library) items
        (input.sources.zip report.sources)

/-- The text of a report is a JSON text which is read as the report. -/
structure RoundTrips (input : HealthReportInput Number)
    (report : DailyInspectionReport Number) : Prop where
  strict : IsJsonText (report.toJson library.floats)
  readBack :
    ∃ root, loads (report.toJson library.floats) = some (.obj root) ∧
      ReportsInput library input report root

/-- If a value is a float, it is finite. -/
def IsFiniteValue (value : Json) : Prop :=
  ∀ number, library.floats.ofJson value = some number →
    library.floats.isFinite number = true

/-- The durations of every source of a document are finite. -/
def HasFiniteDurations (document : Json) : Prop :=
  ∀ root items, document = .obj root →
    getMember "sources" root = .arr items →
      ∀ members, .obj members ∈ items →
        IsFiniteValue library (getMember "average_duration_seconds" members) ∧
          IsFiniteValue library (getMember "p95_duration_seconds" members)

end Statements

section Values

variable {Number : Type} (floats : JsonFloats Number)

theorem sortKeys_toJson (number : Number) :
    sortKeys (floats.toJson number) = floats.toJson number := by
  rw [JsonFloats.toJson]
  cases floats.write number <;> rfl

theorem uniqueKeys_toJson (number : Number) :
    (floats.toJson number).UniqueKeys := by
  rw [JsonFloats.toJson]
  cases floats.write number <;> trivial

theorem sortKeys_countOrNull (count : Option ℕ) :
    sortKeys (countOrNull count) = countOrNull count := by
  cases count <;> rfl

theorem sortKeys_textOrNull (text : Option String) :
    sortKeys (textOrNull text) = textOrNull text := by
  cases text <;> rfl

theorem sortKeys_texts (texts : List String) :
    sortKeys (.arr (texts.map .str)) = .arr (texts.map .str) := by
  rw [sortKeys, sortKeysItems_eq_map, List.map_map]
  rfl

/-- The keys of the objects of a report are distinct. -/
theorem uniqueKeys_asdict (report : DailyInspectionReport Number) :
    (report.asdict floats).UniqueKeys := by
  have texts : ∀ found : List String, uniqueKeysItems (found.map .str) := by
    intro found
    rw [uniqueKeysItems_iff, List.forall_mem_map]
    exact fun _ _ => trivial
  have counts : ∀ count, (countOrNull count).UniqueKeys := by
    intro count
    cases count <;> trivial
  have optional : ∀ text, (textOrNull text).UniqueKeys := by
    intro text
    cases text <;> trivial
  have statuses : ∀ statuses : HttpStatuses, statuses.asdict.UniqueKeys :=
    fun statuses => ⟨by simp [HttpStatuses.entries], trivial, trivial,
      trivial, trivial⟩
  have sources : ∀ reports : List (SourceInspection Number),
      uniqueKeysItems
        (reports.map fun source => .obj (source.entries floats)) := by
    intro reports
    rw [uniqueKeysItems_iff, List.forall_mem_map]
    exact fun source _ =>
      ⟨(by decide : inspectionFields.Nodup), trivial,
        uniqueKeys_toJson floats _, optional _, uniqueKeys_toJson floats _,
        uniqueKeys_toJson floats _, trivial, counts _, trivial, statuses _,
        trivial, trivial, texts _, trivial⟩
  exact ⟨(by decide : reportFields.Nodup), trivial, trivial, trivial,
    trivial, trivial, sources _, trivial⟩

/-- A report is finite if the floats of its sources are. -/
theorem isFinite_asdict_iff (report : DailyInspectionReport Number) :
    (report.asdict floats).isFinite = true ↔
      ∀ source ∈ report.sources,
        floats.isFinite source.failureRate = true ∧
          floats.isFinite source.averageDurationSeconds = true ∧
          floats.isFinite source.p95DurationSeconds = true := by
  have texts : ∀ found : List String,
      isFiniteItems (found.map .str) = true := by
    intro found
    rw [isFiniteItems_iff, List.forall_mem_map]
    exact fun _ _ => rfl
  have counts : ∀ count, (countOrNull count).isFinite = true := by
    intro count
    cases count <;> rfl
  have optional : ∀ text, (textOrNull text).isFinite = true := by
    intro text
    cases text <;> rfl
  have source : ∀ source : SourceInspection Number,
      isFiniteMembers (source.entries floats) = true ↔
        floats.isFinite source.failureRate = true ∧
          floats.isFinite source.averageDurationSeconds = true ∧
          floats.isFinite source.p95DurationSeconds = true := by
    intro source
    simp [SourceInspection.entries, Json.isFinite, isFiniteMembers,
      isFinite_toJson, texts, counts, optional, HttpStatuses.asdict,
      HttpStatuses.entries]
  simp only [DailyInspectionReport.asdict, DailyInspectionReport.entries,
    Json.isFinite, isFiniteMembers, isFiniteItems_iff, List.forall_mem_map,
    source, Bool.true_and, Bool.and_true]

/-- The counts of the statuses are read back. -/
theorem describesStatuses_sortKeys (statuses : HttpStatuses) :
    ∃ members, sortKeys statuses.asdict = .obj members ∧
      DescribesStatuses members statuses := by
  have distinct :
      ((statuses.entries.map fun entry =>
        (entry.1, Json.int entry.2)).map Prod.fst).Nodup := by
    simp [HttpStatuses.entries]
  rcases exists_sortKeys_obj distinct with ⟨members, sorted, keys, member⟩
  refine ⟨members, sorted, ?_, ?_⟩
  · intro key
    rw [keys key]
    rfl
  · simp only [HttpStatuses.entries, List.forall_mem_cons, member]
    exact ⟨rfl, rfl, rfl, List.forall_mem_nil _⟩

end Values

section Sources

variable {Number : Type} {library : Library Number}

/-- What a report says about a source whose floats are finite. -/
theorem isSourceReport_sortKeys
    {source : SourceHealthInput Number}
    {inspection : SourceInspection Number} {windowEnd : BeijingTime}
    (inspected :
      inspectSource library.floats.toFloatArithmetic library.beijing source
        windowEnd = .ok inspection)
    (rate : library.floats.isFinite inspection.failureRate = true)
    (average :
      library.floats.isFinite inspection.averageDurationSeconds = true)
    (p95 : library.floats.isFinite inspection.p95DurationSeconds = true) :
    IsSourceReport library
      (sortKeys (.obj (inspection.entries library.floats)))
      (source, inspection) := by
  have float : ∀ {number value}, library.floats.isFinite number = true →
      value = sortKeys (library.floats.toJson number) →
        library.floats.ofJson value = some number := by
    intro number value finite same
    rw [same, sortKeys_toJson]
    exact ofJson_toJson finite
  have distinct :
      ((inspection.entries library.floats).map Prod.fst).Nodup :=
    (by decide : inspectionFields.Nodup)
  rcases exists_sortKeys_obj distinct with ⟨members, sorted, keys, member⟩
  rcases describesStatuses_sortKeys inspection.httpStatuses with
    ⟨statuses, isStatuses, described⟩
  simp only [inspectSource, bind_eq_ok_iff] at inspected
  rcases inspected with ⟨share, isShare, abnormal, isAbnormal, ⟨⟩⟩
  exact ⟨members, sorted,
    { keys := keys
      sourceId := member _
      failureRate := ⟨share, isShare, float rate (member _)⟩
      lastSuccessAt := (member _).trans (sortKeys_textOrNull _)
      averageDurationSeconds := float average (member _)
      p95DurationSeconds := float p95 (member _)
      itemCount := member _
      baselineItemCount := (member _).trans (sortKeys_countOrNull _)
      parseFailureSnapshotCount := member _
      httpStatuses := ⟨statuses, (member _).trans isStatuses, described⟩
      queueDepth := member _
      circuitBreakerOpen := member _
      findings := (member _).trans (sortKeys_texts _) }⟩

/-- A share of runs is finite. -/
theorem isFinite_failureRate
    {source : SourceHealthInput Number} {rate : Number}
    (isRate :
      failureRate library.floats.toFloatArithmetic source = .ok rate) :
    library.floats.isFinite rate = true := by
  rw [failureRate, FloatArithmetic.float, FloatArithmetic.trueDivide]
    at isRate
  split_ifs at isRate
  · exact isFinite_of_rounded isRate
  · exact isFinite_of_rounded isRate

/-- The floats of a source which has been inspected. -/
theorem isFinite_of_inspectSource
    {source : SourceHealthInput Number}
    {inspection : SourceInspection Number} {windowEnd : BeijingTime}
    (inspected :
      inspectSource library.floats.toFloatArithmetic library.beijing source
        windowEnd = .ok inspection) :
    (library.floats.isFinite inspection.failureRate = true ∧
        library.floats.isFinite inspection.averageDurationSeconds = true ∧
        library.floats.isFinite inspection.p95DurationSeconds = true) ↔
      library.floats.isFinite source.averageDurationSeconds = true ∧
        library.floats.isFinite source.p95DurationSeconds = true := by
  simp only [inspectSource, bind_eq_ok_iff] at inspected
  rcases inspected with ⟨rate, isRate, abnormal, isAbnormal, ⟨⟩⟩
  exact and_iff_right (isFinite_failureRate isRate)

/-- A number which has been accepted is finite if its value is. -/
theorem isFinite_iff_of_isNumber
    {value : Json} {number : Number}
    (isNumber : IsNumber library value number) :
    library.floats.isFinite number = true ↔ IsFiniteValue library value := by
  rcases isNumber with ⟨count, rfl, converted⟩ | ⟨isFloat, _⟩
  · exact iff_of_true (isFinite_of_rounded converted) nofun
  · rw [IsFiniteValue, isFloat]
    simp

/-- The durations of a source are finite if those of its object are. -/
theorem isFinite_iff_of_isSource
    {value : Json} {source : SourceHealthInput Number}
    (isSource : IsSource library value source) :
    (∀ members, value = .obj members →
        IsFiniteValue library (getMember "average_duration_seconds" members) ∧
          IsFiniteValue library
            (getMember "p95_duration_seconds" members)) ↔
      library.floats.isFinite source.averageDurationSeconds = true ∧
        library.floats.isFinite source.p95DurationSeconds = true := by
  rcases isSource with ⟨members, rfl, described⟩
  simp only [Json.obj.injEq, forall_eq',
    isFinite_iff_of_isNumber described.averageDurationSeconds,
    isFinite_iff_of_isNumber described.p95DurationSeconds]

end Sources

section Reports

variable {Number : Type} {library : Library Number}

/-- The sources of a report are those of the input, in order. -/
theorem inspected_of_buildDailyReport
    {input : HealthReportInput Number}
    {report : DailyInspectionReport Number} {now : Option Timestamp}
    (built :
      buildDailyReport library.floats.toFloatArithmetic library.beijing input
        now = .ok report) :
    report.windowEnd = input.windowEnd.isoformat library.beijing ∧
      List.Forall₂
        (fun source inspection =>
          inspectSource library.floats.toFloatArithmetic library.beijing
            source input.windowEnd = .ok inspection)
        input.sources report.sources := by
  simp only [buildDailyReport, bind_eq_ok_iff, mapM_eq_ok_iff] at built
  rcases built with ⟨generatedAt, _, reports, inspected, windowStart, _, ⟨⟩⟩
  exact ⟨rfl, inspected⟩

/-- The text of a report is strict if the durations of the input are finite. -/
theorem isJsonText_toJson_iff
    {input : HealthReportInput Number}
    {report : DailyInspectionReport Number} {now : Option Timestamp}
    (built :
      buildDailyReport library.floats.toFloatArithmetic library.beijing input
        now = .ok report) :
    IsJsonText (report.toJson library.floats) ↔
      ∀ source ∈ input.sources,
        library.floats.isFinite source.averageDurationSeconds = true ∧
          library.floats.isFinite source.p95DurationSeconds = true := by
  rw [DailyInspectionReport.toJson, isJsonText_dumps_sortKeys_iff,
    isFinite_asdict_iff]
  exact (forall_mem_iff_of_forall₂ (inspected_of_buildDailyReport built).2
    fun source inspection inspected =>
      (isFinite_of_inspectSource inspected).symm).symm

/-- A document has finite durations if what is read from it has. -/
theorem hasFiniteDurations_iff
    {document : Json} {input : HealthReportInput Number}
    (parsed : parseHealthReportInput library document = .ok input) :
    HasFiniteDurations library document ↔
      ∀ source ∈ input.sources,
        library.floats.isFinite source.averageDurationSeconds = true ∧
          library.floats.isFinite source.p95DurationSeconds = true := by
  rcases (parseHealthReportInput_eq_ok_iff document input).mp parsed with
    ⟨root, rfl, described⟩
  rcases described.sources with ⟨items, isItems, sources⟩
  rw [← forall_mem_iff_of_forall₂ sources
    fun item source isSource => isFinite_iff_of_isSource isSource]
  constructor
  · intro finite item member members isObject
    exact finite root items rfl isItems members (isObject ▸ member)
  · intro finite _ _ isRoot others members member
    cases isRoot
    rw [isItems] at others
    cases others
    exact finite _ member members rfl

/-- What a report says about its sources. -/
theorem isSourceReport_forall₂
    {windowEnd : BeijingTime} {sources : List (SourceHealthInput Number)}
    {reports : List (SourceInspection Number)}
    (inspected :
      List.Forall₂
        (fun source inspection =>
          inspectSource library.floats.toFloatArithmetic library.beijing
            source windowEnd = .ok inspection)
        sources reports)
    (finite : ∀ inspection ∈ reports,
      library.floats.isFinite inspection.failureRate = true ∧
        library.floats.isFinite inspection.averageDurationSeconds = true ∧
        library.floats.isFinite inspection.p95DurationSeconds = true) :
    List.Forall₂ (IsSourceReport library)
      (reports.map fun inspection =>
        sortKeys (.obj (inspection.entries library.floats)))
      (sources.zip reports) := by
  induction inspected with
  | nil => exact .nil
  | cons here _ induction =>
      rw [List.forall_mem_cons] at finite
      exact .cons
        (isSourceReport_sortKeys here finite.1.1 finite.1.2.1 finite.1.2.2)
        (induction finite.2)

/-- What is read back from the text of a report with finite floats. -/
theorem exists_readBack
    {input : HealthReportInput Number}
    {report : DailyInspectionReport Number} {now : Option Timestamp}
    (built :
      buildDailyReport library.floats.toFloatArithmetic library.beijing input
        now = .ok report)
    (finite : (report.asdict library.floats).isFinite = true) :
    ∃ root, loads (report.toJson library.floats) = some (.obj root) ∧
      ReportsInput library input report root := by
  have distinct :
      ((report.entries library.floats).map Prod.fst).Nodup :=
    (by decide : reportFields.Nodup)
  rcases inspected_of_buildDailyReport built with ⟨windowEnd, inspected⟩
  rcases exists_sortKeys_obj distinct with ⟨root, sorted, keys, member⟩
  have read :=
    loads_dumps_sortKeys reportStyle
      (uniqueKeys_asdict library.floats report)
  have items : getMember "sources" root =
      .arr (report.sources.map fun inspection =>
        sortKeys (.obj (inspection.entries library.floats))) := by
    refine (member "sources").trans ?_
    have same : getMember "sources" (report.entries library.floats) =
        .arr (report.sources.map fun inspection =>
          .obj (inspection.entries library.floats)) := rfl
    rw [same, sortKeys, sortKeysItems_eq_map, List.map_map]
    rfl
  refine ⟨root, read.trans (congrArg some sorted), ?_⟩
  exact
    { keys := keys
      schemaVersion := member _
      generatedAt := member _
      windowStart := member _
      windowEnd := (member _).trans (congrArg Json.str windowEnd)
      status := member _
      length := inspected.length_eq.symm
      sources := ⟨_, items, isSourceReport_forall₂ inspected
        ((isFinite_asdict_iff library.floats report).mp finite)⟩ }

end Reports

/--
The text of a report is a JSON text which is read back as the report, exactly
if the durations of the document are finite.
-/
theorem roundTrips_iff
    {Number : Type} (library : Library Number) {document : Json}
    {input : HealthReportInput Number}
    {report : DailyInspectionReport Number} {now : Option Timestamp}
    (parsed : parseHealthReportInput library document = .ok input)
    (built :
      buildDailyReport library.floats.toFloatArithmetic library.beijing input
        now = .ok report) :
    RoundTrips library input report ↔
      HasFiniteDurations library document := by
  rw [hasFiniteDurations_iff parsed]
  constructor
  · intro roundTrips
    exact (isJsonText_toJson_iff built).mp roundTrips.strict
  · intro finite
    have strict := (isJsonText_toJson_iff built).mpr finite
    refine ⟨strict, exists_readBack built ?_⟩
    rw [DailyInspectionReport.toJson, isJsonText_dumps_sortKeys_iff] at strict
    exact strict

/-! ## Two documents -/

/-- The literal of a quarter. -/
def quarter : FloatLiteral := ⟨['0', '.', '2', '5'], by decide⟩

/-- A document with one source, whose average duration is given. -/
def demoDocument (averageDuration : Json) : Json :=
  .obj
    [("window_end", .str "2026-07-13T08:00:00+08:00"),
      ("sources",
        .arr
          [.obj
            [("source_id", .str "demo_api"), ("runs_succeeded", .int 24),
              ("runs_failed", .int 0),
              ("last_success_at", .str "2026-07-13T07:59:00+08:00"),
              ("average_duration_seconds", averageDuration),
              ("p95_duration_seconds", .float quarter),
              ("item_count", .int 12), ("baseline_item_count", .null),
              ("parse_failure_snapshot_count", .int 0),
              ("http_statuses",
                .obj [("401", .int 0), ("403", .int 0), ("429", .int 0)]),
              ("queue_depth", .int 0),
              ("circuit_breaker_open", .bool false)]])]

/-- A text of eight hours ahead of UTC is read as a time. -/
theorem isTime_of_readTimestamp
    {text : String} {time : BeijingTime}
    (read : readTimestamp text =
      some ⟨time.wall, false, some (.other 28800000000)⟩)
    (converted :
      astimezone currentBeijing time.wall false (.other 28800000000) =
        .ok time) :
    IsTime literalLibrary (.str text) time :=
  ⟨text, _, _, rfl, read, rfl, converted⟩

theorem isTime_demoEnd :
    IsTime literalLibrary (.str "2026-07-13T08:00:00+08:00") demoEnd := by
  apply isTime_of_readTimestamp <;> decide +kernel

theorem isTime_demoSuccess :
    IsTime literalLibrary (.str "2026-07-13T07:59:00+08:00")
      demoSuccess := by
  apply isTime_of_readTimestamp <;> decide +kernel

theorem inRange_quarter : InRange quarter := by
  decide +kernel

theorem isNumber_quarter :
    IsNumber literalLibrary (.float quarter) (readLiteral quarter) := by
  refine Or.inr ⟨rfl, ?_⟩
  rw [readLiteral, dif_pos inRange_quarter]
  decide +kernel

theorem isNumber_notANumber :
    IsNumber literalLibrary (.nonFinite .nan) (.inr .nan) :=
  Or.inr ⟨rfl, rfl⟩

/-- The document is accepted whatever number the duration is. -/
theorem parse_demoDocument
    {value : Json} {averageDuration : LiteralFloat}
    (isAverage : IsNumber literalLibrary value averageDuration) :
    parseHealthReportInput literalLibrary (demoDocument value) =
      .ok (demoInput averageDuration (readLiteral quarter)) := by
  rw [parseHealthReportInput_eq_ok_iff]
  have statuses :
      DescribesStatuses [("401", .int 0), ("403", .int 0), ("429", .int 0)]
        ⟨0, 0, 0⟩ :=
    ⟨fun _ => Iff.rfl, by
      simp [HttpStatuses.entries, getMember, lookup]⟩
  refine ⟨_, rfl, fun _ => Iff.rfl, isTime_demoEnd,
    ⟨_, rfl, .cons ⟨_, rfl, ?_⟩ .nil⟩, List.nodup_singleton _⟩
  exact
    { keys := fun _ => Iff.rfl
      sourceId := rfl
      sourceId_matches :=
        (by decide : Observability.matchesSourceId "demo_api" = true)
      runsSucceeded := rfl
      runsFailed := rfl
      lastSuccessAt := isTime_demoSuccess
      averageDurationSeconds := isAverage
      p95DurationSeconds := isNumber_quarter
      itemCount := rfl
      baselineItemCount := rfl
      parseFailureSnapshotCount := rfl
      httpStatuses := ⟨_, rfl, statuses⟩
      queueDepth := rfl
      circuitBreakerOpen := rfl }

/-- What is read from the document if the duration is a quarter. -/
def finiteInput : HealthReportInput LiteralFloat :=
  demoInput (readLiteral quarter) (readLiteral quarter)

/-- What is read from the document if the duration is `NaN`. -/
def unorderedInput : HealthReportInput LiteralFloat :=
  demoInput (.inr .nan) (readLiteral quarter)

theorem hasFiniteDurations_demoDocument :
    HasFiniteDurations literalLibrary (demoDocument (.float quarter)) := by
  rw [hasFiniteDurations_iff (parse_demoDocument isNumber_quarter)]
  have finite :
      literalLibrary.floats.isFinite (readLiteral quarter) = true := by
    rw [readLiteral, dif_pos inRange_quarter]
    rfl
  intro source isSource
  obtain rfl := List.mem_singleton.mp isSource
  exact ⟨finite, finite⟩

/-- A report with finite durations is read back from its text. -/
theorem roundTrips_demoDocument :
    ∃ report,
      parseHealthReportInput literalLibrary (demoDocument (.float quarter)) =
          .ok finiteInput ∧
        buildDailyReport literalLibrary.floats.toFloatArithmetic
          literalLibrary.beijing finiteInput none = .ok report ∧
        RoundTrips literalLibrary finiteInput report :=
  have parsed := parse_demoDocument isNumber_quarter
  have ⟨report, built⟩ := exists_demoReport _ _ _
  ⟨report, parsed, built,
    (roundTrips_iff literalLibrary parsed built).mpr
      hasFiniteDurations_demoDocument⟩

/-- The report on a source with a duration of `NaN` is no JSON text. -/
theorem not_roundTrips_notANumber :
    ∃ report,
      parseHealthReportInput literalLibrary
          (demoDocument (.nonFinite .nan)) = .ok unorderedInput ∧
        buildDailyReport literalLibrary.floats.toFloatArithmetic
          literalLibrary.beijing unorderedInput none = .ok report ∧
        ¬ RoundTrips literalLibrary unorderedInput report := by
  rcases exists_demoReport literalLibrary.floats.toFloatArithmetic
      (.inr .nan) (readLiteral quarter) with
    ⟨report, built⟩
  refine ⟨report, parse_demoDocument isNumber_notANumber, built, ?_⟩
  intro roundTrips
  have finite := (isJsonText_toJson_iff built).mp roundTrips.strict
    (demoSource (.inr .nan) (readLiteral quarter))
    (List.mem_singleton_self _)
  cases finite.1

end MultisiteCrawler.Inspection
