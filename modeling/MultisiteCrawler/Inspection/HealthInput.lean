import MultisiteCrawler.Foundation.CivilTime
import MultisiteCrawler.Foundation.EscapingErrors
import MultisiteCrawler.Foundation.JsonNumbers
import MultisiteCrawler.Observability.RunEvents

/-!
# Health-report inputs

Reading the aggregate health document of the daily inspection.  The checks of
the fields are made in the order of the source, so that of several faults the
first is the one which is raised.  `sourceInput_eq_ok_iff` and
`parseHealthReportInput_eq_ok_iff` say which documents are accepted, and as
what.
-/

namespace MultisiteCrawler.Inspection

open Foundation.CivilTime
open Foundation.EscapingErrors
open Foundation.JsonNumbers
open Foundation.JsonText
open Foundation.PythonErrors
open MultisiteCrawler.Observability

/-! ## Beijing time -/

/-- A datetime whose `tzinfo` is `BEIJING`. -/
structure BeijingTime where
  wall : NaiveDateTime
  fold : Bool
deriving DecidableEq

/-- `ZoneInfo("Asia/Shanghai")`. -/
structure BeijingRules where
  /-- `utcoffset`, where the `fold` tells repeated wall times apart. -/
  utcoffset : NaiveDateTime → Bool → UtcOffset
  /-- The offset in force at a time of UTC, and the `fold` there. -/
  fromutc : NaiveDateTime → UtcOffset × Bool

/-- A `tzinfo`: `BEIJING`, or another one by its offset in microseconds. -/
inductive Zone where
  | beijing
  | other (offset : ℤ)
deriving DecidableEq

/-- A datetime, naive if it has no zone. -/
structure Timestamp where
  wall : NaiveDateTime
  fold : Bool
  zone : Option Zone
deriving DecidableEq

/-- What `json.loads` raises. -/
inductive LoadsError where
  | notJson
  /-- An integer has more digits than the interpreter converts. -/
  | digitLimit
  /-- The document is nested too deeply. -/
  | recursionLimit
deriving DecidableEq

/-- The exception of a failure of `json.loads`. -/
def LoadsError.raised : LoadsError → PyError
  | .notJson => .library (.other "JSONDecodeError")
  | .digitLimit => .library .valueError
  | .recursionLimit => .library (.other "RecursionError")

/-- What the inspection uses of the standard library. -/
structure Library (Number : Type) where
  /-- `json.loads`. -/
  loads : String → Except LoadsError Json
  /-- `datetime.fromisoformat`; `none` is its `ValueError`. -/
  fromisoformat : String → Option Timestamp
  beijing : BeijingRules
  floats : JsonFloats Number
  /-- `format(value, ".2%")`. -/
  percent : Number → String
  /-- `format(value, ".3f")`. -/
  fixed : Number → String

/-- A `BeijingTime` as any other datetime. -/
def BeijingTime.timestamp (time : BeijingTime) : Timestamp :=
  ⟨time.wall, time.fold, some .beijing⟩

/-- The datetime at a count of microseconds, or an `OverflowError`. -/
def datetimeAt (count : ℤ) : Except PyError NaiveDateTime :=
  match NaiveDateTime.ofMicroseconds count with
  | none => .error (.library .overflowError)
  | some wall => .ok wall

/-- `datetime.isoformat()`. -/
def BeijingTime.isoformat (rules : BeijingRules) (time : BeijingTime) :
    String :=
  String.ofList
    (Foundation.CivilTime.isoformat time.wall ++
      offsetText (rules.utcoffset time.wall time.fold))

/-- `value.astimezone(BEIJING)` of a datetime with a zone. -/
def astimezone (rules : BeijingRules) (wall : NaiveDateTime) (fold : Bool) :
    Zone → Except PyError BeijingTime
  | .beijing => .ok ⟨wall, fold⟩
  | .other offset => do
      let utc ← datetimeAt (wall.microseconds - offset)
      let (ahead, isFold) := rules.fromutc utc
      let there ← datetimeAt (utc.microseconds + ahead.seconds * 1000000)
      .ok ⟨there, isFold⟩

/-! ## Inputs -/

/-- Counts of the HTTP statuses 401, 403 and 429. -/
structure HttpStatuses where
  unauthorized : ℕ
  forbidden : ℕ
  tooManyRequests : ℕ
deriving DecidableEq

/-- The mapping of the counts, in the order of `_INTERESTING_HTTP_STATUSES`. -/
def HttpStatuses.entries (statuses : HttpStatuses) : List (String × ℕ) :=
  [("401", statuses.unauthorized), ("403", statuses.forbidden),
    ("429", statuses.tooManyRequests)]

/-- Safe aggregate health data for one source over the inspection window. -/
structure SourceHealthInput (Number : Type) where
  sourceId : String
  runsSucceeded : ℕ
  runsFailed : ℕ
  lastSuccessAt : Option BeijingTime
  averageDurationSeconds : Number
  p95DurationSeconds : Number
  itemCount : ℕ
  baselineItemCount : Option ℕ
  parseFailureSnapshotCount : ℕ
  httpStatuses : HttpStatuses
  queueDepth : ℕ
  circuitBreakerOpen : Bool

/-- A complete safe 24-hour health-report input. -/
structure HealthReportInput (Number : Type) where
  windowEnd : BeijingTime
  sources : List (SourceHealthInput Number)

/-! ## Checks -/

/-- The class of `InspectionInputError`. -/
def inspectionInputErrorKind : ErrorKind := .other "InspectionInputError"

/-- `raise InspectionInputError(message)`. -/
def inspectionInputError (message : String) : PyError :=
  ⟨inspectionInputErrorKind, some message⟩

/-- `_mapping`. -/
def mapping (value : Json) (name : String) :
    Except PyError (List (String × Json)) :=
  match value with
  | .obj members => .ok members
  | _ => .error (inspectionInputError (name ++ " must be an object"))

/-- `sorted(set(left) - set(right))`. -/
def sortedDifference (left right : List String) : List String :=
  (left.dedup.filter fun key => !right.contains key).insertionSort (· ≤ ·)

/-- `_only_keys`. -/
def onlyKeys (value : List (String × Json)) (allowed : List String)
    (name : String) : Except PyError Unit :=
  let extra := sortedDifference (value.map Prod.fst) allowed
  let missing := sortedDifference allowed (value.map Prod.fst)
  if extra = [] ∧ missing = [] then .ok ()
  else
    let detail :=
      ", ".intercalate
        (extra.map ("unexpected " ++ ·) ++ missing.map ("missing " ++ ·))
    .error
      (inspectionInputError (name ++ " has invalid fields: " ++ detail))

/-- `_nonnegative_int`. -/
def nonnegativeInt (value : Json) (name : String) : Except PyError ℕ :=
  match value with
  | .int (.ofNat count) => .ok count
  | _ =>
      .error
        (inspectionInputError (name ++ " must be a non-negative integer"))

/-- `_optional_nonnegative_int`. -/
def optionalNonnegativeInt (value : Json) : Except PyError (Option ℕ) :=
  match value with
  | .null => .ok none
  | value => (nonnegativeInt value "baseline_item_count").map some

/-- `_boolean`. -/
def boolean (value : Json) (name : String) : Except PyError Bool :=
  match value with
  | .bool flag => .ok flag
  | _ => .error (inspectionInputError (name ++ " must be a boolean"))

/-- `_INTERESTING_HTTP_STATUSES`. -/
def interestingHttpStatuses : List String := ["401", "403", "429"]

/-- One entry of `_http_statuses`. -/
def httpStatus (statuses : List (String × Json)) (status : String) :
    Except PyError ℕ :=
  nonnegativeInt (getMember status statuses) ("http_statuses." ++ status)

/-- `_http_statuses`. -/
def httpStatuses (value : Json) : Except PyError HttpStatuses := do
  let statuses ← mapping value "http_statuses"
  onlyKeys statuses interestingHttpStatuses "http_statuses"
  let unauthorized ← httpStatus statuses "401"
  let forbidden ← httpStatus statuses "403"
  let tooManyRequests ← httpStatus statuses "429"
  .ok ⟨unauthorized, forbidden, tooManyRequests⟩

/-- The fields of a source. -/
def sourceFields : List String :=
  ["source_id", "runs_succeeded", "runs_failed", "last_success_at",
    "average_duration_seconds", "p95_duration_seconds", "item_count",
    "baseline_item_count", "parse_failure_snapshot_count", "http_statuses",
    "queue_depth", "circuit_breaker_open"]

/-- The id of a source. -/
def sourceIdentifier (value : Json) : Except PyError String :=
  match value with
  | .str text =>
      if matchesSourceId text then .ok text
      else .error (inspectionInputError "source_id must match [a-z0-9_-]+")
  | _ => .error (inspectionInputError "source_id must match [a-z0-9_-]+")

/-- `_beijing_timestamp`. -/
def beijingTimestamp (rules : BeijingRules) (value : Timestamp)
    (name : String) : Except PyError BeijingTime :=
  match value.zone with
  | none =>
      .error (inspectionInputError (name ++ " must include a timezone"))
  | some zone => astimezone rules value.wall value.fold zone

section Parser

variable {Number : Type} (library : Library Number)

/-- `_timestamp`. -/
def timestamp (value : Json) (name : String) : Except PyError BeijingTime :=
  match value with
  | .str text =>
      match library.fromisoformat text with
      | some parsed => beijingTimestamp library.beijing parsed name
      | none =>
          .error
            (inspectionInputError (name ++ " must be an ISO-8601 timestamp"))
  | _ =>
      .error
        (inspectionInputError (name ++ " must be an ISO-8601 timestamp"))

/-- `_optional_timestamp`. -/
def optionalTimestamp (value : Json) : Except PyError (Option BeijingTime) :=
  match value with
  | .null => .ok none
  | value => (timestamp library value "last_success_at").map some

/-- `_nonnegative_number` of a value which is no integer. -/
def nonnegativeFloat (value : Option Number) (refused : PyError) :
    Except PyError Number :=
  match value with
  | some number =>
      if library.floats.isNegative number then .error refused
      else .ok number
  | none => .error refused

/-- `_nonnegative_number`. -/
def nonnegativeNumber (value : Json) (name : String) : Except PyError Number :=
  let refused :=
    inspectionInputError (name ++ " must be a non-negative number")
  match value with
  | .int number =>
      if number < 0 then .error refused else library.floats.float number
  | value => nonnegativeFloat library (library.floats.ofJson value) refused

/-- `_source_input`. -/
def sourceInput (value : Json) :
    Except PyError (SourceHealthInput Number) := do
  let source ← mapping value "source"
  onlyKeys source sourceFields "source"
  let sourceId ← sourceIdentifier (getMember "source_id" source)
  let runsSucceeded ←
    nonnegativeInt (getMember "runs_succeeded" source) "runs_succeeded"
  let runsFailed ←
    nonnegativeInt (getMember "runs_failed" source) "runs_failed"
  let lastSuccessAt ←
    optionalTimestamp library (getMember "last_success_at" source)
  let averageDurationSeconds ←
    nonnegativeNumber library (getMember "average_duration_seconds" source)
      "average_duration_seconds"
  let p95DurationSeconds ←
    nonnegativeNumber library (getMember "p95_duration_seconds" source)
      "p95_duration_seconds"
  let itemCount ← nonnegativeInt (getMember "item_count" source) "item_count"
  let baselineItemCount ←
    optionalNonnegativeInt (getMember "baseline_item_count" source)
  let parseFailureSnapshotCount ←
    nonnegativeInt (getMember "parse_failure_snapshot_count" source)
      "parse_failure_snapshot_count"
  let statuses ← httpStatuses (getMember "http_statuses" source)
  let queueDepth ←
    nonnegativeInt (getMember "queue_depth" source) "queue_depth"
  let circuitBreakerOpen ←
    boolean (getMember "circuit_breaker_open" source) "circuit_breaker_open"
  .ok
    { sourceId, runsSucceeded, runsFailed, lastSuccessAt,
      averageDurationSeconds, p95DurationSeconds, itemCount,
      baselineItemCount, parseFailureSnapshotCount,
      httpStatuses := statuses, queueDepth, circuitBreakerOpen }

/-- The sources of a document; `sources` must be a list. -/
def sourceInputs (value : Json) :
    Except PyError (List (SourceHealthInput Number)) :=
  match value with
  | .arr items => items.mapM (sourceInput library)
  | _ => .error (inspectionInputError "sources must be a list")

/-- `parse_health_report_input`. -/
def parseHealthReportInput (document : Json) :
    Except PyError (HealthReportInput Number) := do
  let root ← mapping document "health report"
  onlyKeys root ["window_end", "sources"] "health report"
  let windowEnd ←
    timestamp library (getMember "window_end" root) "window_end"
  let sources ← sourceInputs library (getMember "sources" root)
  let sourceIds := sources.map SourceHealthInput.sourceId
  if sourceIds.length ≠ sourceIds.dedup.length then
    .error (inspectionInputError "sources must not repeat source_id")
  else .ok ⟨windowEnd, sources⟩

/-- Text mode reads every line end as a newline. -/
def universalNewlines : List Char → List Char
  | '\r' :: '\n' :: rest => '\n' :: universalNewlines rest
  | '\r' :: rest => '\n' :: universalNewlines rest
  | character :: rest => character :: universalNewlines rest
  | [] => []

/-- `path.read_text(encoding="utf-8")`; `none` is a file which is unreadable. -/
def readText (file : Option ByteArray) : Except PyError String :=
  match file with
  | none => .error (.library .osError)
  | some content =>
      match String.fromUTF8? content with
      | none => .error (.library (.other "UnicodeDecodeError"))
      | some text => .ok (String.ofList (universalNewlines text.toList))

/-- The exceptions caught while a document is read. -/
def isUnreadable (error : PyError) : Bool :=
  error.kind = .osError || error.kind = .other "JSONDecodeError"

/-- The document of a file. -/
def readDocument (file : Option ByteArray) : Except PyError Json :=
  match
    (do
      let text ← readText file
      (library.loads text).mapError LoadsError.raised) with
  | .ok document => .ok document
  | .error error =>
      if isUnreadable error then
        .error
          (inspectionInputError "health report input is not readable JSON")
      else .error error

/-- `load_health_report_input`. -/
def loadHealthReportInput (file : Option ByteArray) :
    Except PyError (HealthReportInput Number) := do
  let document ← readDocument library file
  parseHealthReportInput library document

end Parser

/-! ## Accepted documents -/

/-- A mapping has the given keys and no others. -/
def HasKeys (members : List (String × Json)) (keys : List String) : Prop :=
  ∀ key, key ∈ members.map Prod.fst ↔ key ∈ keys

/-- A count, or `None`. -/
def countOrNull : Option ℕ → Json
  | none => .null
  | some count => .int count

/-- A mapping gives the counts of the statuses. -/
structure DescribesStatuses (members : List (String × Json))
    (statuses : HttpStatuses) : Prop where
  keys : HasKeys members interestingHttpStatuses
  counts : ∀ entry ∈ statuses.entries,
    getMember entry.1 members = .int entry.2

theorem sortedDifference_eq_nil_iff (left right : List String) :
    sortedDifference left right = [] ↔ ∀ key ∈ left, key ∈ right := by
  rw [sortedDifference, ← List.length_eq_zero_iff, List.length_insertionSort,
    List.length_eq_zero_iff, List.filter_eq_nil_iff]
  simp

theorem mapping_eq_ok_iff
    (value : Json) (name : String) (members : List (String × Json)) :
    mapping value name = .ok members ↔ value = .obj members := by
  cases value <;> simp [mapping]

theorem onlyKeys_eq_ok_iff
    (members : List (String × Json)) (keys : List String) (name : String)
    (reply : Unit) :
    onlyKeys members keys name = .ok reply ↔ HasKeys members keys := by
  have same :
      (sortedDifference (members.map Prod.fst) keys = [] ∧
          sortedDifference keys (members.map Prod.fst) = []) ↔
        HasKeys members keys := by
    rw [sortedDifference_eq_nil_iff, sortedDifference_eq_nil_iff]
    exact ⟨fun both key => ⟨both.1 key, both.2 key⟩, fun equal =>
      ⟨fun key => (equal key).mp, fun key => (equal key).mpr⟩⟩
  rw [onlyKeys, ← same]
  split_ifs with both
  · exact iff_of_true rfl both
  · exact iff_of_false nofun both

theorem nonnegativeInt_eq_ok_iff (value : Json) (name : String) (count : ℕ) :
    nonnegativeInt value name = .ok count ↔ value = .int count := by
  cases value with
  | int number => cases number <;> simp [nonnegativeInt]
  | _ => simp [nonnegativeInt]

theorem optionalNonnegativeInt_eq_ok_iff
    (value : Json) (count : Option ℕ) :
    optionalNonnegativeInt value = .ok count ↔ value = countOrNull count := by
  cases value with
  | null => cases count <;> simp [optionalNonnegativeInt, countOrNull]
  | _ =>
      cases count <;>
        simp [optionalNonnegativeInt, countOrNull, map_eq_ok_iff,
          nonnegativeInt_eq_ok_iff]

theorem boolean_eq_ok_iff (value : Json) (name : String) (flag : Bool) :
    boolean value name = .ok flag ↔ value = .bool flag := by
  cases value <;> simp [boolean]

theorem sourceIdentifier_eq_ok_iff (value : Json) (sourceId : String) :
    sourceIdentifier value = .ok sourceId ↔
      value = .str sourceId ∧ matchesSourceId sourceId = true := by
  cases value with
  | str text =>
      rw [sourceIdentifier, Json.str.injEq]
      split_ifs with accepted
      · rw [Except.ok.injEq]
        exact ⟨fun same => ⟨same, same ▸ accepted⟩, And.left⟩
      · refine iff_of_false nofun ?_
        rintro ⟨rfl, matched⟩
        exact accepted matched
  | _ => simp [sourceIdentifier]

theorem httpStatuses_eq_ok_iff (value : Json) (statuses : HttpStatuses) :
    httpStatuses value = .ok statuses ↔
      ∃ members, value = .obj members ∧
        DescribesStatuses members statuses := by
  simp only [httpStatuses, httpStatus, bind_eq_ok_iff, mapping_eq_ok_iff,
    onlyKeys_eq_ok_iff, nonnegativeInt_eq_ok_iff]
  constructor
  · rintro ⟨members, rfl, _, keys, unauthorized, isUnauthorized, forbidden,
      isForbidden, tooMany, isTooMany, ⟨⟩⟩
    refine ⟨members, rfl, keys, ?_⟩
    simp [HttpStatuses.entries, isUnauthorized, isForbidden, isTooMany]
  · rintro ⟨members, rfl, keys, counts⟩
    simp only [HttpStatuses.entries, List.forall_mem_cons] at counts
    exact ⟨members, rfl, (), keys, _, counts.1, _, counts.2.1, _,
      counts.2.2.1, rfl⟩

section Descriptions

variable {Number : Type} (library : Library Number)

/-- A value is the text of a time. -/
def IsTime (value : Json) (time : BeijingTime) : Prop :=
  ∃ text parsed zone,
    value = .str text ∧ library.fromisoformat text = some parsed ∧
      parsed.zone = some zone ∧
      astimezone library.beijing parsed.wall parsed.fold zone = .ok time

/-- A value is the text of a time, or `None`. -/
def IsOptionalTime (value : Json) (time : Option BeijingTime) : Prop :=
  match time with
  | none => value = .null
  | some time => IsTime library value time

/-- A value is a number which is not negative, or not comparable to zero. -/
def IsNumber (value : Json) (number : Number) : Prop :=
  (∃ count : ℕ, value = .int count ∧
      library.floats.float count = .ok number) ∨
    (library.floats.ofJson value = some number ∧
      library.floats.isNegative number = false)

/-- A mapping describes a source. -/
structure Describes (members : List (String × Json))
    (source : SourceHealthInput Number) : Prop where
  keys : HasKeys members sourceFields
  sourceId : getMember "source_id" members = .str source.sourceId
  sourceId_matches : matchesSourceId source.sourceId = true
  runsSucceeded :
    getMember "runs_succeeded" members = .int source.runsSucceeded
  runsFailed : getMember "runs_failed" members = .int source.runsFailed
  lastSuccessAt :
    IsOptionalTime library (getMember "last_success_at" members)
      source.lastSuccessAt
  averageDurationSeconds :
    IsNumber library (getMember "average_duration_seconds" members)
      source.averageDurationSeconds
  p95DurationSeconds :
    IsNumber library (getMember "p95_duration_seconds" members)
      source.p95DurationSeconds
  itemCount : getMember "item_count" members = .int source.itemCount
  baselineItemCount :
    getMember "baseline_item_count" members =
      countOrNull source.baselineItemCount
  parseFailureSnapshotCount :
    getMember "parse_failure_snapshot_count" members =
      .int source.parseFailureSnapshotCount
  httpStatuses :
    ∃ statuses, getMember "http_statuses" members = .obj statuses ∧
      DescribesStatuses statuses source.httpStatuses
  queueDepth : getMember "queue_depth" members = .int source.queueDepth
  circuitBreakerOpen :
    getMember "circuit_breaker_open" members = .bool source.circuitBreakerOpen

/-- A value describes a source. -/
def IsSource (value : Json) (source : SourceHealthInput Number) : Prop :=
  ∃ members, value = .obj members ∧ Describes library members source

/-- A mapping describes an input. -/
structure DescribesInput (root : List (String × Json))
    (input : HealthReportInput Number) : Prop where
  keys : HasKeys root ["window_end", "sources"]
  windowEnd : IsTime library (getMember "window_end" root) input.windowEnd
  sources : ∃ items, getMember "sources" root = .arr items ∧
    List.Forall₂ (IsSource library) items input.sources
  distinct : (input.sources.map SourceHealthInput.sourceId).Nodup

variable {library}

/-- A datetime with a zone is converted, and nothing else is accepted. -/
theorem timestamp_cases (value : Json) (name : String) :
    (∃ text parsed zone,
        value = .str text ∧ library.fromisoformat text = some parsed ∧
          parsed.zone = some zone ∧
          timestamp library value name =
            astimezone library.beijing parsed.wall parsed.fold zone) ∨
      ((∀ text parsed, value = .str text →
          library.fromisoformat text = some parsed → parsed.zone = none) ∧
        ∃ message,
          timestamp library value name =
            .error (inspectionInputError message)) := by
  cases value with
  | str text =>
      rw [timestamp]
      cases isParsed : library.fromisoformat text with
      | none =>
          refine Or.inr ⟨?_, _, rfl⟩
          rintro _ parsed ⟨⟩ found
          rw [isParsed] at found
          cases found
      | some parsed =>
          dsimp only
          rw [beijingTimestamp]
          cases isZone : parsed.zone with
          | none =>
              refine Or.inr ⟨?_, _, rfl⟩
              rintro _ other ⟨⟩ found
              rw [isParsed] at found
              cases found
              exact isZone
          | some zone =>
              exact Or.inl ⟨text, parsed, zone, rfl, isParsed, isZone, rfl⟩
  | _ => exact Or.inr ⟨nofun, _, rfl⟩

theorem timestamp_eq_ok_iff
    (value : Json) (name : String) (time : BeijingTime) :
    timestamp library value name = .ok time ↔ IsTime library value time := by
  rcases timestamp_cases value name with
    ⟨text, parsed, zone, rfl, isParsed, isZone, converts⟩ |
      ⟨naive, message, rejects⟩
  · rw [converts]
    constructor
    · intro converted
      exact ⟨text, parsed, zone, rfl, isParsed, isZone, converted⟩
    · rintro ⟨_, other, _, ⟨⟩, found, aware, converted⟩
      rw [isParsed] at found
      cases found
      rw [isZone] at aware
      cases aware
      exact converted
  · rw [rejects]
    refine iff_of_false nofun ?_
    rintro ⟨text, parsed, zone, isText, isParsed, aware, _⟩
    rw [naive text parsed isText isParsed] at aware
    cases aware

theorem optionalTimestamp_eq_ok_iff
    (value : Json) (time : Option BeijingTime) :
    optionalTimestamp library value = .ok time ↔
      IsOptionalTime library value time := by
  have notNull : ∀ moment, ¬ IsTime library .null moment := by
    rintro moment ⟨_, _, _, ⟨⟩, _⟩
  cases value with
  | null =>
      cases time with
      | none => exact iff_of_true rfl rfl
      | some moment => exact iff_of_false nofun (notNull moment)
  | _ =>
      rw [optionalTimestamp, map_eq_ok_iff]
      · cases time <;> simp [IsOptionalTime, timestamp_eq_ok_iff]
      · exact nofun

theorem nonnegativeFloat_eq_ok_iff
    (value : Option Number) (refused : PyError) (number : Number) :
    nonnegativeFloat library value refused = .ok number ↔
      value = some number ∧ library.floats.isNegative number = false := by
  cases value with
  | none => exact iff_of_false nofun nofun
  | some found =>
      rw [nonnegativeFloat, Option.some.injEq]
      split_ifs with negative
      · refine iff_of_false nofun ?_
        rintro ⟨rfl, positive⟩
        rw [negative] at positive
        cases positive
      · rw [Except.ok.injEq]
        refine ⟨?_, And.left⟩
        rintro rfl
        exact ⟨rfl, Bool.eq_false_iff.mpr negative⟩

theorem nonnegativeNumber_eq_ok_iff
    (value : Json) (name : String) (number : Number) :
    nonnegativeNumber library value name = .ok number ↔
      IsNumber library value number := by
  cases value with
  | int integer =>
      rw [nonnegativeNumber, IsNumber]
      simp only [JsonFloats.ofJson, reduceCtorEq, false_and, or_false,
        Json.int.injEq]
      constructor
      · intro accepted
        split_ifs at accepted with negative
        rw [not_lt] at negative
        lift integer to ℕ using negative with count
        exact ⟨count, rfl, accepted⟩
      · rintro ⟨count, rfl, converted⟩
        rw [if_neg (not_lt.mpr (Int.natCast_nonneg count))]
        exact converted
  | _ =>
      rw [nonnegativeNumber, IsNumber]
      · simp only [reduceCtorEq, false_and, exists_false, false_or,
          nonnegativeFloat_eq_ok_iff]
      · exact nofun

/-- The accepted sources, and as what they are read. -/
theorem sourceInput_eq_ok_iff
    (value : Json) (source : SourceHealthInput Number) :
    sourceInput library value = .ok source ↔
      IsSource library value source := by
  simp only [sourceInput, bind_eq_ok_iff, mapping_eq_ok_iff,
    onlyKeys_eq_ok_iff, sourceIdentifier_eq_ok_iff, nonnegativeInt_eq_ok_iff,
    optionalTimestamp_eq_ok_iff, nonnegativeNumber_eq_ok_iff,
    optionalNonnegativeInt_eq_ok_iff, httpStatuses_eq_ok_iff,
    boolean_eq_ok_iff]
  constructor
  · rintro ⟨members, rfl, _, keys, _, ⟨isId, matched⟩, _, succeeded, _,
      failed, _, success, _, average, _, p95, _, items, _, baseline, _,
      snapshots, _, statuses, _, depth, _, isOpen, ⟨⟩⟩
    exact ⟨members, rfl, keys, isId, matched, succeeded, failed, success,
      average, p95, items, baseline, snapshots, statuses, depth, isOpen⟩
  · rintro ⟨members, rfl, described⟩
    exact ⟨members, rfl, (), described.keys, _,
      ⟨described.sourceId, described.sourceId_matches⟩, _,
      described.runsSucceeded, _, described.runsFailed, _,
      described.lastSuccessAt, _, described.averageDurationSeconds, _,
      described.p95DurationSeconds, _, described.itemCount, _,
      described.baselineItemCount, _, described.parseFailureSnapshotCount, _,
      described.httpStatuses, _, described.queueDepth, _,
      described.circuitBreakerOpen, rfl⟩

theorem sourceInputs_eq_ok_iff
    (value : Json) (sources : List (SourceHealthInput Number)) :
    sourceInputs library value = .ok sources ↔
      ∃ items, value = .arr items ∧
        List.Forall₂ (IsSource library) items sources := by
  cases value with
  | arr items =>
      simp only [sourceInputs, mapM_eq_ok_iff, sourceInput_eq_ok_iff,
        Json.arr.injEq, exists_eq_left']
  | _ => simp [sourceInputs]

/-- The accepted documents, and as what they are read. -/
theorem parseHealthReportInput_eq_ok_iff
    (document : Json) (input : HealthReportInput Number) :
    parseHealthReportInput library document = .ok input ↔
      ∃ root, document = .obj root ∧ DescribesInput library root input := by
  have repeated : ∀ ids : List String,
      ids.length = ids.dedup.length ↔ ids.Nodup := by
    intro ids
    rw [← List.dedup_eq_self]
    exact ⟨fun equal => (List.dedup_sublist ids).eq_of_length equal.symm,
      fun same => by rw [same]⟩
  simp only [parseHealthReportInput, bind_eq_ok_iff, mapping_eq_ok_iff,
    onlyKeys_eq_ok_iff, timestamp_eq_ok_iff, sourceInputs_eq_ok_iff]
  constructor
  · rintro ⟨root, rfl, _, keys, windowEnd, isTime, sources, described,
      accepted⟩
    split_ifs at accepted with distinct
    rw [not_not, repeated] at distinct
    cases accepted
    exact ⟨root, rfl, keys, isTime, described, distinct⟩
  · rintro ⟨root, rfl, described⟩
    refine ⟨root, rfl, (), described.keys, _, described.windowEnd, _,
      described.sources, ?_⟩
    rw [if_neg (not_not.mpr ((repeated _).mpr described.distinct))]

end Descriptions

end MultisiteCrawler.Inspection
