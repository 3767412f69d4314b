import MultisiteCrawler.Inspection.Report

/-!
# Rejected health documents

Which health documents are neither reported nor rejected by an
`InspectionInputError`.  The checks look at types and signs, and what comes
after them is partial: Beijing time, the range of floats and the window of
the report all end somewhere.
-/

namespace MultisiteCrawler.Inspection

open Foundation.CivilTime
open Foundation.EscapingErrors
open Foundation.JsonNumbers
open Foundation.JsonText
open Foundation.PythonErrors
open Foundation.PythonFloats
open MultisiteCrawler.Observability

/-- The exception a caller of the inspection handles. -/
def IsInspectionInputError (error : PyError) : Prop :=
  error.kind = inspectionInputErrorKind

instance (error : PyError) : Decidable (IsInspectionInputError error) :=
  inferInstanceAs (Decidable (_ = _))

/-- Another exception than an `InspectionInputError` is raised. -/
abbrev Raises {Result : Type} (outcome : Except PyError Result) : Prop :=
  Escapes IsInspectionInputError outcome

/-! ## Faults which are not rejected -/

/-- A wall time with an offset has no Beijing time in the calendar. -/
def LeavesCalendar (rules : BeijingRules) (wall : NaiveDateTime)
    (offset : ℤ) : Prop :=
  ∀ utc,
    NaiveDateTime.ofMicroseconds (wall.microseconds - offset) = some utc →
      NaiveDateTime.ofMicroseconds
        (utc.microseconds + (rules.fromutc utc).1.seconds * 1000000) = none

/-- A source has the right keys, an accepted id and counts of its runs. -/
structure Begins (members : List (String × Json)) : Prop where
  keys : HasKeys members sourceFields
  sourceId : ∃ sourceId, getMember "source_id" members = .str sourceId ∧
    matchesSourceId sourceId = true
  runsSucceeded : ∃ count : ℕ,
    getMember "runs_succeeded" members = .int count
  runsFailed : ∃ count : ℕ, getMember "runs_failed" members = .int count

section Faults

variable {Number : Type} (library : Library Number)

/-- The text of a datetime which has no Beijing time in the calendar. -/
def IsLostTime (value : Json) : Prop :=
  ∃ text parsed offset,
    value = .str text ∧ library.fromisoformat text = some parsed ∧
      parsed.zone = some (.other offset) ∧
      LeavesCalendar library.beijing parsed.wall offset

/-- An integer beyond the range of floats. -/
def IsLargeNumber (value : Json) : Prop :=
  ∃ count : ℕ, value = .int count ∧ library.floats.nearest count = none

/-- A source whose first fault is one which is not rejected. -/
inductive IsFaultySource : Json → Prop where
  | lastSuccess {members : List (String × Json)} (begins : Begins members)
      (lost : IsLostTime library (getMember "last_success_at" members)) :
      IsFaultySource (.obj members)
  | averageDuration {members : List (String × Json)}
      (begins : Begins members) (time : Option BeijingTime)
      (isTime :
        IsOptionalTime library (getMember "last_success_at" members) time)
      (large :
        IsLargeNumber library
          (getMember "average_duration_seconds" members)) :
      IsFaultySource (.obj members)
  | p95Duration {members : List (String × Json)} (begins : Begins members)
      (time : Option BeijingTime)
      (isTime :
        IsOptionalTime library (getMember "last_success_at" members) time)
      (average : Number)
      (isAverage :
        IsNumber library (getMember "average_duration_seconds" members)
          average)
      (large :
        IsLargeNumber library (getMember "p95_duration_seconds" members)) :
      IsFaultySource (.obj members)

/-- The item count of a source is too far from its baseline for a float. -/
def HasLargeDeviation (source : SourceHealthInput Number) : Prop :=
  ∃ baseline : ℕ,
    source.baselineItemCount = some baseline ∧ baseline ≠ 0 ∧
      library.floats.nearest (|(source.itemCount : ℚ) - baseline| / baseline) =
        none

/-- A document whose first fault is one which is not rejected. -/
inductive IsFaultyDocument : Json → Prop where
  | windowEnd {root : List (String × Json)}
      (keys : HasKeys root ["window_end", "sources"])
      (lost : IsLostTime library (getMember "window_end" root)) :
      IsFaultyDocument (.obj root)
  | source {root : List (String × Json)} {before after : List Json}
      {value : Json} (keys : HasKeys root ["window_end", "sources"])
      (time : BeijingTime)
      (isTime : IsTime library (getMember "window_end" root) time)
      (items : getMember "sources" root = .arr (before ++ value :: after))
      (accepted : ∀ earlier ∈ before, ∃ source,
        IsSource library earlier source)
      (faulty : IsFaultySource library value) :
      IsFaultyDocument (.obj root)
  | deviation {root : List (String × Json)}
      {input : HealthReportInput Number}
      (described : DescribesInput library root input)
      {source : SourceHealthInput Number} (member : source ∈ input.sources)
      (large : HasLargeDeviation library source) :
      IsFaultyDocument (.obj root)
  | windowStart {root : List (String × Json)}
      {input : HealthReportInput Number}
      (described : DescribesInput library root input)
      (early : input.windowEnd.wall.microseconds < dayMicroseconds) :
      IsFaultyDocument (.obj root)

/-- A file whose first fault is one which is not rejected. -/
inductive IsFaultyFile (content : ByteArray) : Prop where
  | encoding (undecodable : String.fromUTF8? content = none)
  | limits {text : String} {error : LoadsError}
      (decoded : readText (some content) = .ok text)
      (raised : library.loads text = .error error)
      (unhandled : error ≠ .notJson)
  | document {text : String} {document : Json}
      (decoded : readText (some content) = .ok text)
      (read : library.loads text = .ok document)
      (faulty : IsFaultyDocument library document)

/-- Load a file, report on it, and write both texts of the report. -/
def inspect (file : Option ByteArray) : Except PyError (String × String) := do
  let input ← loadHealthReportInput library file
  let report ←
    buildDailyReport library.floats.toFloatArithmetic library.beijing input
      none
  .ok (report.toJson library.floats, renderMarkdown library report)

end Faults

/-! ## Checks which only reject -/

theorem not_raises_inspectionInputError
    {Result : Type} (message : String) :
    ¬ Raises
      (.error (inspectionInputError message) : Except PyError Result) := by
  intro raises
  exact (escapes_error_iff _).mp raises rfl

theorem not_raises_mapping (value : Json) (name : String) :
    ¬ Raises (mapping value name) := by
  cases value with
  | obj members => exact not_escapes_ok members
  | _ => exact not_raises_inspectionInputError _

theorem not_raises_onlyKeys
    (members : List (String × Json)) (keys : List String) (name : String) :
    ¬ Raises (onlyKeys members keys name) := by
  rw [onlyKeys]
  split_ifs
  · exact not_escapes_ok ()
  · exact not_raises_inspectionInputError _

theorem not_raises_nonnegativeInt (value : Json) (name : String) :
    ¬ Raises (nonnegativeInt value name) := by
  cases value with
  | int number =>
      cases number with
      | ofNat count => exact not_escapes_ok count
      | negSucc predecessor => exact not_raises_inspectionInputError _
  | _ => exact not_raises_inspectionInputError _

theorem raises_map_iff
    {Result Output : Type} (outcome : Except PyError Result)
    (output : Result → Output) :
    Raises (outcome.map output) ↔ Raises outcome := by
  cases outcome with
  | ok result =>
      exact iff_of_false (not_escapes_ok (output result))
        (not_escapes_ok result)
  | error error =>
      constructor
      · rintro ⟨_, ⟨⟩, unhandled⟩
        exact ⟨error, rfl, unhandled⟩
      · rintro ⟨_, ⟨⟩, unhandled⟩
        exact ⟨error, rfl, unhandled⟩

theorem not_raises_optionalNonnegativeInt (value : Json) :
    ¬ Raises (optionalNonnegativeInt value) := by
  cases value with
  | null => exact not_escapes_ok none
  | _ =>
      rw [optionalNonnegativeInt, raises_map_iff]
      · exact not_raises_nonnegativeInt _ _
      · intro isNull
        cases isNull

theorem not_raises_boolean (value : Json) (name : String) :
    ¬ Raises (boolean value name) := by
  cases value with
  | bool flag => exact not_escapes_ok flag
  | _ => exact not_raises_inspectionInputError _

theorem not_raises_sourceIdentifier (value : Json) :
    ¬ Raises (sourceIdentifier value) := by
  cases value with
  | str text =>
      rw [sourceIdentifier]
      split_ifs
      · exact not_escapes_ok text
      · exact not_raises_inspectionInputError _
  | _ => exact not_raises_inspectionInputError _

theorem not_raises_httpStatuses (value : Json) :
    ¬ Raises (httpStatuses value) := by
  simp [httpStatuses, httpStatus, escapes_bind_iff, not_raises_mapping,
    not_raises_onlyKeys, not_raises_nonnegativeInt]

/-! ## Checks which raise -/

theorem raises_datetimeAt_iff (count : ℤ) :
    Raises (datetimeAt count) ↔ NaiveDateTime.ofMicroseconds count = none := by
  rw [datetimeAt]
  cases NaiveDateTime.ofMicroseconds count with
  | none =>
      exact iff_of_true ((escapes_error_iff _).mpr (by decide)) rfl
  | some wall => exact iff_of_false (not_escapes_ok wall) nofun

theorem datetimeAt_eq_ok_iff (count : ℤ) (wall : NaiveDateTime) :
    datetimeAt count = .ok wall ↔
      NaiveDateTime.ofMicroseconds count = some wall := by
  rw [datetimeAt]
  cases NaiveDateTime.ofMicroseconds count <;> simp

/-- Exactly the times without a Beijing time overflow. -/
theorem raises_astimezone_iff
    (rules : BeijingRules) (wall : NaiveDateTime) (fold : Bool)
    (zone : Zone) :
    Raises (astimezone rules wall fold zone) ↔
      ∃ offset, zone = .other offset ∧ LeavesCalendar rules wall offset := by
  cases zone with
  | beijing => exact iff_of_false (not_escapes_ok _) nofun
  | other offset =>
      simp only [astimezone, escapes_bind_iff, raises_datetimeAt_iff,
        datetimeAt_eq_ok_iff, not_escapes_ok, and_false, exists_false,
        or_false, Zone.other.injEq, exists_eq_left']
      rw [LeavesCalendar]
      cases isUtc :
          NaiveDateTime.ofMicroseconds (wall.microseconds - offset) with
      | none => simp
      | some utc => simp

section Raising

variable {Number : Type} {library : Library Number}

theorem raises_timestamp_iff (value : Json) (name : String) :
    Raises (timestamp library value name) ↔ IsLostTime library value := by
  rcases timestamp_cases value name with
    ⟨text, parsed, zone, rfl, isParsed, isZone, converts⟩ |
      ⟨naive, message, rejects⟩
  · rw [converts, raises_astimezone_iff]
    constructor
    · rintro ⟨offset, rfl, leaves⟩
      exact ⟨text, parsed, offset, rfl, isParsed, isZone, leaves⟩
    · rintro ⟨_, other, offset, ⟨⟩, found, aware, leaves⟩
      rw [isParsed] at found
      cases found
      rw [isZone] at aware
      cases aware
      exact ⟨offset, rfl, leaves⟩
  · rw [rejects]
    refine iff_of_false (not_raises_inspectionInputError _) ?_
    rintro ⟨text, parsed, offset, isText, isParsed, aware, _⟩
    rw [naive text parsed isText isParsed] at aware
    cases aware

theorem raises_optionalTimestamp_iff (value : Json) :
    Raises (optionalTimestamp library value) ↔ IsLostTime library value := by
  cases value with
  | null =>
      refine iff_of_false (not_escapes_ok _) ?_
      rintro ⟨_, _, _, ⟨⟩, _⟩
  | _ =>
      rw [optionalTimestamp, raises_map_iff, raises_timestamp_iff]
      intro isNull
      cases isNull

theorem raises_rounded_iff (value : ℚ) :
    Raises (library.floats.rounded value) ↔
      library.floats.nearest value = none := by
  rw [FloatArithmetic.rounded]
  cases library.floats.nearest value with
  | none =>
      exact iff_of_true ((escapes_error_iff _).mpr (by decide)) rfl
  | some number =>
      exact iff_of_false (not_escapes_ok number) (Option.some_ne_none number)

theorem not_raises_nonnegativeFloat
    (value : Option Number) (message : String) :
    ¬ Raises
      (nonnegativeFloat library value (inspectionInputError message)) := by
  cases value with
  | none => exact not_raises_inspectionInputError _
  | some number =>
      rw [nonnegativeFloat]
      split_ifs
      · exact not_raises_inspectionInputError _
      · exact not_escapes_ok number

theorem raises_nonnegativeNumber_iff (value : Json) (name : String) :
    Raises (nonnegativeNumber library value name) ↔
      IsLargeNumber library value := by
  cases value with
  | int integer =>
      rw [nonnegativeNumber]
      simp only [IsLargeNumber, Json.int.injEq]
      split_ifs with negative
      · refine iff_of_false (not_raises_inspectionInputError _) ?_
        rintro ⟨count, rfl, _⟩
        exact absurd negative (not_lt.mpr (Int.natCast_nonneg count))
      · rw [not_lt] at negative
        lift integer to ℕ using negative with count
        rw [FloatArithmetic.float, raises_rounded_iff]
        simp
  | _ =>
      rw [nonnegativeNumber]
      · refine iff_of_false (not_raises_nonnegativeFloat _ _) ?_
        rintro ⟨_, ⟨⟩, _⟩
      · intro integer isInteger
        cases isInteger

/-- What is raised while a source is checked. -/
theorem raises_sourceInput_iff (value : Json) :
    Raises (sourceInput library value) ↔ IsFaultySource library value := by
  simp only [sourceInput, escapes_bind_iff, mapping_eq_ok_iff,
    onlyKeys_eq_ok_iff, sourceIdentifier_eq_ok_iff, nonnegativeInt_eq_ok_iff,
    optionalTimestamp_eq_ok_iff, nonnegativeNumber_eq_ok_iff,
    not_raises_mapping, not_raises_onlyKeys, not_raises_sourceIdentifier,
    not_raises_nonnegativeInt, raises_optionalTimestamp_iff,
    raises_nonnegativeNumber_iff, not_raises_optionalNonnegativeInt,
    not_raises_httpStatuses, not_raises_boolean, not_escapes_ok, and_false,
    exists_false, false_or, or_false]
  constructor
  · rintro ⟨members, rfl, _, keys, sourceId, ⟨isId, matched⟩, succeeded,
      isSucceeded, failed, isFailed, fault⟩
    have begins : Begins members :=
      ⟨keys, ⟨sourceId, isId, matched⟩, ⟨succeeded, isSucceeded⟩,
        ⟨failed, isFailed⟩⟩
    rcases fault with lost | ⟨time, isTime, large | ⟨average, isAverage,
      large⟩⟩
    · exact .lastSuccess begins lost
    · exact .averageDuration begins time isTime large
    · exact .p95Duration begins time isTime average isAverage large
  · intro faulty
    cases faulty with
    | lastSuccess begins lost =>
        rcases begins with
          ⟨keys, ⟨sourceId, isId⟩, ⟨succeeded, isSucceeded⟩, ⟨failed, isFailed⟩⟩
        exact ⟨_, rfl, (), keys, sourceId, isId, succeeded, isSucceeded,
          failed, isFailed, Or.inl lost⟩
    | averageDuration begins time isTime large =>
        rcases begins with
          ⟨keys, ⟨sourceId, isId⟩, ⟨succeeded, isSucceeded⟩, ⟨failed, isFailed⟩⟩
        exact ⟨_, rfl, (), keys, sourceId, isId, succeeded, isSucceeded,
          failed, isFailed, Or.inr ⟨time, isTime, Or.inl large⟩⟩
    | p95Duration begins time isTime average isAverage large =>
        rcases begins with
          ⟨keys, ⟨sourceId, isId⟩, ⟨succeeded, isSucceeded⟩, ⟨failed, isFailed⟩⟩
        exact ⟨_, rfl, (), keys, sourceId, isId, succeeded, isSucceeded,
          failed, isFailed,
          Or.inr ⟨time, isTime, Or.inr ⟨average, isAverage, large⟩⟩⟩

theorem raises_sourceInputs_iff (value : Json) :
    Raises (sourceInputs library value) ↔
      ∃ before item after, value = .arr (before ++ item :: after) ∧
        (∀ earlier ∈ before, ∃ source, IsSource library earlier source) ∧
        IsFaultySource library item := by
  cases value with
  | arr items =>
      simp only [sourceInputs, escapes_mapM_iff, sourceInput_eq_ok_iff,
        raises_sourceInput_iff, Json.arr.injEq]
  | _ =>
      refine iff_of_false (not_raises_inspectionInputError _) ?_
      rintro ⟨_, _, _, ⟨⟩, _⟩

/-- The item count of a source is judged unless its deviation overflows. -/
theorem itemCountIsAbnormal_cases (source : SourceHealthInput Number) :
    (¬ HasLargeDeviation library source ∧
        ∃ abnormal,
          itemCountIsAbnormal library.floats.toFloatArithmetic source =
            .ok abnormal) ∨
      (HasLargeDeviation library source ∧
        itemCountIsAbnormal library.floats.toFloatArithmetic source =
          .error (.library .overflowError)) := by
  by_cases large : HasLargeDeviation library source
  · refine Or.inr ⟨large, ?_⟩
    rcases large with ⟨baseline, isBaseline, nonzero, overflows⟩
    rw [itemCountIsAbnormal, isBaseline]
    dsimp only
    rw [if_neg nonzero, FloatArithmetic.trueDivide,
      if_neg (by exact_mod_cast nonzero), FloatArithmetic.rounded]
    push_cast
    rw [overflows]
    rfl
  · refine Or.inl ⟨large, exists_itemCountIsAbnormal _ source ?_⟩
    intro baseline isBaseline nonzero
    rw [← Option.ne_none_iff_exists']
    intro overflows
    exact large ⟨baseline, isBaseline, nonzero, overflows⟩

/-- A source is reported on unless the deviation of its items overflows. -/
theorem inspectSource_cases
    (source : SourceHealthInput Number) (windowEnd : BeijingTime) :
    (¬ HasLargeDeviation library source ∧
        ∃ report,
          inspectSource library.floats.toFloatArithmetic library.beijing
            source windowEnd = .ok report) ∨
      (HasLargeDeviation library source ∧
        Raises
          (inspectSource library.floats.toFloatArithmetic library.beijing
            source windowEnd)) := by
  rcases exists_failureRate library.floats.toFloatArithmetic source with
    ⟨rate, isRate⟩
  rw [inspectSource, isRate, ok_bind]
  rcases itemCountIsAbnormal_cases source with
    ⟨small, abnormal, isAbnormal⟩ | ⟨large, overflows⟩
  · rw [isAbnormal, ok_bind]
    exact Or.inl ⟨small, _, rfl⟩
  · rw [overflows, error_bind]
    exact Or.inr ⟨large, (escapes_error_iff _).mpr (by decide)⟩

theorem raises_inspectSource_iff
    (source : SourceHealthInput Number) (windowEnd : BeijingTime) :
    Raises
        (inspectSource library.floats.toFloatArithmetic library.beijing
          source windowEnd) ↔
      HasLargeDeviation library source := by
  rcases inspectSource_cases source windowEnd with
    ⟨small, report, inspected⟩ | ⟨large, raises⟩
  · rw [inspected]
    exact iff_of_false (not_escapes_ok report) small
  · exact iff_of_true raises large

/-- The window of a report begins a day before its end. -/
theorem windowStart_eq_none_iff (windowEnd : NaiveDateTime) :
    NaiveDateTime.ofMicroseconds
        ((windowEnd.microseconds : ℤ) - dayMicroseconds) = none ↔
      windowEnd.microseconds < dayMicroseconds := by
  have bound := windowEnd.bound
  rw [NaiveDateTime.ofMicroseconds_eq_none_iff]
  omega

/-- What is raised while an accepted input is reported on. -/
theorem raises_buildDailyReport_iff (input : HealthReportInput Number) :
    Raises
        (buildDailyReport library.floats.toFloatArithmetic library.beijing
          input none) ↔
      (∃ source ∈ input.sources, HasLargeDeviation library source) ∨
        input.windowEnd.wall.microseconds < dayMicroseconds := by
  have either : ∀ source,
      (∃ report,
          inspectSource library.floats.toFloatArithmetic library.beijing
            source input.windowEnd = .ok report) ∨
        Raises
          (inspectSource library.floats.toFloatArithmetic library.beijing
            source input.windowEnd) :=
    fun source =>
      (inspectSource_cases source input.windowEnd).imp And.right And.right
  have generated :
      beijingTimestamp library.beijing
          ((none : Option Timestamp).getD input.windowEnd.timestamp) "now" =
        .ok input.windowEnd := rfl
  rw [buildDailyReport, generated, ok_bind]
  simp only [escapes_bind_iff, not_escapes_ok, and_false, exists_false,
    or_false, raises_datetimeAt_iff, windowStart_eq_none_iff,
    escapes_mapM_iff_of_either either,
    raises_inspectSource_iff]
  constructor
  · rintro (deviates | ⟨_, _, early⟩)
    · exact Or.inl deviates
    · exact Or.inr early
  · rintro (deviates | early)
    · exact Or.inl deviates
    · rcases mapM_isOk_or_escapes either input.sources with
        ⟨reports, reported⟩ | ⟨source, member, raises⟩
      · exact Or.inr ⟨reports, reported, early⟩
      · exact Or.inl
          ⟨source, member, (raises_inspectSource_iff _ _).mp raises⟩

/-- What is raised while a document is checked. -/
theorem raises_parseHealthReportInput_iff (document : Json) :
    Raises (parseHealthReportInput library document) ↔
      ∃ root, document = .obj root ∧
        HasKeys root ["window_end", "sources"] ∧
        (IsLostTime library (getMember "window_end" root) ∨
          ∃ time, IsTime library (getMember "window_end" root) time ∧
            ∃ before item after,
              getMember "sources" root = .arr (before ++ item :: after) ∧
                (∀ earlier ∈ before, ∃ source,
                  IsSource library earlier source) ∧
                IsFaultySource library item) := by
  have last : ∀ windowEnd sources,
      ¬ Raises
        (if (sources.map SourceHealthInput.sourceId).length ≠
            (sources.map SourceHealthInput.sourceId).dedup.length then
          .error (inspectionInputError "sources must not repeat source_id")
        else
          (.ok ⟨windowEnd, sources⟩ :
            Except PyError (HealthReportInput Number))) := by
    intro windowEnd sources
    split_ifs
    · exact not_raises_inspectionInputError _
    · exact not_escapes_ok _
  simp only [parseHealthReportInput, escapes_bind_iff, mapping_eq_ok_iff,
    onlyKeys_eq_ok_iff, timestamp_eq_ok_iff, not_raises_mapping,
    not_raises_onlyKeys, raises_timestamp_iff, raises_sourceInputs_iff, last,
    and_false, exists_false, false_or, or_false, exists_const]

/-- What is raised while a document is read. -/
theorem raises_readDocument_iff (content : ByteArray) :
    Raises (readDocument library (some content)) ↔
      String.fromUTF8? content = none ∨
        ∃ text error, readText (some content) = .ok text ∧
          library.loads text = .error error ∧ error ≠ .notJson := by
  rw [readDocument]
  cases decoded : String.fromUTF8? content with
  | none =>
      have unread : readText (some content) =
          .error (.library (.other "UnicodeDecodeError")) := by
        rw [readText, decoded]
      rw [unread]
      exact iff_of_true ((escapes_error_iff _).mpr (by decide)) (Or.inl rfl)
  | some raw =>
      have read : ∃ text, readText (some content) = .ok text := by
        rw [readText, decoded]
        exact ⟨_, rfl⟩
      rcases read with ⟨text, isText⟩
      rw [isText, ok_bind]
      simp only [reduceCtorEq, false_or, Except.ok.injEq]
      cases isRead : library.loads text with
      | ok document =>
          refine iff_of_false (not_escapes_ok document) ?_
          rintro ⟨_, error, rfl, raised, _⟩
          rw [isRead] at raised
          cases raised
      | error error =>
          cases error with
          | notJson =>
              refine iff_of_false (not_raises_inspectionInputError _) ?_
              rintro ⟨_, error, rfl, raised, unhandled⟩
              rw [isRead] at raised
              cases raised
              exact unhandled rfl
          | digitLimit =>
              exact iff_of_true ((escapes_error_iff _).mpr (by decide))
                ⟨text, .digitLimit, rfl, isRead, nofun⟩
          | recursionLimit =>
              exact iff_of_true ((escapes_error_iff _).mpr (by decide))
                ⟨text, .recursionLimit, rfl, isRead, nofun⟩

theorem readDocument_eq_ok_iff
    (file : Option ByteArray) (document : Json) :
    readDocument library file = .ok document ↔
      ∃ text, readText file = .ok text ∧
        library.loads text = .ok document := by
  rw [readDocument]
  cases readText file with
  | error error =>
      rw [error_bind]
      dsimp only
      split_ifs <;> exact iff_of_false nofun nofun
  | ok text =>
      rw [ok_bind]
      simp only [Except.ok.injEq, exists_eq_left']
      cases library.loads text with
      | ok found => simp [Except.mapError]
      | error error =>
          refine iff_of_false ?_ nofun
          dsimp only [Except.mapError]
          split_ifs <;> nofun

/-- Exactly the faulty files raise another exception. -/
theorem raises_inspect_iff (content : ByteArray) :
    Raises (inspect library (some content)) ↔
      IsFaultyFile library content := by
  simp only [inspect, loadHealthReportInput, escapes_bind_iff,
    bind_eq_ok_iff, raises_readDocument_iff, readDocument_eq_ok_iff,
    raises_parseHealthReportInput_iff, parseHealthReportInput_eq_ok_iff,
    raises_buildDailyReport_iff, not_escapes_ok, and_false, exists_false,
    or_false]
  constructor
  · rintro (((undecodable | ⟨text, error, decoded, raised, unhandled⟩) |
      ⟨_, ⟨text, decoded, read⟩, root, rfl, keys, fault⟩) |
      ⟨input, ⟨_, ⟨text, decoded, read⟩, root, rfl, described⟩, fault⟩)
    · exact .encoding undecodable
    · exact .limits decoded raised unhandled
    · refine .document decoded read ?_
      rcases fault with lost | ⟨time, isTime, before, item, after, items,
        accepted, faulty⟩
      · exact .windowEnd keys lost
      · exact .source keys time isTime items accepted faulty
    · refine .document decoded read ?_
      rcases fault with ⟨source, member, large⟩ | early
      · exact .deviation described member large
      · exact .windowStart described early
  · intro faulty
    cases faulty with
    | encoding undecodable => exact Or.inl (Or.inl (Or.inl undecodable))
    | limits decoded raised unhandled =>
        exact Or.inl
          (Or.inl (Or.inr ⟨_, _, decoded, raised, unhandled⟩))
    | document decoded read fault =>
        cases fault with
        | windowEnd keys lost =>
            exact Or.inl (Or.inr
              ⟨_, ⟨_, decoded, read⟩, _, rfl, keys, Or.inl lost⟩)
        | source keys time isTime items accepted faulty =>
            exact Or.inl (Or.inr
              ⟨_, ⟨_, decoded, read⟩, _, rfl, keys,
                Or.inr ⟨time, isTime, _, _, _, items, accepted, faulty⟩⟩)
        | deviation described member large =>
            exact Or.inr
              ⟨_, ⟨_, ⟨_, decoded, read⟩, _, rfl, described⟩,
                Or.inl ⟨_, member, large⟩⟩
        | windowStart described early =>
            exact Or.inr
              ⟨_, ⟨_, ⟨_, decoded, read⟩, _, rfl, described⟩, Or.inr early⟩

end Raising

/--
A file is rejected by an `InspectionInputError` or reported, unless its first
fault is one which is not rejected.
-/
theorem failsCleanly_inspect_iff
    {Number : Type} (library : Library Number) (content : ByteArray) :
    FailsCleanly IsInspectionInputError (inspect library (some content)) ↔
      ¬ IsFaultyFile library content :=
  failsCleanly_iff.trans (not_congr (raises_inspect_iff content))

/-- A `UnicodeDecodeError` is raised for a byte which is no UTF-8. -/
theorem not_failsCleanly_undecodable :
    ¬ FailsCleanly IsInspectionInputError
      (inspect literalLibrary (some (.mk #[0xff]))) := by
  intro clean
  have undecodable : String.fromUTF8? (.mk #[0xff]) = none := by decide
  exact failsCleanly_iff.mp clean
    ((raises_inspect_iff _).mpr (.encoding undecodable))

end MultisiteCrawler.Inspection
