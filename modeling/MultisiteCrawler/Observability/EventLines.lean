import MultisiteCrawler.Foundation.AwareTime
import MultisiteCrawler.Observability.Redaction
import MultisiteCrawler.Observability.RunEvents

/-!
# Log lines

`JsonEventFormatter` writes one line of JSON for each log record: the fixed
fields of a run event and its redacted extra data, or that something else was
suppressed.
-/

namespace MultisiteCrawler.Observability

open Foundation.AwareTime
open Foundation.JsonOrder
open Foundation.JsonText
open Foundation.PythonErrors
open Foundation.PythonText
open Foundation.PythonUrls

/-! ## Log records -/

/-- A run event with its extra data and what its exception carries. -/
structure LoggedEvent (Object : Type) extends RunEvent where
  extra : List (String × PyValue Object)
  exceptionArguments : List (PyValue Object)
  exceptionTraceback : List String

/-- A log record.  Without a `RunEvent` there is no run event. -/
structure LogRecord (Object : Type) where
  created : ℚ
  levelname : String
  message : String
  arguments : List (PyValue Object)
  runEvent : Option (LoggedEvent Object)

/-- `RunOutcome.value`. -/
def RunOutcome.value : RunOutcome → String
  | .succeeded => "succeeded"
  | .failed => "failed"
  | .skipped => "skipped"

/-- What the formatter asks of the standard library. -/
structure FormatRules extends UrlRules where
  /-- `datetime.fromtimestamp(created, BEIJING)`. -/
  fromtimestamp : ℚ → Except PyError DateTime
  /-- The time zone database. -/
  zones : ZoneRules
  /-- `float.__repr__`. -/
  floatLiteral : ℚ → FloatLiteral

section Format

variable (rules : FormatRules) {Object : Type}

/-- The compact separators. -/
def compactStyle : DumpStyle :=
  { compact := true }

/-- The fields of a run event which are always shown, and those it has. -/
def fixedFields (timestamp levelname : String) (event : RunEvent) :
    List (String × Json) :=
  [("timestamp", .str timestamp),
    ("level", .str levelname),
    ("event", .str event.name),
    ("source_id", .str event.context.sourceId),
    ("crawl_run_id", .str (uuidText event.context.crawlRunId)),
    ("task_id", .str event.context.taskId),
    ("outcome", .str event.outcome.value)] ++
    (event.durationSeconds.map fun duration =>
      ("duration_seconds", Json.float (rules.floatLiteral duration))).toList ++
    (event.itemCount.map fun count =>
      ("item_count", Json.int count)).toList ++
    (event.exception.map fun exception =>
      ("exception_type", Json.str exception.kind.name)).toList

/-- The line of a record without a run event. -/
def suppressedLine (timestamp levelname : String) : String :=
  dumps compactStyle
    (.obj
      [("timestamp", .str timestamp),
        ("level", .str levelname),
        ("event", .str "unstructured_log_suppressed")])

/-- The line of the fields of a run event. -/
def fieldsLine (fields : List (String × Json)) : String :=
  dumps compactStyle (sortKeys (.obj fields))

/-- The line of a run event, with its redacted extra data if there is any. -/
def eventLine (timestamp levelname : String) (event : LoggedEvent Object) :
    Except PyError String :=
  let fields := fixedFields rules timestamp levelname event.toRunEvent
  if event.extra.isEmpty then .ok (fieldsLine fields)
  else do
    let details ← redactValue rules.toUrlRules none (.mapping event.extra)
    .ok (fieldsLine (fields ++ [("details", details)]))

/-- `JsonEventFormatter.format`. -/
def formatRecord (record : LogRecord Object) : Except PyError String := do
  let created ← rules.fromtimestamp record.created
  match record.runEvent with
  | none =>
      .ok (suppressedLine (created.isoformat rules.zones) record.levelname)
  | some event =>
      eventLine rules (created.isoformat rules.zones) record.levelname event

/-! ## Events which differ in secrets -/

/-- Events which agree in all that is not secret. -/
structure AlikeEvents (event other : LoggedEvent Object) : Prop where
  name : event.name = other.name
  context : event.context = other.context
  outcome : event.outcome = other.outcome
  durationSeconds : event.durationSeconds = other.durationSeconds
  itemCount : event.itemCount = other.itemCount
  exceptionType :
    (event.exception.map fun exception => exception.kind.name) =
      other.exception.map fun exception => exception.kind.name
  extra :
    Alike rules.toUrlRules (.mapping event.extra) (.mapping other.extra)

variable {rules}

/-- Equal values make the same line. -/
theorem fieldsLine_append
    (fields : List (String × Json)) (key : String) {value other : Json}
    (same : Same value other) :
    fieldsLine (fields ++ [(key, value)]) =
      fieldsLine (fields ++ [(key, other)]) := by
  unfold fieldsLine
  rw [sortKeys, sortKeys, sortKeysMembers_eq_map, sortKeysMembers_eq_map,
    List.map_append, List.map_append, List.map_singleton, List.map_singleton,
    same.sortKeys_eq]

/-- Alike mappings are both empty, or neither is. -/
theorem Alike.isEmpty_eq
    {extra otherExtra : List (String × PyValue Object)}
    (alike : Alike rules.toUrlRules (.mapping extra) (.mapping otherExtra)) :
    extra.isEmpty = otherExtra.isEmpty := by
  cases alike with
  | refl => rfl
  | mapping distinct keys alike =>
      have length := keys.length_eq
      rw [List.length_map, List.length_map] at length
      rw [Bool.eq_iff_iff, List.isEmpty_iff_length_eq_zero,
        List.isEmpty_iff_length_eq_zero, length]

/-- Alike events have the same fixed fields. -/
theorem AlikeEvents.fixedFields_eq
    {event other : LoggedEvent Object}
    (alike : AlikeEvents rules event other) (timestamp levelname : String) :
    fixedFields rules timestamp levelname event.toRunEvent =
      fixedFields rules timestamp levelname other.toRunEvent := by
  have shown (exception : Option PyError) :
      (exception.map fun raised =>
          ("exception_type", Json.str raised.kind.name)) =
        (exception.map fun raised => raised.kind.name).map fun name =>
          ("exception_type", Json.str name) := by
    rw [Option.map_map]
    rfl
  unfold fixedFields
  rw [shown, shown, alike.exceptionType, alike.name, alike.context,
    alike.outcome, alike.durationSeconds, alike.itemCount]

/-- Alike events make the same line. -/
theorem AlikeEvents.eventLine_eq
    {event other : LoggedEvent Object}
    (alike : AlikeEvents rules event other) (timestamp levelname : String) :
    eventLine rules timestamp levelname event =
      eventLine rules timestamp levelname other := by
  unfold eventLine
  rw [alike.fixedFields_eq, alike.extra.isEmpty_eq]
  split_ifs with nothing
  · rfl
  · apply (alike.extra.sameOutcome none).bind_eq
    intro details otherDetails same
    rw [fieldsLine_append _ _ same]

variable (rules) in
/-- The same time and level, and alike events or none. -/
structure AlikeRecords (record other : LogRecord Object) : Prop where
  created : record.created = other.created
  levelname : record.levelname = other.levelname
  runEvent :
    Option.Rel (AlikeEvents rules) record.runEvent other.runEvent

/-- Records which differ in secrets make the same line. -/
theorem AlikeRecords.formatRecord_eq
    {record other : LogRecord Object}
    (alike : AlikeRecords rules record other) :
    formatRecord rules record = formatRecord rules other := by
  have ⟨created, levelname, events⟩ := alike
  unfold formatRecord
  rw [created, levelname]
  refine congrArg (Except.bind _) (funext fun time => ?_)
  generalize record.runEvent = event at events ⊢
  generalize other.runEvent = otherEvent at events ⊢
  cases events with
  | none => rfl
  | @some event otherEvent alikeEvents =>
      exact alikeEvents.eventLine_eq _ _

end Format

end MultisiteCrawler.Observability
