import MultisiteCrawler.Foundation.PythonErrors
import MultisiteCrawler.Foundation.PythonText

/-!
# Run events

The context and the typed event which a run logs.  Both check themselves when
they are built: the source id against `[a-z0-9_-]+`, the task id, the event
name, and the signs of the duration and the item count.
-/

namespace MultisiteCrawler.Observability

open Foundation.PythonErrors
open Foundation.PythonText

/-- The identifier of a run, as `uuid4` returns it. -/
abbrev RunIdentifier := BitVec 128

/-- A character of `[a-z]`. -/
def isLower (character : Char) : Bool :=
  'a' ≤ character && character ≤ 'z'

/-- A character of `[A-Z]`. -/
def isUpper (character : Char) : Bool :=
  'A' ≤ character && character ≤ 'Z'

/-- A character of `[0-9]`. -/
def isDigit (character : Char) : Bool :=
  '0' ≤ character && character ≤ '9'

/-- `_SOURCE_ID`, `[a-z0-9_-]+`. -/
def matchesSourceId (text : String) : Bool :=
  fullmatch
    (fun character =>
      isLower character || isDigit character ||
        ['_', '-'].contains character)
    text

/-- `_TASK_ID`, `[A-Za-z0-9_.:-]+`. -/
def matchesTaskId (text : String) : Bool :=
  fullmatch
    (fun character =>
      isUpper character || isLower character || isDigit character ||
        ['_', '.', ':', '-'].contains character)
    text

/-- `_EVENT_NAME`, `[a-z_]+`. -/
def matchesEventName (text : String) : Bool :=
  fullmatch (fun character => isLower character || character == '_') text

/-- Terminal outcomes of a run. -/
inductive RunOutcome where
  | succeeded
  | failed
  | skipped
deriving DecidableEq, Repr

/-- What links the logs of one collection attempt. -/
structure RunContext where
  sourceId : String
  crawlRunId : RunIdentifier
  taskId : String
  sourceId_matches : matchesSourceId sourceId = true
  taskId_matches : matchesTaskId taskId = true
deriving DecidableEq

/-- Build a `RunContext`. -/
def runContext (sourceId : String) (crawlRunId : RunIdentifier)
    (taskId : String) : Except PyError RunContext :=
  if sourceMatches : matchesSourceId sourceId = true then
    if taskMatches : matchesTaskId taskId = true then
      .ok ⟨sourceId, crawlRunId, taskId, sourceMatches, taskMatches⟩
    else .error (.value "task_id contains unsupported characters")
  else .error (.value "source_id must match [a-z0-9_-]+")

/-- A typed run event. -/
structure RunEvent where
  name : String
  context : RunContext
  outcome : RunOutcome
  durationSeconds : Option ℚ
  itemCount : Option ℤ
  exception : Option PyError
  name_matches : matchesEventName name = true
  durationSeconds_nonneg : ∀ duration ∈ durationSeconds, 0 ≤ duration
  itemCount_nonneg : ∀ count ∈ itemCount, 0 ≤ count
deriving DecidableEq

/-- Build a `RunEvent`. -/
def runEvent (name : String) (context : RunContext) (outcome : RunOutcome)
    (durationSeconds : Option ℚ) (itemCount : Option ℤ)
    (exception : Option PyError) : Except PyError RunEvent :=
  if nameMatches : matchesEventName name = true then
    if durationNonneg : ∀ duration ∈ durationSeconds, 0 ≤ duration then
      if countNonneg : ∀ count ∈ itemCount, 0 ≤ count then
        .ok ⟨name, context, outcome, durationSeconds, itemCount, exception,
          nameMatches, durationNonneg, countNonneg⟩
      else .error (.value "item_count must not be negative")
    else .error (.value "duration_seconds must not be negative")
  else
    .error
      (.value "event name must contain lowercase letters and underscores")

/-- The levels used. -/
inductive LogLevel where
  | info
  | error
deriving DecidableEq, Repr

/-- The level at which `emit_run_event` logs an event. -/
def eventLevel (event : RunEvent) : LogLevel :=
  if event.outcome = .failed then .error else .info

theorem runContext_of_matches
    {sourceId taskId : String} (crawlRunId : RunIdentifier)
    (sourceMatches : matchesSourceId sourceId = true)
    (taskMatches : matchesTaskId taskId = true) :
    runContext sourceId crawlRunId taskId =
      .ok ⟨sourceId, crawlRunId, taskId, sourceMatches, taskMatches⟩ := by
  rw [runContext, dif_pos sourceMatches, dif_pos taskMatches]

theorem runContext_of_not_matches
    {sourceId : String} (crawlRunId : RunIdentifier) (taskId : String)
    (refused : ¬ matchesSourceId sourceId = true) :
    runContext sourceId crawlRunId taskId =
      .error (.value "source_id must match [a-z0-9_-]+") := by
  rw [runContext, dif_neg refused]

/-- An event with an accepted name and no negative number can be built. -/
theorem exists_runEvent
    {name : String} {durationSeconds : Option ℚ} {itemCount : Option ℤ}
    (context : RunContext) (outcome : RunOutcome)
    (exception : Option PyError)
    (nameMatches : matchesEventName name = true)
    (durationNonneg : ∀ duration ∈ durationSeconds, 0 ≤ duration)
    (countNonneg : ∀ count ∈ itemCount, 0 ≤ count) :
    ∃ event : RunEvent,
      runEvent name context outcome durationSeconds itemCount exception =
          .ok event ∧
        event.context = context ∧ event.outcome = outcome ∧
          event.exception = exception := by
  rw [runEvent, dif_pos nameMatches, dif_pos durationNonneg,
    dif_pos countNonneg]
  exact ⟨_, rfl, rfl, rfl, rfl⟩

end MultisiteCrawler.Observability
