import MultisiteCrawler.Foundation.Exposition
import MultisiteCrawler.Foundation.Interaction
import MultisiteCrawler.Foundation.JsonKeys
import MultisiteCrawler.Foundation.JsonRoundTrip
import MultisiteCrawler.Observability.EventLines

/-!
# The metrics store

`RedisMetricsStore` keeps the counters and gauges of a source in one hash of
texts, and the sources in a set.  Every call which is accepted makes a list of
updates to the hash of its source; a call which is refused raises before its
first command.  Integers are unbounded, as in the store of the tests.
-/

namespace MultisiteCrawler.Metrics

open Foundation.Exposition
open Foundation.Interaction
open Foundation.Interaction.Program (Handler)
open Foundation.JsonText
open Foundation.PythonErrors
open Observability

/-! ## Commands -/

/-- `MetricsRedis`. -/
inductive MetricsCommand where
  | hincrby (name key : String) (amount : ℤ)
  | hset (name key value : String)
  | hgetall (name : String)
  | sadd (name value : String)
  | smembers (name : String)

/-- What the client replies, or raises. -/
abbrev MetricsCommand.Reply : MetricsCommand → Type
  | .hincrby _ _ _ => Except PyError ℤ
  | .hset _ _ _ => Except PyError ℤ
  | .hgetall _ => Except PyError (List (String × String))
  | .sadd _ _ => Except PyError ℤ
  | .smembers _ => Except PyError (List String)

/-- Programs over the client. -/
abbrev MetricsProgram := Program MetricsCommand MetricsCommand.Reply PyError

namespace MetricsProgram

/-- `hincrby`. -/
def hincrby (name key : String) (amount : ℤ) : MetricsProgram ℤ :=
  .perform (.hincrby name key amount) Program.ofOutcome

/-- `hset`. -/
def hset (name key value : String) : MetricsProgram ℤ :=
  .perform (.hset name key value) Program.ofOutcome

/-- `hgetall`. -/
def hgetall (name : String) : MetricsProgram (List (String × String)) :=
  .perform (.hgetall name) Program.ofOutcome

/-- `sadd`. -/
def sadd (name value : String) : MetricsProgram ℤ :=
  .perform (.sadd name value) Program.ofOutcome

/-- `smembers`. -/
def smembers (name : String) : MetricsProgram (List String) :=
  .perform (.smembers name) Program.ofOutcome

end MetricsProgram

/-! ## Calls -/

/-- `str` of an integer. -/
def integerText (value : ℤ) : String :=
  .ofList (intText value)

/-- What is used of floats: their sign and `str`. -/
structure FloatRules (Number : Type) where
  /-- `number < 0`. -/
  isNegative : Number → Bool
  /-- `str(number)`. -/
  text : Number → String
  isValue_text : ∀ number, isValue (text number).toList = true

/-- The prefix of all keys. -/
def metricsPrefix : String := "crawler:metrics"

/-- The key of the set of sources. -/
def sourcesKey : String :=
  metricsPrefix ++ ":sources"

/-- `_source_key`. -/
def sourceKey (sourceId : String) : String :=
  metricsPrefix ++ ":source:" ++ sourceId

/-- `_validate_source`. -/
def validateSource (sourceId : String) : MetricsProgram Unit :=
  if matchesSourceId sourceId then pure ()
  else .fail (.value "source_id must match [a-z0-9_-]+")

/-- `_register`. -/
def register (sourceId : String) : MetricsProgram Unit := do
  let _ ← MetricsProgram.sadd sourcesKey sourceId
  pure ()

section Calls

variable {Number : Type} (rules : FloatRules Number)

/--
`record_run`; the last argument is the timestamp of `current`.  The source
asks for it, and for the text of the number of items, after its first
commands; for the calls here both exist.
-/
def recordRun (sourceId : String) (runId : RunIdentifier)
    (outcome : RunOutcome) (durationSeconds : Number) (itemCount : ℤ)
    (timestamp : Number) : MetricsProgram Unit := do
  validateSource sourceId
  if rules.isNegative durationSeconds || decide (itemCount < 0) then
    .fail (.value "run metrics must not be negative")
  else do
    let key := sourceKey sourceId
    register sourceId
    let _ ← MetricsProgram.hincrby key ("run_total:" ++ outcome.value) 1
    if outcome = .failed then do
      let _ ← MetricsProgram.hincrby key "run_failed_total" 1
      pure ()
    let _ ←
      MetricsProgram.hset key "run_duration_seconds"
        (rules.text durationSeconds)
    let _ ← MetricsProgram.hset key "items_found" (integerText itemCount)
    let _ ←
      MetricsProgram.hset key "last_run_id"
        (Foundation.PythonText.uuidText runId)
    if outcome = .succeeded then do
      let _ ←
        MetricsProgram.hset key "last_success_timestamp"
          (rules.text timestamp)
      pure ()

/-- `record_http_status`. -/
def recordHttpStatus (sourceId : String) (statusCode : ℤ) :
    MetricsProgram Unit := do
  validateSource sourceId
  if statusCode < 100 ∨ 599 < statusCode then
    .fail (.value "status_code must be an HTTP status")
  else do
    register sourceId
    let _ ←
      MetricsProgram.hincrby (sourceKey sourceId)
        ("http_status:" ++ integerText statusCode) 1
    pure ()

/-- `record_items`. -/
def recordItems (sourceId : String) (created updated : ℤ) :
    MetricsProgram Unit := do
  validateSource sourceId
  if created < 0 ∨ updated < 0 then
    .fail (.value "item metrics must not be negative")
  else do
    let key := sourceKey sourceId
    register sourceId
    let _ ← MetricsProgram.hincrby key "items_created" created
    let _ ← MetricsProgram.hincrby key "items_updated" updated
    pure ()

/-- `_increment`. -/
def increment (sourceId field : String) : MetricsProgram Unit := do
  validateSource sourceId
  register sourceId
  let _ ← MetricsProgram.hincrby (sourceKey sourceId) field 1
  pure ()

/-- `record_parse_error`. -/
def recordParseError (sourceId : String) : MetricsProgram Unit :=
  increment sourceId "parse_error_total"

/-- `record_lock_skip`. -/
def recordLockSkip (sourceId : String) : MetricsProgram Unit :=
  increment sourceId "lock_skip_total"

/-- `record_circuit_breaker`. -/
def recordCircuitBreaker (sourceId : String) (isOpen : Bool) :
    MetricsProgram Unit := do
  validateSource sourceId
  register sourceId
  let _ ←
    MetricsProgram.hset (sourceKey sourceId) "circuit_breaker_state"
      (if isOpen then "1" else "0")
  pure ()

end Calls

/--
A call which records something.  The number of items of a run has a text, so
at most 4300 digits, and the time of a run has a timestamp.
-/
inductive MetricsCall (Number : Type) where
  | run (sourceId : String) (runId : RunIdentifier) (outcome : RunOutcome)
      (durationSeconds : Number) (itemCount : ℤ) (timestamp : Number)
  | httpStatus (sourceId : String) (statusCode : ℤ)
  | items (sourceId : String) (created updated : ℤ)
  | parseError (sourceId : String)
  | lockSkip (sourceId : String)
  | circuitBreaker (sourceId : String) (isOpen : Bool)

namespace MetricsCall

variable {Number : Type} (rules : FloatRules Number)

/-- The source a call names. -/
def sourceId : MetricsCall Number → String
  | .run sourceId _ _ _ _ _ => sourceId
  | .httpStatus sourceId _ => sourceId
  | .items sourceId _ _ => sourceId
  | .parseError sourceId => sourceId
  | .lockSkip sourceId => sourceId
  | .circuitBreaker sourceId _ => sourceId

/-- The program of a call. -/
def program : MetricsCall Number → MetricsProgram Unit
  | .run sourceId runId outcome durationSeconds itemCount timestamp =>
      recordRun rules sourceId runId outcome durationSeconds itemCount
        timestamp
  | .httpStatus sourceId statusCode => recordHttpStatus sourceId statusCode
  | .items sourceId created updated => recordItems sourceId created updated
  | .parseError sourceId => recordParseError sourceId
  | .lockSkip sourceId => recordLockSkip sourceId
  | .circuitBreaker sourceId isOpen => recordCircuitBreaker sourceId isOpen

/-- The numbers of a call are in their ranges. -/
def inRange : MetricsCall Number → Bool
  | .run _ _ _ durationSeconds itemCount _ =>
      !rules.isNegative durationSeconds && decide (0 ≤ itemCount)
  | .httpStatus _ statusCode =>
      decide (100 ≤ statusCode ∧ statusCode ≤ 599)
  | .items _ created updated => decide (0 ≤ created ∧ 0 ≤ updated)
  | _ => true

/-- The arguments of a call are accepted. -/
def accepted (call : MetricsCall Number) : Bool :=
  matchesSourceId call.sourceId && call.inRange rules

end MetricsCall

/-! ## Updates of a hash -/

/-- An update of one field of a hash. -/
inductive FieldUpdate where
  | add (field : String) (amount : ℤ)
  | put (field text : String)
deriving DecidableEq, Repr

/-- The field which is updated. -/
def FieldUpdate.field : FieldUpdate → String
  | .add field _ => field
  | .put field _ => field

/-- `int(text)` of a stored counter. -/
def readCounter (text : String) : Option ℤ :=
  match numberOf text.toList with
  | some (.int value) => some value
  | _ => none

theorem readCounter_integerText (value : ℤ) :
    readCounter (integerText value) = some value := by
  rw [readCounter, integerText, String.toList_ofList, numberOf_intText]

/-- The text of a field, `0` if there is none. -/
def fieldText (field : String) (hash : List (String × String)) : String :=
  (lookup field hash).getD "0"

/-- What a call does to the hash of its source. -/
def MetricsCall.updates {Number : Type} (rules : FloatRules Number) :
    MetricsCall Number → List FieldUpdate
  | .run _ runId outcome durationSeconds itemCount timestamp =>
      [.add ("run_total:" ++ outcome.value) 1] ++
        (if outcome = .failed then [.add "run_failed_total" 1] else []) ++
        [.put "run_duration_seconds" (rules.text durationSeconds),
          .put "items_found" (integerText itemCount),
          .put "last_run_id" (Foundation.PythonText.uuidText runId)] ++
        (if outcome = .succeeded then
          [.put "last_success_timestamp" (rules.text timestamp)]
        else [])
  | .httpStatus _ statusCode =>
      [.add ("http_status:" ++ integerText statusCode) 1]
  | .items _ created updated =>
      [.add "items_created" created, .add "items_updated" updated]
  | .parseError _ => [.add "parse_error_total" 1]
  | .lockSkip _ => [.add "lock_skip_total" 1]
  | .circuitBreaker _ isOpen =>
      [.put "circuit_breaker_state" (if isOpen then "1" else "0")]

/-! ## The store -/

/-- The hashes and sets of a Redis server; what is missing is empty. -/
structure MetricsRedis where
  hashes : String → List (String × String)
  sets : String → List String

/-- The empty store. -/
def MetricsRedis.empty : MetricsRedis :=
  ⟨fun _ => [], fun _ => []⟩

/-- Add a member to a set. -/
def addMember (value : String) (members : List String) : List String :=
  if value ∈ members then members else members ++ [value]

/-- A store which raises only where a counter is not a number. -/
def memoryRedis : Handler MetricsCommand MetricsCommand.Reply MetricsRedis
  | .hincrby name key amount, store =>
      match readCounter (fieldText key (store.hashes name)) with
      | none => (.error (.library .valueError), store)
      | some current =>
          (.ok (current + amount),
            { store with
              hashes :=
                Function.update store.hashes name
                  (assign key (integerText (current + amount))
                    (store.hashes name)) })
  | .hset name key value, store =>
      (.ok 1,
        { store with
          hashes :=
            Function.update store.hashes name
              (assign key value (store.hashes name)) })
  | .hgetall name, store => (.ok (store.hashes name), store)
  | .sadd name value, store =>
      (.ok 1,
        { store with
          sets :=
            Function.update store.sets name
              (addMember value (store.sets name)) })
  | .smembers name, store => (.ok (store.sets name), store)

end MultisiteCrawler.Metrics
