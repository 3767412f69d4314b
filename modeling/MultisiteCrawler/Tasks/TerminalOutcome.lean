import MultisiteCrawler.Foundation.PythonFloats
import MultisiteCrawler.Locking.RedisLease
import MultisiteCrawler.Scheduler.Cycle

/-!
# Terminal outcomes of leased runs

One call of `run_with_source_lease` and all it reports.  The operation, the
metrics store and the lease store may raise whenever they are called, and the
thread of the heartbeat may fail to start.

The success of the operation is reported inside the `try` whose handler
reports failures.  So a metrics store which raises turns a success into a
second, failed outcome, and what it raises in the handler takes the place of
the exception of the operation.  `oneOutcome_iff_undisturbed` says that
nothing else can go wrong.
-/

namespace MultisiteCrawler.Tasks

open Foundation.AwareTime
open Foundation.Interaction
open Foundation.Interaction.Program (Handler)
open Foundation.PythonErrors
open Foundation.PythonFloats
open MultisiteCrawler.Locking
open Observability
open Scheduler (MonotonicClock)

/-! ## The call -/

/-- The arguments of `record_run`. -/
structure RunMetric where
  sourceId : String
  runId : RunIdentifier
  outcome : RunOutcome
  durationSeconds : ℚ
  itemCount : ℤ
  current : DateTime

/-- What a call asks of its surroundings. -/
inductive LeasedCommand (Value : Type) where
  | newRunId
  | newToken
  | monotonic
  | currentTime
  | acquire (lease : RedisLease)
  | logSkip (sourceId : String)
  | startHeartbeat (lease : RedisLease) (intervalSeconds : PyNumber)
  | operation
  | emitRunEvent (level : LogLevel) (event : RunEvent)
  | recordRun (metric : RunMetric)
  | stopHeartbeat
  | release (lease : RedisLease)

/-- What the surroundings reply, or raise. -/
abbrev LeasedCommand.Reply {Value : Type} : LeasedCommand Value → Type
  | .newRunId => RunIdentifier
  | .newToken => String
  | .monotonic => ℚ
  | .currentTime => DateTime
  | .acquire _ => Except PyError Bool
  | .logSkip _ => Unit
  | .startHeartbeat _ _ => Except PyError Unit
  | .operation => Except PyError Value
  | .emitRunEvent _ _ => Unit
  | .recordRun _ => Except PyError Unit
  | .stopHeartbeat => Unit
  | .release _ => Except PyError Bool

/-- Programs of a call. -/
abbrev LeasedProgram (Value : Type) :=
  Program (LeasedCommand Value) LeasedCommand.Reply PyError

namespace LeasedProgram

variable {Value : Type}

/-- `uuid4`. -/
def newRunId : LeasedProgram Value RunIdentifier :=
  .perform .newRunId .done

/-- `uuid4().hex`. -/
def newToken : LeasedProgram Value String :=
  .perform .newToken .done

/-- `monotonic`. -/
def monotonic : LeasedProgram Value ℚ :=
  .perform .monotonic .done

/-- `datetime.now(BEIJING)`. -/
def currentTime : LeasedProgram Value DateTime :=
  .perform .currentTime .done

/-- `lease.acquire`. -/
def acquire (lease : RedisLease) : LeasedProgram Value Bool :=
  .perform (.acquire lease) Program.ofOutcome

/-- `LOGGER.info("skipped_overlap source_id=%s", source_id)`. -/
def logSkip (sourceId : String) : LeasedProgram Value Unit :=
  .perform (.logSkip sourceId) .done

/-- `heartbeat.start`. -/
def startHeartbeat (lease : RedisLease) (intervalSeconds : PyNumber) :
    LeasedProgram Value Unit :=
  .perform (.startHeartbeat lease intervalSeconds) Program.ofOutcome

/-- `operation()`. -/
def operation : LeasedProgram Value Value :=
  .perform .operation Program.ofOutcome

/-- `emit_run_event`; logging handles what its handlers raise. -/
def emitRunEvent (event : RunEvent) : LeasedProgram Value Unit :=
  .perform (.emitRunEvent (eventLevel event) event) .done

/-- `metrics_store.record_run`. -/
def recordRun (metric : RunMetric) : LeasedProgram Value Unit :=
  .perform (.recordRun metric) Program.ofOutcome

/-- `heartbeat.stop`. -/
def stopHeartbeat : LeasedProgram Value Unit :=
  .perform .stopHeartbeat .done

/-- `lease.release`. -/
def release (lease : RedisLease) : LeasedProgram Value Bool :=
  .perform (.release lease) Program.ofOutcome

end LeasedProgram

/-- What a call returns: the value of the operation or a `LockOutcome`. -/
inductive LeasedResult (Value : Type) where
  | value (result : Value)
  | skippedOverlap
deriving DecidableEq, Repr

/-- The arguments of a call other than its surroundings. -/
structure LeasedCall where
  sourceId : String
  ttlSeconds : ℤ
  renewIntervalSeconds : Option PyNumber
  taskId : String
  hasMetricsStore : Bool

/-- The interval which is passed to `LeaseHeartbeat`. -/
def LeasedCall.heartbeatInterval (call : LeasedCall) :
    Except PyError PyNumber :=
  match call.renewIntervalSeconds with
  | some interval => .ok interval
  | none => do
      let third ← doubleArithmetic.trueDivide call.ttlSeconds 3
      .ok (if third.atMost (.finite 1) then .finite 1 else third)

/-- The constructor of `LeaseHeartbeat`, which keeps the interval. -/
def leaseHeartbeat (intervalSeconds : PyNumber) : Except PyError PyNumber :=
  if intervalSeconds.atMost (.finite 0) then
    .error (.value "interval_seconds must be positive")
  else .ok intervalSeconds

/-- The heartbeat of a call. -/
def LeasedCall.heartbeat (call : LeasedCall) : Except PyError PyNumber := do
  let interval ← call.heartbeatInterval
  leaseHeartbeat interval

section Programs

variable {Value : Type}

/-- Build a `RunEvent` and emit it. -/
def reportOutcome (name : String) (context : RunContext)
    (outcome : RunOutcome) (startedAt : ℚ) (exception : Option PyError) :
    LeasedProgram Value Unit := do
  let endedAt ← LeasedProgram.monotonic
  let event ←
    Program.ofOutcome
      (runEvent name context outcome (some (endedAt - startedAt)) (some 0)
        exception)
  LeasedProgram.emitRunEvent event

/-- `_record_terminal_metric`. -/
def recordTerminalMetric (hasMetricsStore : Bool) (context : RunContext)
    (outcome : RunOutcome) (startedAt : ℚ) : LeasedProgram Value Unit :=
  if hasMetricsStore then do
    let endedAt ← LeasedProgram.monotonic
    let current ← LeasedProgram.currentTime
    LeasedProgram.recordRun
      ⟨context.sourceId, context.crawlRunId, outcome, endedAt - startedAt, 0,
        current⟩
  else pure ()

/-- The body of the `try`. -/
def attempt (call : LeasedCall) (context : RunContext) (startedAt : ℚ) :
    LeasedProgram Value (LeasedResult Value) := do
  let result ← LeasedProgram.operation
  reportOutcome "run_finished" context .succeeded startedAt none
  recordTerminalMetric call.hasMetricsStore context .succeeded startedAt
  pure (.value result)

/-- The body of the `except`. -/
def reportFailure (call : LeasedCall) (context : RunContext)
    (startedAt : ℚ) (error : PyError) :
    LeasedProgram Value (LeasedResult Value) := do
  reportOutcome "run_failed" context .failed startedAt (some error)
  recordTerminalMetric call.hasMetricsStore context .failed startedAt
  Program.fail error

/-- The body of the `finally`. -/
def giveBack (lease : RedisLease) : LeasedProgram Value Unit := do
  LeasedProgram.stopHeartbeat
  let _ ← LeasedProgram.release lease
  pure ()

/-- `run_with_source_lease`. -/
def runWithSourceLease (call : LeasedCall) :
    LeasedProgram Value (LeasedResult Value) := do
  let crawlRunId ← LeasedProgram.newRunId
  let context ←
    Program.ofOutcome (runContext call.sourceId crawlRunId call.taskId)
  let startedAt ← LeasedProgram.monotonic
  let token ← LeasedProgram.newToken
  let lease ←
    Program.ofOutcome
      (RedisLease.create (sourceLockKey call.sourceId) call.ttlSeconds none
        token)
  let acquired ← LeasedProgram.acquire lease
  if acquired then do
    let interval ← Program.ofOutcome call.heartbeat
    LeasedProgram.startHeartbeat lease interval
    ((attempt call context startedAt).tryCatch
        (reportFailure call context startedAt)).tryFinally
      (giveBack lease)
  else do
    LeasedProgram.logSkip call.sourceId
    reportOutcome "run_skipped" context .skipped startedAt none
    recordTerminalMetric call.hasMetricsStore context .skipped startedAt
    pure .skippedOverlap

end Programs

/-! ## Its surroundings -/

/--
How everything which is called behaves.  The metrics store may behave
differently each time it is called.
-/
structure Surroundings (Value : Type) where
  crawlRunId : RunIdentifier
  token : String
  clock : MonotonicClock
  wallClock : ℕ → DateTime
  acquires : Except PyError Bool
  startsHeartbeat : Except PyError Unit
  operation : Except PyError Value
  recordRun : ℕ → Except PyError Unit
  releases : Except PyError Bool

/-- What a call has done so far. -/
structure LeasedState where
  readings : ℕ := 0
  acquired : Bool := false
  events : List RunEvent := []
  metrics : List RunMetric := []

section Runs

variable {Value : Type} (surroundings : Surroundings Value)

/-- The surroundings answer and note what was reported. -/
def leasedHandler :
    Handler (LeasedCommand Value) LeasedCommand.Reply LeasedState
  | .newRunId, state => (surroundings.crawlRunId, state)
  | .newToken, state => (surroundings.token, state)
  | .monotonic, state =>
      (surroundings.clock.reading state.readings,
        { state with readings := state.readings + 1 })
  | .currentTime, state => (surroundings.wallClock state.readings, state)
  | .acquire _, state =>
      (surroundings.acquires,
        { state with
          acquired :=
            match surroundings.acquires with
            | .ok acquired => acquired
            | .error _ => false })
  | .logSkip _, state => ((), state)
  | .startHeartbeat _ _, state => (surroundings.startsHeartbeat, state)
  | .operation, state => (surroundings.operation, state)
  | .emitRunEvent _ event, state =>
      ((), { state with events := state.events ++ [event] })
  | .recordRun metric, state =>
      (surroundings.recordRun state.metrics.length,
        { state with metrics := state.metrics ++ [metric] })
  | .stopHeartbeat, state => ((), state)
  | .release _, state => (surroundings.releases, state)

/-- A call from its beginning: how it ends and what it has done. -/
def leasedRun (call : LeasedCall) :
    Except PyError (LeasedResult Value) × LeasedState :=
  (runWithSourceLease call).run (leasedHandler surroundings) {}

/-! ## Steps -/

@[simp]
theorem run_newRunId (state : LeasedState) :
    LeasedProgram.newRunId.run (leasedHandler surroundings) state =
      (.ok surroundings.crawlRunId, state) := rfl

@[simp]
theorem run_newToken (state : LeasedState) :
    LeasedProgram.newToken.run (leasedHandler surroundings) state =
      (.ok surroundings.token, state) := rfl

@[simp]
theorem run_monotonic (state : LeasedState) :
    LeasedProgram.monotonic.run (leasedHandler surroundings) state =
      (.ok (surroundings.clock.reading state.readings),
        { state with readings := state.readings + 1 }) := rfl

@[simp]
theorem run_acquire (lease : RedisLease) (state : LeasedState) :
    (LeasedProgram.acquire lease).run (leasedHandler surroundings) state =
      (surroundings.acquires,
        { state with
          acquired :=
            match surroundings.acquires with
            | .ok acquired => acquired
            | .error _ => false }) :=
  Program.run_ofOutcome _ _ _

@[simp]
theorem run_operation (state : LeasedState) :
    LeasedProgram.operation.run (leasedHandler surroundings) state =
      (surroundings.operation, state) :=
  Program.run_ofOutcome _ _ _

@[simp]
theorem run_emitRunEvent (event : RunEvent) (state : LeasedState) :
    (LeasedProgram.emitRunEvent event).run (leasedHandler surroundings)
        state =
      (.ok (), { state with events := state.events ++ [event] }) := rfl

@[simp]
theorem run_giveBack (lease : RedisLease) (state : LeasedState) :
    (giveBack lease).run (leasedHandler surroundings) state =
      (surroundings.releases.map fun _ => (), state) := by
  have released :
      (LeasedProgram.release lease).run (leasedHandler surroundings) state =
        (surroundings.releases, state) :=
    Program.run_ofOutcome _ _ _
  have stopped :
      (giveBack lease).run (leasedHandler surroundings) state =
        (LeasedProgram.release lease >>= fun _ =>
          (pure () : LeasedProgram Value Unit)).run
            (leasedHandler surroundings) state := rfl
  rw [stopped, Program.run_bind, released]
  cases surroundings.releases <;> rfl

/-- Every report emits one event, as the clock does not go back. -/
theorem run_reportOutcome
    {name : String} (nameMatches : matchesEventName name = true)
    (context : RunContext) (outcome : RunOutcome)
    {startedAt : ℚ} (state : LeasedState)
    (started : startedAt ≤ surroundings.clock.reading state.readings)
    (exception : Option PyError) :
    ∃ event : RunEvent,
      event.context = context ∧ event.outcome = outcome ∧
        (reportOutcome name context outcome startedAt exception).run
            (leasedHandler surroundings) state =
          (.ok (),
            { state with
              readings := state.readings + 1
              events := state.events ++ [event] }) := by
  have durationNonneg :
      ∀ duration ∈
          some (surroundings.clock.reading state.readings - startedAt),
        0 ≤ duration := by
    rintro duration ⟨⟩
    exact sub_nonneg.mpr started
  have countNonneg : ∀ count ∈ some (0 : ℤ), 0 ≤ count := by
    rintro count ⟨⟩
    exact le_rfl
  rcases exists_runEvent context outcome exception nameMatches durationNonneg
      countNonneg with
    ⟨event, eventBuilt, sameContext, sameOutcome, _⟩
  refine ⟨event, sameContext, sameOutcome, ?_⟩
  simp [reportOutcome, Program.run_bind, eventBuilt]

/-- The metric which is built after this many readings of the clock. -/
def terminalMetric (context : RunContext) (outcome : RunOutcome)
    (startedAt : ℚ) (readings : ℕ) : RunMetric :=
  ⟨context.sourceId, context.crawlRunId, outcome,
    surroundings.clock.reading readings - startedAt, 0,
    surroundings.wallClock (readings + 1)⟩

/-- What is recorded, and how the metrics store replies. -/
theorem run_recordTerminalMetric
    (hasMetricsStore : Bool) (context : RunContext) (outcome : RunOutcome)
    (startedAt : ℚ) (state : LeasedState) :
    (recordTerminalMetric hasMetricsStore context outcome startedAt).run
        (leasedHandler surroundings) state =
      if hasMetricsStore then
        (surroundings.recordRun state.metrics.length,
          { state with
            readings := state.readings + 1
            metrics :=
              state.metrics ++
                [terminalMetric surroundings context outcome startedAt
                  state.readings] })
      else (.ok (), state) := by
  cases hasMetricsStore with
  | false => rfl
  | true =>
      have recorded (metric : RunMetric) (state : LeasedState) :
          (LeasedProgram.recordRun metric).run (leasedHandler surroundings)
              state =
            (surroundings.recordRun state.metrics.length,
              { state with metrics := state.metrics ++ [metric] }) :=
        Program.run_ofOutcome _ _ _
      exact recorded _ _

/-! ## The parts of a call -/

/-- How the first report to the metrics store ends. -/
def firstRecord (call : LeasedCall) : Except PyError Unit :=
  if call.hasMetricsStore then surroundings.recordRun 0 else .ok ()

/-- The outcome of the operation itself. -/
def operationOutcome : RunOutcome :=
  match surroundings.operation with
  | .ok _ => .succeeded
  | .error _ => .failed

/-- At most one metric, for this run and with this outcome. -/
def RecordedOnce (outcome : RunOutcome) (metrics : List RunMetric) : Prop :=
  metrics.length ≤ 1 ∧
    ∀ metric ∈ metrics,
      metric.runId = surroundings.crawlRunId ∧ metric.outcome = outcome

section Parts

variable (call : LeasedCall) {context : RunContext} (state : LeasedState)

/-- A first report emits one event, may add one metric and may raise. -/
theorem run_report
    (noMetrics : state.metrics = []) {name : String}
    (nameMatches : matchesEventName name = true) (outcome : RunOutcome)
    (exception : Option PyError) :
    ∃ (event : RunEvent) (after : LeasedState),
      event.context = context ∧ event.outcome = outcome ∧
        after.acquired = state.acquired ∧
        after.events = state.events ++ [event] ∧
        after.metrics =
          (if call.hasMetricsStore then
            [terminalMetric surroundings context outcome
              (surroundings.clock.reading 0) (state.readings + 1)]
          else []) ∧
        ∀ {Result : Type} (next : LeasedProgram Value Result),
          (do
            reportOutcome name context outcome
              (surroundings.clock.reading 0) exception
            recordTerminalMetric call.hasMetricsStore context outcome
              (surroundings.clock.reading 0)
            next).run (leasedHandler surroundings) state =
            match firstRecord surroundings call with
            | .ok () => next.run (leasedHandler surroundings) after
            | .error error => (.error error, after) := by
  rcases run_reportOutcome surroundings nameMatches context outcome state
      (surroundings.clock.monotone (Nat.zero_le _)) exception with
    ⟨event, isContext, isOutcome, reported⟩
  by_cases isStored : call.hasMetricsStore = true
  · refine
      ⟨event,
        { state with
          readings := state.readings + 2
          events := state.events ++ [event]
          metrics :=
            [terminalMetric surroundings context outcome
              (surroundings.clock.reading 0) (state.readings + 1)] },
        isContext, isOutcome, rfl, rfl, (if_pos isStored).symm, ?_⟩
    intro Result next
    rw [Program.run_bind, reported]
    dsimp only
    rw [Program.run_bind, run_recordTerminalMetric, firstRecord,
      if_pos isStored, if_pos isStored, noMetrics]
    cases surroundings.recordRun 0 <;> rfl
  · refine
      ⟨event,
        { state with
          readings := state.readings + 1
          events := state.events ++ [event] },
        isContext, isOutcome, rfl, rfl, noMetrics.trans (if_neg isStored).symm,
        ?_⟩
    intro Result next
    rw [Program.run_bind, reported]
    dsimp only
    rw [Program.run_bind, run_recordTerminalMetric, firstRecord,
      if_neg isStored, if_neg isStored]

variable (isRun : context.crawlRunId = surroundings.crawlRunId)

include isRun

/-- The metric of a first report is the only one. -/
theorem recordedOnce_of_report
    {outcome : RunOutcome} {startedAt : ℚ} {readings : ℕ}
    {metrics : List RunMetric}
    (reported :
      metrics =
        if call.hasMetricsStore then
          [terminalMetric surroundings context outcome startedAt readings]
        else []) :
    RecordedOnce surroundings outcome metrics := by
  rw [reported]
  split_ifs
  · refine ⟨le_rfl, ?_⟩
    intro metric member
    rw [List.mem_singleton.mp member]
    exact ⟨isRun, rfl⟩
  · exact ⟨Nat.zero_le _, List.forall_mem_nil _⟩

variable (noMetrics : state.metrics = [])

include noMetrics

/-- An operation which raises is reported as failed. -/
theorem run_attempt_error
    {error : PyError} (raises : surroundings.operation = .error error) :
    ∃ (event : RunEvent) (after : LeasedState),
      event.context = context ∧ event.outcome = .failed ∧
        after.events = state.events ++ [event] ∧
        RecordedOnce surroundings .failed after.metrics ∧
        ((attempt call context (surroundings.clock.reading 0)).tryCatch
            (reportFailure call context
              (surroundings.clock.reading 0))).run
            (leasedHandler surroundings) state =
          (match firstRecord surroundings call with
            | .ok () => .error error
            | .error other => .error other,
            after) := by
  rcases run_report surroundings call state noMetrics
      (by decide : matchesEventName "run_failed" = true) .failed
      (some error) with
    ⟨event, after, isContext, isFailed, _, events, metrics, reported⟩
  refine
    ⟨event, after, isContext, isFailed, events,
      recordedOnce_of_report surroundings call isRun metrics, ?_⟩
  rw [Program.run_tryCatch, attempt, Program.run_bind, run_operation, raises]
  dsimp only
  rw [reportFailure, reported]
  cases firstRecord surroundings call <;> rfl

/-- An operation which returns is reported as succeeded, if this works. -/
theorem run_attempt_ok
    {value : Value} (returns : surroundings.operation = .ok value)
    (works : firstRecord surroundings call = .ok ()) :
    ∃ (event : RunEvent) (after : LeasedState),
      event.context = context ∧ event.outcome = .succeeded ∧
        after.events = state.events ++ [event] ∧
        RecordedOnce surroundings .succeeded after.metrics ∧
        ((attempt call context (surroundings.clock.reading 0)).tryCatch
            (reportFailure call context
              (surroundings.clock.reading 0))).run
            (leasedHandler surroundings) state =
          (.ok (.value value), after) := by
  rcases run_report surroundings call state noMetrics
      (by decide : matchesEventName "run_finished" = true) .succeeded
      none with
    ⟨event, after, isContext, hasSucceeded, _, events, metrics, reported⟩
  refine
    ⟨event, after, isContext, hasSucceeded, events,
      recordedOnce_of_report surroundings call isRun metrics, ?_⟩
  rw [Program.run_tryCatch, attempt, Program.run_bind, run_operation,
    returns]
  dsimp only
  rw [reported, works]
  rfl

omit isRun

variable (context) in
/-- If the report of a success raises, a failure is reported as well. -/
theorem run_attempt_twice
    {value : Value} (returns : surroundings.operation = .ok value)
    {error : PyError}
    (raises : firstRecord surroundings call = .error error) :
    2 ≤
      (((attempt call context (surroundings.clock.reading 0)).tryCatch
          (reportFailure call context
            (surroundings.clock.reading 0))).run
          (leasedHandler surroundings) state).2.events.length := by
  rcases run_report surroundings call state noMetrics
      (by decide : matchesEventName "run_finished" = true) .succeeded
      none with
    ⟨event, after, _, _, _, events, _, reported⟩
  rcases run_reportOutcome surroundings
      (by decide : matchesEventName "run_failed" = true) context .failed
      after (surroundings.clock.monotone (Nat.zero_le _))
      (some error) with
    ⟨second, _, _, reportedAgain⟩
  rw [Program.run_tryCatch, attempt, Program.run_bind, run_operation,
    returns]
  dsimp only
  rw [reported, raises]
  dsimp only
  rw [reportFailure, Program.run_bind, reportedAgain]
  dsimp only
  rw [Program.run_bind, run_recordTerminalMetric]
  split_ifs with isStored
  · cases surroundings.recordRun after.metrics.length with
    | ok reply => simp [events]
    | error other => simp [events]
  · simp [events]

end Parts

/-! ## Whole calls -/

theorem crawlRunId_runContext
    {sourceId taskId : String} {crawlRunId : RunIdentifier}
    {context : RunContext}
    (isContext : runContext sourceId crawlRunId taskId = .ok context) :
    context.crawlRunId = crawlRunId := by
  unfold runContext at isContext
  split_ifs at isContext
  cases isContext
  rfl

/-- A call which does not get the lease reports that it was skipped. -/
theorem leasedRun_of_refused
    {call : LeasedCall} {context : RunContext} {lease : RedisLease}
    (isContext :
      runContext call.sourceId surroundings.crawlRunId call.taskId =
        .ok context)
    (isLease :
      RedisLease.create (sourceLockKey call.sourceId) call.ttlSeconds none
          surroundings.token =
        .ok lease)
    (refused : surroundings.acquires = .ok false) :
    (leasedRun surroundings call).1 =
        (match firstRecord surroundings call with
          | .ok () => .ok .skippedOverlap
          | .error error => .error error) ∧
      (leasedRun surroundings call).2.acquired = false ∧
        (leasedRun surroundings call).2.metrics =
          if call.hasMetricsStore then
            [terminalMetric surroundings context .skipped
              (surroundings.clock.reading 0) 2]
          else [] := by
  have logged :
      (LeasedProgram.logSkip call.sourceId).run (leasedHandler surroundings)
          { readings := 1 } =
        (.ok (), { readings := 1 }) := rfl
  have ran :
      leasedRun surroundings call =
        (do
          reportOutcome "run_skipped" context .skipped
            (surroundings.clock.reading 0) none
          recordTerminalMetric call.hasMetricsStore context .skipped
            (surroundings.clock.reading 0)
          pure LeasedResult.skippedOverlap).run (leasedHandler surroundings)
          { readings := 1 } := by
    simp [leasedRun, runWithSourceLease, Program.run_bind, isContext, isLease,
      refused, logged]
  rcases run_report surroundings call { readings := 1 } rfl
      (by decide : matchesEventName "run_skipped" = true) .skipped none with
    ⟨event, after, (_ : event.context = context), _, notAcquired, _, metrics,
      reported⟩
  rw [ran, reported]
  cases firstRecord surroundings call <;>
    exact ⟨rfl, notAcquired, metrics⟩

/-- A call which gets the lease goes on to its heartbeat. -/
theorem leasedRun_of_held
    {call : LeasedCall} {context : RunContext} {lease : RedisLease}
    (isContext :
      runContext call.sourceId surroundings.crawlRunId call.taskId =
        .ok context)
    (isLease :
      RedisLease.create (sourceLockKey call.sourceId) call.ttlSeconds none
          surroundings.token =
        .ok lease)
    (held : surroundings.acquires = .ok true) :
    leasedRun surroundings call =
      (do
        let interval ← Program.ofOutcome call.heartbeat
        LeasedProgram.startHeartbeat lease interval
        ((attempt call context (surroundings.clock.reading 0)).tryCatch
            (reportFailure call context
              (surroundings.clock.reading 0))).tryFinally
          (giveBack lease)).run (leasedHandler surroundings)
        { readings := 1, acquired := true } := by
  simp [leasedRun, runWithSourceLease, Program.run_bind, isContext, isLease,
    held]

/-- A call is refused before it has the lease, or the lease replies. -/
theorem leasedRun_cases (call : LeasedCall) :
    (∃ error readings,
      leasedRun surroundings call =
        (.error error, { readings := readings })) ∨
      ∃ context lease held,
        runContext call.sourceId surroundings.crawlRunId call.taskId =
            .ok context ∧
          RedisLease.create (sourceLockKey call.sourceId) call.ttlSeconds
              none surroundings.token =
            .ok lease ∧
          surroundings.acquires = .ok held := by
  cases isContext :
    runContext call.sourceId surroundings.crawlRunId call.taskId with
  | error error =>
      refine Or.inl ⟨error, 0, ?_⟩
      simp [leasedRun, runWithSourceLease, Program.run_bind, isContext]
  | ok context =>
      cases isLease :
        RedisLease.create (sourceLockKey call.sourceId) call.ttlSeconds none
          surroundings.token with
      | error error =>
          refine Or.inl ⟨error, 1, ?_⟩
          simp [leasedRun, runWithSourceLease, Program.run_bind, isContext,
            isLease]
      | ok lease =>
          cases reply : surroundings.acquires with
          | error error =>
              refine Or.inl ⟨error, 1, ?_⟩
              simp [leasedRun, runWithSourceLease, Program.run_bind,
                isContext, isLease, reply]
          | ok held => exact Or.inr ⟨context, lease, held, rfl, rfl, rfl⟩

/-- The part of a call for which the lease is held. -/
theorem leasedRun_of_acquired
    {call : LeasedCall}
    (acquired : (leasedRun surroundings call).2.acquired = true) :
    ∃ context lease,
      runContext call.sourceId surroundings.crawlRunId call.taskId =
          .ok context ∧
        leasedRun surroundings call =
          (do
            let interval ← Program.ofOutcome call.heartbeat
            LeasedProgram.startHeartbeat lease interval
            ((attempt call context (surroundings.clock.reading 0)).tryCatch
                (reportFailure call context
                  (surroundings.clock.reading 0))).tryFinally
              (giveBack lease)).run (leasedHandler surroundings)
            { readings := 1, acquired := true } := by
  rcases leasedRun_cases surroundings call with
    ⟨error, readings, ran⟩ | ⟨context, lease, held, isContext, isLease, reply⟩
  · rw [ran] at acquired
    cases acquired
  · cases held with
    | false =>
        rw [(leasedRun_of_refused surroundings isContext isLease
          reply).2.1] at acquired
        cases acquired
    | true =>
        exact
          ⟨context, lease, isContext,
            leasedRun_of_held surroundings isContext isLease reply⟩

/-- The heartbeat of a call is accepted and its thread starts. -/
def HeartbeatStarts (call : LeasedCall) : Prop :=
  (∃ interval, call.heartbeat = .ok interval) ∧
    surroundings.startsHeartbeat = .ok ()

@[simp]
theorem run_startHeartbeat
    (lease : RedisLease) (interval : PyNumber) (state : LeasedState) :
    (LeasedProgram.startHeartbeat lease interval).run
        (leasedHandler surroundings) state =
      (surroundings.startsHeartbeat, state) :=
  Program.run_ofOutcome _ _ _

/-- Everything is given back, and what this raises comes last. -/
theorem leasedRun_of_accepted
    {call : LeasedCall}
    (acquired : (leasedRun surroundings call).2.acquired = true)
    (accepted : HeartbeatStarts surroundings call) :
    ∃ context,
      context.crawlRunId = surroundings.crawlRunId ∧
        leasedRun surroundings call =
          let tried :=
            ((attempt call context (surroundings.clock.reading 0)).tryCatch
                (reportFailure call context
                  (surroundings.clock.reading 0))).run
              (leasedHandler surroundings) { readings := 1, acquired := true }
          (match surroundings.releases with
            | .ok _ => tried.1
            | .error error => .error error,
            tried.2) := by
  rcases leasedRun_of_acquired surroundings acquired with
    ⟨context, lease, isContext, ran⟩
  rcases accepted with ⟨⟨interval, isInterval⟩, starts⟩
  refine ⟨context, crawlRunId_runContext isContext, ?_⟩
  rw [ran, isInterval, Program.run_bind, Program.run_ofOutcome]
  dsimp only
  rw [Program.run_bind, run_startHeartbeat, starts]
  dsimp only
  rw [Program.run_tryFinally, run_giveBack]
  cases surroundings.releases <;> rfl

/-- A call whose heartbeat does not start reports nothing. -/
theorem events_of_refused
    {call : LeasedCall}
    (acquired : (leasedRun surroundings call).2.acquired = true)
    (refused : ¬ HeartbeatStarts surroundings call) :
    (leasedRun surroundings call).2.events = [] := by
  rcases leasedRun_of_acquired surroundings acquired with
    ⟨context, lease, _, ran⟩
  rw [ran, Program.run_bind, Program.run_ofOutcome]
  cases isInterval : call.heartbeat with
  | error error => rfl
  | ok interval =>
      dsimp only
      rw [Program.run_bind, run_startHeartbeat]
      cases starts : surroundings.startsHeartbeat with
      | error error => rfl
      | ok reply => exact absurd ⟨⟨interval, isInterval⟩, starts⟩ refused

/-! ## One outcome -/

/--
A run ends with the outcome of its operation: one event and at most one metric
say so, and the exception of the operation propagates.
-/
structure OneOutcome (call : LeasedCall) : Prop where
  event : ∃ event,
    (leasedRun surroundings call).2.events = [event] ∧
      event.context.crawlRunId = surroundings.crawlRunId ∧
      event.outcome = operationOutcome surroundings
  metrics :
    RecordedOnce surroundings (operationOutcome surroundings)
      (leasedRun surroundings call).2.metrics
  propagates : ∀ error, surroundings.operation = .error error →
    (leasedRun surroundings call).1 = .error error

/--
The heartbeat starts.  After an operation which returns, the metrics store
does not raise.  After one which raises, what the metrics store and the
release of the lease raise last is nothing else.
-/
def Undisturbed (call : LeasedCall) : Prop :=
  HeartbeatStarts surroundings call ∧
    match surroundings.operation with
    | .ok _ => firstRecord surroundings call = .ok ()
    | .error error =>
        match surroundings.releases with
        | .ok _ =>
            ∀ other, firstRecord surroundings call = .error other →
              other = error
        | .error other => other = error

section Outcomes

variable {surroundings} {call : LeasedCall}
variable (acquired : (leasedRun surroundings call).2.acquired = true)

include acquired

/-- A call whose heartbeat does not start has no outcome. -/
theorem not_oneOutcome_of_refused
    (refused : ¬ HeartbeatStarts surroundings call) :
    ¬ OneOutcome surroundings call := by
  intro one
  rcases one.event with ⟨event, events, _⟩
  rw [events_of_refused surroundings acquired refused] at events
  cases events

variable (accepted : HeartbeatStarts surroundings call)

include accepted

/-- A success which is reported without an exception stays one. -/
theorem oneOutcome_of_recorded
    {value : Value} (returns : surroundings.operation = .ok value)
    (recorded : firstRecord surroundings call = .ok ()) :
    OneOutcome surroundings call := by
  rcases leasedRun_of_accepted surroundings acquired accepted with
    ⟨context, isRun, ran⟩
  rcases run_attempt_ok surroundings call
      { readings := 1, acquired := true } isRun rfl returns recorded with
    ⟨event, after, isContext, hasSucceeded, events, once, tried⟩
  rw [tried] at ran
  have isSuccess : operationOutcome surroundings = .succeeded := by
    rw [operationOutcome, returns]
  constructor
  · refine ⟨event, ?_, ?_, ?_⟩
    · rw [ran]
      exact events
    · rw [isContext, isRun]
    · rw [isSuccess, hasSucceeded]
  · rw [ran, isSuccess]
    exact once
  · intro error raises
    rw [returns] at raises
    cases raises

/-- A success whose report raises is reported twice. -/
theorem not_oneOutcome_of_raises
    {value : Value} (returns : surroundings.operation = .ok value)
    {error : PyError}
    (raises : firstRecord surroundings call = .error error) :
    ¬ OneOutcome surroundings call := by
  intro one
  rcases leasedRun_of_accepted surroundings acquired accepted with
    ⟨context, isRun, ran⟩
  rcases one.event with ⟨event, events, _⟩
  have twice :=
    run_attempt_twice surroundings call context
      { readings := 1, acquired := true } rfl returns raises
  rw [ran] at events
  rw [events, List.length_singleton] at twice
  exact absurd twice (by decide)

/-- How a call ends whose operation raises. -/
theorem result_of_error
    {error : PyError} (raises : surroundings.operation = .error error) :
    (leasedRun surroundings call).1 =
      match surroundings.releases with
      | .error other => .error other
      | .ok _ =>
          match firstRecord surroundings call with
          | .ok () => .error error
          | .error other => .error other := by
  rcases leasedRun_of_accepted surroundings acquired accepted with
    ⟨context, isRun, ran⟩
  rcases run_attempt_error surroundings call
      { readings := 1, acquired := true } isRun rfl raises with
    ⟨event, after, _, _, _, _, tried⟩
  rw [ran, tried]
  cases surroundings.releases <;> rfl

/-- A failure is reported once; only its exception may be replaced. -/
theorem oneOutcome_iff_propagates
    {error : PyError} (raises : surroundings.operation = .error error) :
    OneOutcome surroundings call ↔
      (leasedRun surroundings call).1 = .error error := by
  rcases leasedRun_of_accepted surroundings acquired accepted with
    ⟨context, isRun, ran⟩
  rcases run_attempt_error surroundings call
      { readings := 1, acquired := true } isRun rfl raises with
    ⟨event, after, isContext, hasFailed, events, once, tried⟩
  rw [tried] at ran
  have isFailure : operationOutcome surroundings = .failed := by
    rw [operationOutcome, raises]
  constructor
  · intro one
    exact one.propagates error raises
  · intro propagates
    constructor
    · refine ⟨event, ?_, ?_, ?_⟩
      · rw [ran]
        exact events
      · rw [isContext, isRun]
      · rw [isFailure, hasFailed]
    · rw [ran, isFailure]
      exact once
    · intro other raisesOther
      rw [raises] at raisesOther
      cases raisesOther
      exact propagates

end Outcomes

/-- A run has one outcome just if nothing disturbs its reports. -/
theorem oneOutcome_iff_undisturbed
    (call : LeasedCall)
    (acquired : (leasedRun surroundings call).2.acquired = true) :
    OneOutcome surroundings call ↔ Undisturbed surroundings call := by
  by_cases accepted : HeartbeatStarts surroundings call
  · rw [Undisturbed, and_iff_right accepted]
    cases operated : surroundings.operation with
    | ok value =>
        cases recorded : firstRecord surroundings call with
        | ok reply =>
            exact iff_of_true
              (oneOutcome_of_recorded acquired accepted operated recorded)
              rfl
        | error error =>
            exact iff_of_false
              (not_oneOutcome_of_raises acquired accepted operated recorded)
              nofun
    | error error =>
        rw [oneOutcome_iff_propagates acquired accepted operated,
          result_of_error acquired accepted operated]
        cases surroundings.releases with
        | error other => simp
        | ok released =>
            cases firstRecord surroundings call with
            | ok reply => simp
            | error other => simp
  · apply iff_of_false
    · exact not_oneOutcome_of_refused acquired accepted
    · intro undisturbed
      exact accepted undisturbed.1

end Runs

/-! ## Examples -/

/-- A call for a source with a metrics store. -/
def demoCall : LeasedCall :=
  ⟨"demo", 90, none, "internal", true⟩

theorem monotone_zero : Monotone fun _ : ℕ => (0 : ℚ) :=
  monotone_const

/-- An operation which returns, with this metrics store. -/
def returning (recordRun : ℕ → Except PyError Unit) : Surroundings ℕ where
  crawlRunId := 0
  token := "token"
  clock := ⟨fun _ => 0, monotone_zero⟩
  wallClock := fun _ => naive Scheduler.firstMoment
  acquires := .ok true
  startsHeartbeat := .ok ()
  operation := .ok 7
  recordRun := recordRun
  releases := .ok true

/-- With a metrics store which works a success stays one. -/
theorem oneOutcome_returning :
    (leasedRun (returning fun _ => .ok ()) demoCall).2.acquired = true ∧
      OneOutcome (returning fun _ => .ok ()) demoCall := by
  have acquired :
      (leasedRun (returning fun _ => .ok ()) demoCall).2.acquired = true := by
    decide +kernel
  refine ⟨acquired, ?_⟩
  apply (oneOutcome_iff_undisturbed (returning fun _ => .ok ()) demoCall
    acquired).mpr
  have interval : demoCall.heartbeat = .ok (.finite 30) := by decide +kernel
  exact ⟨⟨⟨_, interval⟩, rfl⟩, rfl⟩

/-- A metrics store which raises makes a failed outcome of a success. -/
theorem not_oneOutcome_connectionError :
    (leasedRun
        (returning fun _ => .error (.library (.other "ConnectionError")))
        demoCall).2.acquired = true ∧
      ¬ OneOutcome
        (returning fun _ => .error (.library (.other "ConnectionError")))
        demoCall := by
  constructor
  · decide +kernel
  · intro one
    rcases one.event with ⟨event, events, _⟩
    have twice :
        (leasedRun
            (returning fun _ =>
              .error (.library (.other "ConnectionError")))
            demoCall).2.events.length = 2 := by
      decide +kernel
    rw [events, List.length_singleton] at twice
    exact absurd twice (by decide)

end MultisiteCrawler.Tasks
