import MultisiteCrawler.Metrics.Accounts
import MultisiteCrawler.Tasks.TerminalOutcome

/-!
# Skipped overlaps

Calls of `run_with_source_lease`, one after the other, whose metrics store is
one `RedisMetricsStore` over a store which does not fail.  Everything else
about a call is up to its surroundings, also whether it gets the lease.

A call which does not get the lease records a run with the outcome `skipped`
and nothing else: `record_lock_skip` is never called.  So the page shows no
lock skips, and agrees with what the calls returned only for the sources none
of whose calls found the lease taken.
-/

namespace MultisiteCrawler.Tasks

open Foundation.AwareTime
open Foundation.Exposition
open Foundation.Interaction
open Foundation.Interaction.Program (Handler)
open Foundation.PythonErrors
open MultisiteCrawler.Locking
open MultisiteCrawler.Metrics
open Observability

/-! ## Calls with a metrics store -/

/-- `str` of a duration or a timestamp, and `timestamp` of a moment. -/
structure SecondTexts where
  text : ℚ → String
  timestamp : DateTime → ℚ
  isValue_text : ∀ seconds, isValue (text seconds).toList = true

/-- The floats of the metrics store. -/
def SecondTexts.rules (texts : SecondTexts) : FloatRules ℚ where
  isNegative seconds := decide (seconds < 0)
  text := texts.text
  isValue_text := texts.isValue_text

/-- What the metrics store is asked to record. -/
def RunMetric.call (texts : SecondTexts) (metric : RunMetric) :
    MetricsCall ℚ :=
  .run metric.sourceId metric.runId metric.outcome metric.durationSeconds
    metric.itemCount (texts.timestamp metric.current)

/-- A call which is given a metrics store, and what it meets. -/
structure StoredCall (Value : Type) where
  call : LeasedCall
  surroundings : Surroundings Value
  hasMetricsStore : call.hasMetricsStore = true

section Calls

variable {Value : Type} (texts : SecondTexts)

/-- The metrics store records; the surroundings answer all the rest. -/
def storedHandler (surroundings : Surroundings Value) :
    Handler (LeasedCommand Value) LeasedCommand.Reply
      (LeasedState × MetricsRedis)
  | .recordRun metric, (state, store) =>
      let recorded :=
        ((metric.call texts).program texts.rules).run memoryRedis store
      (recorded.1,
        { state with metrics := state.metrics ++ [metric] }, recorded.2)
  | command, (state, store) =>
      let answered := leasedHandler surroundings command state
      (answered.1, answered.2, store)

/-- How a call ends, and the store it leaves. -/
def StoredCall.execute (run : StoredCall Value) (store : MetricsRedis) :
    Except PyError (LeasedResult Value) × MetricsRedis :=
  let ran :=
    (runWithSourceLease run.call).run (storedHandler texts run.surroundings)
      ({}, store)
  (ran.1, ran.2.2)

/-- The source and the end of every call, and the store they leave. -/
def executeAll : List (StoredCall Value) → MetricsRedis →
    List (String × Except PyError (LeasedResult Value)) × MetricsRedis
  | [], store => ([], store)
  | run :: rest, store =>
      let executed := run.execute texts store
      let later := executeAll rest executed.2
      ((run.call.sourceId, executed.1) :: later.1, later.2)

/-- `LockOutcome.SKIPPED_OVERLAP` was returned. -/
def returnsSkip : Except PyError (LeasedResult Value) → Bool
  | .ok .skippedOverlap => true
  | _ => false

/-- How many calls for a source were skipped. -/
def skipsOf (sourceId : String)
    (results : List (String × Except PyError (LeasedResult Value))) : ℕ :=
  results.countP fun result =>
    decide (result.1 = sourceId) && returnsSkip result.2

/-- The page which is served from a store. -/
def pageOf (store : MetricsRedis) (queueDepths : QueueDepths) :
    Except PyError String :=
  ((do
      let read ← snapshot queueDepths
      pure (renderPrometheus read) : MetricsProgram String).run memoryRedis
    store).1

/-- The page shows this count, or it has no such series and the count is 0. -/
def ShowsCount (store : MetricsRedis) (name : String)
    (labels : List (String × String)) (count : ℕ) : Prop :=
  ∀ queueDepths, ∃ page lines,
    pageOf store queueDepths = .ok page ∧
      readPage page.toList = some lines ∧
      (valuesOf lines name labels = [(integerText count).toList] ∨
        valuesOf lines name labels = [] ∧ count = 0)

/-- The failed runs of a source. -/
abbrev ShowsFailed (store : MetricsRedis) (sourceId : String)
    (count : ℕ) : Prop :=
  ShowsCount store "crawler_run_failed_total" [("source_id", sourceId)] count

/--
Skipped calls are counted as lock skips and as skipped runs, and a skipped
call, of whatever source, leaves the failed runs as they are.
-/
structure SkipsCounted (runs : List (StoredCall Value)) (sourceId : String) :
    Prop where
  lockSkips :
    ShowsCount (executeAll texts runs .empty).2 "crawler_lock_skip_total"
      [("source_id", sourceId)]
      (skipsOf sourceId (executeAll texts runs .empty).1)
  skippedRuns :
    ShowsCount (executeAll texts runs .empty).2 "crawler_run_total"
      [("outcome", RunOutcome.value .skipped), ("source_id", sourceId)]
      (skipsOf sourceId (executeAll texts runs .empty).1)
  failedRuns : ∀ (earlier : List (StoredCall Value)) run,
    earlier ++ [run] <+: runs →
      let store := (executeAll texts earlier .empty).2
      returnsSkip (run.execute texts store).1 = true →
        ∀ count, ShowsFailed (run.execute texts store).2 sourceId count ↔
          ShowsFailed store sourceId count

/-- The call is accepted, and its lease is taken. -/
def StoredCall.FindsLeaseTaken (run : StoredCall Value) : Prop :=
  (∃ context,
      runContext run.call.sourceId run.surroundings.crawlRunId
          run.call.taskId =
        .ok context) ∧
    (∃ lease,
      RedisLease.create (sourceLockKey run.call.sourceId)
          run.call.ttlSeconds none run.surroundings.token =
        .ok lease) ∧
    run.surroundings.acquires = .ok false

/-! ## One call -/

/-- The same surroundings with a metrics store which does not raise. -/
def recording (surroundings : Surroundings Value) : Surroundings Value :=
  { surroundings with recordRun := fun _ => .ok () }

/-- The metrics which are asked for, as calls of the store. -/
def metricCalls (state : LeasedState) : List (MetricsCall ℚ) :=
  state.metrics.map (RunMetric.call texts)

/-- What was recorded stays recorded. -/
theorem mem_metrics_run
    {Result : Type} (surroundings : Surroundings Value)
    (program : LeasedProgram Value Result) {state : LeasedState}
    {metric : RunMetric} (member : metric ∈ state.metrics) :
    metric ∈ (program.run (leasedHandler surroundings) state).2.metrics := by
  induction program generalizing state with
  | done result => exact member
  | fail error => exact member
  | perform command next induction =>
      apply induction
      cases command with
      | recordRun other => exact List.mem_append_left _ member
      | _ => exact member

/-- An accepted call is one more call of the store. -/
theorem run_program_of_accepted
    {Number : Type} (rules : FloatRules Number)
    (calls : List (MetricsCall Number)) {call : MetricsCall Number}
    (accepted : call.accepted rules = true) :
    (call.program rules).run memoryRedis (storeAfter rules calls) =
      (.ok (), storeAfter rules (calls ++ [call])) := by
  rw [storeAfter_concat, storeNext,
    run_of_accepted rules accepted (fun _ => fits_updatesFor rules)
      (storeAfter_hashes rules calls _)]

/-- If all its metrics are accepted, a program extends the store by them. -/
theorem run_storedHandler
    {Result : Type} (surroundings : Surroundings Value)
    (program : LeasedProgram Value Result) (state : LeasedState)
    (earlier : List (MetricsCall ℚ))
    (accepted : ∀ metric ∈
      (program.run (leasedHandler (recording surroundings)) state).2.metrics,
        (metric.call texts).accepted texts.rules = true) :
    program.run (storedHandler texts surroundings)
        (state,
          storeAfter texts.rules (earlier ++ metricCalls texts state)) =
      let ran := program.run (leasedHandler (recording surroundings)) state
      (ran.1, ran.2,
        storeAfter texts.rules (earlier ++ metricCalls texts ran.2)) := by
  induction program generalizing state with
  | done result => rfl
  | fail error => rfl
  | perform command next induction =>
      cases command with
      | recordRun metric =>
          have isRecorded :
              metric ∈ LeasedState.metrics
                { state with metrics := state.metrics ++ [metric] } :=
            List.mem_append_right _ List.mem_cons_self
          have isAccepted : (metric.call texts).accepted texts.rules = true :=
            accepted metric (mem_metrics_run _ (next (.ok ())) isRecorded)
          have recorded :=
            run_program_of_accepted texts.rules
              (earlier ++ metricCalls texts state) isAccepted
          have extended :
              earlier ++ metricCalls texts state ++ [metric.call texts] =
                earlier ++ metricCalls texts
                  { state with metrics := state.metrics ++ [metric] } := by
            simp [metricCalls]
          rw [extended] at recorded
          rw [Program.run_perform, storedHandler, recorded]
          exact induction _ _ accepted
      | _ => exact induction _ _ accepted

/-- A metric which a call reports with this outcome. -/
def IsReport (surroundings : Surroundings Value) (call : LeasedCall)
    (outcome : RunOutcome) (metric : RunMetric) : Prop :=
  ∃ (context : RunContext) (readings : ℕ),
    context.sourceId = call.sourceId ∧
      metric =
        terminalMetric surroundings context outcome
          (surroundings.clock.reading 0) readings

/-- Reports are accepted, as the clock does not go back. -/
theorem IsReport.accepted
    {surroundings : Surroundings Value} {call : LeasedCall}
    {outcome : RunOutcome} {metric : RunMetric}
    (isReport : IsReport surroundings call outcome metric) :
    (metric.call texts).accepted texts.rules = true := by
  rcases isReport with ⟨context, readings, _, rfl⟩
  have nonneg :
      surroundings.clock.reading 0 ≤ surroundings.clock.reading readings :=
    surroundings.clock.monotone (Nat.zero_le _)
  simp [terminalMetric, RunMetric.call, MetricsCall.accepted,
    MetricsCall.sourceId, MetricsCall.inRange, SecondTexts.rules,
    context.sourceId_matches, nonneg]

theorem sourceId_runContext
    {sourceId taskId : String} {crawlRunId : RunIdentifier}
    {context : RunContext}
    (isContext : runContext sourceId crawlRunId taskId = .ok context) :
    context.sourceId = sourceId := by
  unfold runContext at isContext
  split_ifs at isContext
  cases isContext
  rfl

/-- A call which finds its lease taken reports one skipped run. -/
theorem leasedRun_of_taken
    {run : StoredCall Value} (taken : run.FindsLeaseTaken) :
    returnsSkip (leasedRun (recording run.surroundings) run.call).1 =
        true ∧
      ∃ metric,
        IsReport (recording run.surroundings) run.call .skipped metric ∧
          (leasedRun (recording run.surroundings) run.call).2.metrics =
            [metric] := by
  rcases taken with ⟨⟨context, isContext⟩, ⟨lease, isLease⟩, refused⟩
  rcases leasedRun_of_refused (recording run.surroundings) isContext isLease
      refused with
    ⟨result, _, metrics⟩
  constructor
  · rw [result, firstRecord, if_pos run.hasMetricsStore]
    rfl
  · refine ⟨_, ⟨context, 2, sourceId_runContext isContext, rfl⟩, ?_⟩
    rw [metrics, if_pos run.hasMetricsStore]

/-- The `try` reports the outcome of the operation once. -/
theorem run_attempt_recorded
    (surroundings : Surroundings Value)
    (records : ∀ index, surroundings.recordRun index = .ok ())
    {call : LeasedCall} (hasMetricsStore : call.hasMetricsStore = true)
    (context : RunContext) (state : LeasedState)
    (noMetrics : state.metrics = []) :
    let tried :=
      ((attempt call context (surroundings.clock.reading 0)).tryCatch
          (reportFailure call context
            (surroundings.clock.reading 0))).run
        (leasedHandler surroundings) state
    returnsSkip tried.1 = false ∧
      ∃ readings,
        tried.2.metrics =
          [terminalMetric surroundings context
            (operationOutcome surroundings) (surroundings.clock.reading 0)
            readings] := by
  have works : firstRecord surroundings call = .ok () := by
    rw [firstRecord, if_pos hasMetricsStore, records]
  cases operated : surroundings.operation with
  | ok value =>
      rcases run_report surroundings call state noMetrics
          (by decide : matchesEventName "run_finished" = true) .succeeded
          none with
        ⟨event, after, (_ : event.context = context), _, _, _, metrics,
          reported⟩
      rw [Program.run_tryCatch, attempt, Program.run_bind, run_operation,
        operated]
      dsimp only
      rw [reported, works, operationOutcome, operated]
      exact ⟨rfl, _, metrics.trans (if_pos hasMetricsStore)⟩
  | error error =>
      rcases run_report surroundings call state noMetrics
          (by decide : matchesEventName "run_failed" = true) .failed
          (some error) with
        ⟨event, after, (_ : event.context = context), _, _, _, metrics,
          reported⟩
      rw [Program.run_tryCatch, attempt, Program.run_bind, run_operation,
        operated]
      dsimp only
      rw [reportFailure, reported, works, operationOutcome, operated]
      exact ⟨rfl, _, metrics.trans (if_pos hasMetricsStore)⟩

/-- A call which gets the lease reports how its operation ends. -/
theorem leasedRun_reports_of_held
    {run : StoredCall Value} {context : RunContext} {lease : RedisLease}
    (isContext :
      runContext run.call.sourceId run.surroundings.crawlRunId
          run.call.taskId =
        .ok context)
    (isLease :
      RedisLease.create (sourceLockKey run.call.sourceId)
          run.call.ttlSeconds none run.surroundings.token =
        .ok lease)
    (held : run.surroundings.acquires = .ok true) :
    returnsSkip (leasedRun (recording run.surroundings) run.call).1 =
        false ∧
      ∀ metric ∈
          (leasedRun (recording run.surroundings) run.call).2.metrics,
        IsReport (recording run.surroundings) run.call
          (operationOutcome run.surroundings) metric := by
  rw [leasedRun_of_held (recording run.surroundings) isContext isLease held,
    Program.run_bind, Program.run_ofOutcome]
  cases isInterval : run.call.heartbeat with
  | error error => exact ⟨rfl, fun _ => List.not_mem_nil.elim⟩
  | ok interval =>
      dsimp only
      rw [Program.run_bind, run_startHeartbeat]
      cases starts : (recording run.surroundings).startsHeartbeat with
      | error error => exact ⟨rfl, fun _ => List.not_mem_nil.elim⟩
      | ok reply =>
          rcases run_attempt_recorded (recording run.surroundings)
              (fun _ => rfl) run.hasMetricsStore context
              { readings := 1, acquired := true } rfl with
            ⟨noSkip, readings, metrics⟩
          dsimp only
          rw [Program.run_tryFinally, run_giveBack]
          have isReport :
              ∀ metric ∈
                  [terminalMetric (recording run.surroundings) context
                    (operationOutcome (recording run.surroundings))
                    ((recording run.surroundings).clock.reading 0)
                    readings],
                IsReport (recording run.surroundings) run.call
                  (operationOutcome run.surroundings) metric := by
            intro metric member
            exact
              ⟨context, readings, sourceId_runContext isContext,
                List.mem_singleton.mp member⟩
          rw [← metrics] at isReport
          cases (recording run.surroundings).releases with
          | error error => exact ⟨rfl, isReport⟩
          | ok released => exact ⟨noSkip, isReport⟩

theorem operationOutcome_ne_skipped (surroundings : Surroundings Value) :
    operationOutcome surroundings ≠ .skipped := by
  unfold operationOutcome
  cases surroundings.operation with
  | ok value => nofun
  | error error => nofun

/-- A call which does not find its lease taken reports no skipped run. -/
theorem leasedRun_of_not_taken
    {run : StoredCall Value} (free : ¬ run.FindsLeaseTaken) :
    returnsSkip (leasedRun (recording run.surroundings) run.call).1 =
        false ∧
      ∀ metric ∈
          (leasedRun (recording run.surroundings) run.call).2.metrics,
        IsReport (recording run.surroundings) run.call
          (operationOutcome run.surroundings) metric := by
  rcases leasedRun_cases (recording run.surroundings) run.call with
    ⟨error, readings, ran⟩ | ⟨context, lease, held, isContext, isLease, reply⟩
  · rw [ran]
    exact ⟨rfl, fun _ => List.not_mem_nil.elim⟩
  · cases held with
    | false =>
        exact absurd ⟨⟨context, isContext⟩, ⟨lease, isLease⟩, reply⟩ free
    | true => exact leasedRun_reports_of_held isContext isLease reply

/-! ## All calls -/

/-- The calls of the metrics store which all calls make. -/
def allMetricCalls (runs : List (StoredCall Value)) : List (MetricsCall ℚ) :=
  runs.flatMap fun run =>
    metricCalls texts (leasedRun (recording run.surroundings) run.call).2

/-- A call extends the store by what it reports. -/
theorem execute_storeAfter
    (run : StoredCall Value) (earlier : List (MetricsCall ℚ)) :
    run.execute texts (storeAfter texts.rules earlier) =
      let ran := leasedRun (recording run.surroundings) run.call
      (ran.1,
        storeAfter texts.rules (earlier ++ metricCalls texts ran.2)) := by
  have accepted : ∀ metric ∈
      (leasedRun (recording run.surroundings) run.call).2.metrics,
        (metric.call texts).accepted texts.rules = true := by
    intro metric member
    by_cases taken : run.FindsLeaseTaken
    · rcases (leasedRun_of_taken taken).2 with ⟨other, isReport, metrics⟩
      rw [metrics] at member
      rw [List.mem_singleton.mp member]
      exact isReport.accepted texts
    · exact ((leasedRun_of_not_taken taken).2 metric member).accepted texts
  have ran :=
    run_storedHandler texts run.surroundings (runWithSourceLease run.call) {}
      earlier accepted
  rw [show metricCalls texts {} = [] from rfl, List.append_nil] at ran
  rw [StoredCall.execute, ran]
  rfl

theorem executeAll_storeAfter
    (runs : List (StoredCall Value)) (earlier : List (MetricsCall ℚ)) :
    executeAll texts runs (storeAfter texts.rules earlier) =
      (runs.map fun run =>
          (run.call.sourceId,
            (leasedRun (recording run.surroundings) run.call).1),
        storeAfter texts.rules (earlier ++ allMetricCalls texts runs)) := by
  induction runs generalizing earlier with
  | nil =>
      rw [allMetricCalls, List.flatMap_nil, List.append_nil]
      rfl
  | cons run rest induction =>
      rw [executeAll, execute_storeAfter]
      dsimp only
      rw [induction, List.append_assoc]
      rfl

/-- All calls on a store which is empty at first. -/
theorem executeAll_empty (runs : List (StoredCall Value)) :
    executeAll texts runs .empty =
      (runs.map fun run =>
          (run.call.sourceId,
            (leasedRun (recording run.surroundings) run.call).1),
        storeAfter texts.rules (allMetricCalls texts runs)) :=
  executeAll_storeAfter texts runs []

/-! ## Counters -/

/-- A counter of a source is how many accepted calls for it are counted. -/
theorem showsCount_countP
    {Number : Type} (rules : FloatRules Number)
    (calls : List (MetricsCall Number)) (sourceId : String) {name : String}
    {labels : List (String × String)}
    (hasSource : ("source_id", sourceId) ∈ labels)
    {isCounted : MetricsCall Number → Bool}
    (account : ∀ lines,
      SourceAccount rules sourceId (callsFor rules sourceId calls) lines →
        valuesOf lines name labels =
          [(countText isCounted (callsFor rules sourceId calls)).toList]) :
    ShowsCount (storeAfter rules calls) name labels
      ((callsFor rules sourceId calls).countP isCounted) := by
  intro queueDepths
  rcases accounts_pageAfter rules calls queueDepths with
    ⟨page, lines, isPage, isRead, accounts⟩
  refine ⟨page, lines, isPage, isRead, ?_⟩
  by_cases named : Named rules calls sourceId
  · exact Or.inl (account lines (accounts.account sourceId named))
  · apply Or.inr
    constructor
    · rw [valuesOf, List.filterMap_eq_nil_iff]
      intro line member
      cases line with
      | help other documentation => rfl
      | typed other kind => rfl
      | sample other found value =>
          dsimp only
          apply if_neg
          rintro ⟨_, rfl⟩
          exact named ((accounts.sources sourceId).mp
            ⟨other, _, value, member, List.mem_map_of_mem hasSource⟩)
    · rw [List.countP_eq_zero]
      intro call member
      rcases List.mem_filter.mp member with ⟨isCall, accepted⟩
      rw [Bool.and_eq_true, decide_eq_true_eq] at accepted
      exact absurd ⟨call, isCall, accepted⟩ named

/-- A page shows one count. -/
theorem ShowsCount.unique
    {store : MetricsRedis} {name : String}
    {labels : List (String × String)} {first second : ℕ}
    (shows : ShowsCount store name labels first)
    (showsToo : ShowsCount store name labels second) : first = second := by
  rcases shows ⟨0, 0⟩ with ⟨page, lines, isPage, isRead, value⟩
  rcases showsToo ⟨0, 0⟩ with ⟨other, others, isOther, otherRead, another⟩
  rw [isPage] at isOther
  cases isOther
  rw [isRead] at otherRead
  cases otherRead
  rcases value with value | ⟨nothing, rfl⟩
  · rcases another with another | ⟨nothing, _⟩
    · rw [value, List.singleton_inj] at another
      exact Int.ofNat_inj.mp
        (integerText_injective (String.toList_injective another))
    · rw [value] at nothing
      cases nothing
  · rcases another with another | ⟨_, rfl⟩
    · rw [nothing] at another
      cases another
    · rfl

/-- A counter shows the number of accepted calls for the source it counts. -/
theorem showsCount_iff
    {Number : Type} (rules : FloatRules Number)
    (calls : List (MetricsCall Number)) (sourceId : String) {name : String}
    {labels : List (String × String)}
    (hasSource : ("source_id", sourceId) ∈ labels)
    {isCounted : MetricsCall Number → Bool}
    (account : ∀ lines,
      SourceAccount rules sourceId (callsFor rules sourceId calls) lines →
        valuesOf lines name labels =
          [(countText isCounted (callsFor rules sourceId calls)).toList])
    (count : ℕ) :
    ShowsCount (storeAfter rules calls) name labels count ↔
      count = (callsFor rules sourceId calls).countP isCounted := by
  have shown :=
    showsCount_countP rules calls sourceId hasSource account
  constructor
  · intro shows
    exact shows.unique shown
  · rintro rfl
    exact shown

section Counters

variable (calls : List (MetricsCall ℚ)) (sourceId : String) (count : ℕ)

theorem showsCount_lockSkips_iff :
    ShowsCount (storeAfter texts.rules calls) "crawler_lock_skip_total"
        [("source_id", sourceId)] count ↔
      count =
        (callsFor texts.rules sourceId calls).countP
          MetricsCall.isLockSkip :=
  showsCount_iff texts.rules calls sourceId List.mem_cons_self
    (fun _ account => account.lockSkips) count

theorem showsCount_skippedRuns_iff :
    ShowsCount (storeAfter texts.rules calls) "crawler_run_total"
        [("outcome", RunOutcome.value .skipped), ("source_id", sourceId)]
        count ↔
      count =
        (callsFor texts.rules sourceId calls).countP
          (MetricsCall.isRun .skipped) :=
  showsCount_iff texts.rules calls sourceId
    (List.mem_cons_of_mem _ List.mem_cons_self)
    (fun _ account => account.runs .skipped) count

theorem showsFailed_iff :
    ShowsFailed (storeAfter texts.rules calls) sourceId count ↔
      count =
        (callsFor texts.rules sourceId calls).countP
          (MetricsCall.isRun .failed) :=
  showsCount_iff texts.rules calls sourceId List.mem_cons_self
    (fun _ account => account.failedRuns) count

end Counters

/-! ## What is counted -/

theorem callsFor_append
    {Number : Type} (rules : FloatRules Number) (sourceId : String)
    (calls others : List (MetricsCall Number)) :
    callsFor rules sourceId (calls ++ others) =
      callsFor rules sourceId calls ++ callsFor rules sourceId others :=
  List.filter_append _ _

/-- No call of the metrics store records a lock skip. -/
theorem countP_isLockSkip
    (runs : List (StoredCall Value)) (sourceId : String) :
    (callsFor texts.rules sourceId (allMetricCalls texts runs)).countP
        MetricsCall.isLockSkip =
      0 := by
  rw [List.countP_eq_zero]
  intro call member
  rcases List.mem_flatMap.mp (List.mem_of_mem_filter member) with
    ⟨run, _, isReported⟩
  rcases List.mem_map.mp isReported with ⟨metric, _, rfl⟩
  exact Bool.false_ne_true

/-- A call records a skipped run of its source just if it is skipped. -/
theorem countP_skippedRuns
    (run : StoredCall Value) (sourceId : String) :
    (callsFor texts.rules sourceId
          (metricCalls texts
            (leasedRun (recording run.surroundings) run.call).2)).countP
        (MetricsCall.isRun .skipped) =
      if decide (run.call.sourceId = sourceId) &&
          returnsSkip (leasedRun (recording run.surroundings) run.call).1 then
        1
      else 0 := by
  by_cases taken : run.FindsLeaseTaken
  · rcases leasedRun_of_taken taken with ⟨skips, metric, isReport, metrics⟩
    have accepted := isReport.accepted texts
    rcases isReport with ⟨context, readings, isSource, rfl⟩
    rw [skips, Bool.and_true, metricCalls, metrics, callsFor,
      List.map_singleton, List.filter_singleton, accepted, Bool.true_and]
    have source :
        ((terminalMetric (recording run.surroundings) context .skipped
            ((recording run.surroundings).clock.reading 0) readings).call
          texts).sourceId = run.call.sourceId := isSource
    rw [source]
    cases decide (run.call.sourceId = sourceId) <;> rfl
  · rcases leasedRun_of_not_taken taken with ⟨noSkip, isReport⟩
    rw [noSkip, Bool.and_false, if_neg Bool.false_ne_true,
      List.countP_eq_zero]
    intro call member
    rcases List.mem_map.mp (List.mem_of_mem_filter member) with
      ⟨metric, isReported, rfl⟩
    rcases isReport metric isReported with ⟨context, readings, _, rfl⟩
    simp [RunMetric.call, terminalMetric, MetricsCall.isRun,
      operationOutcome_ne_skipped]

/-- A call which is skipped leaves the counter of failed runs as it is. -/
theorem countP_failedRuns_of_skipped
    {run : StoredCall Value}
    (skips :
      returnsSkip (leasedRun (recording run.surroundings) run.call).1 = true)
    (sourceId : String) :
    (callsFor texts.rules sourceId
          (metricCalls texts
            (leasedRun (recording run.surroundings) run.call).2)).countP
        (MetricsCall.isRun .failed) =
      0 := by
  have taken : run.FindsLeaseTaken := by
    by_contra free
    rw [(leasedRun_of_not_taken free).1] at skips
    cases skips
  rcases leasedRun_of_taken taken with
    ⟨_, metric, ⟨context, readings, _, rfl⟩, metrics⟩
  rw [List.countP_eq_zero]
  intro call member
  rcases List.mem_map.mp (List.mem_of_mem_filter member) with
    ⟨other, isReported, rfl⟩
  rw [metrics] at isReported
  rw [List.mem_singleton.mp isReported]
  exact Bool.false_ne_true

/-- The skipped runs are the calls which were skipped. -/
theorem countP_allSkippedRuns
    (runs : List (StoredCall Value)) (sourceId : String) :
    (callsFor texts.rules sourceId (allMetricCalls texts runs)).countP
        (MetricsCall.isRun .skipped) =
      skipsOf sourceId (executeAll texts runs .empty).1 := by
  rw [executeAll_empty]
  induction runs with
  | nil => rfl
  | cons run rest induction =>
      rw [allMetricCalls, List.flatMap_cons, callsFor_append,
        List.countP_append, countP_skippedRuns, skipsOf, List.map_cons,
        List.countP_cons]
      exact (congrArg _ induction).trans (Nat.add_comm _ _)

/-! ## The page and the calls -/

/-- A call returns that it was skipped just if it finds its lease taken. -/
theorem returnsSkip_iff (run : StoredCall Value) :
    returnsSkip (leasedRun (recording run.surroundings) run.call).1 = true ↔
      run.FindsLeaseTaken := by
  by_cases taken : run.FindsLeaseTaken
  · exact iff_of_true (leasedRun_of_taken taken).1 taken
  · apply iff_of_false _ taken
    rw [(leasedRun_of_not_taken taken).1]
    exact Bool.false_ne_true

/-- There are no skips of a source just if no call finds its lease taken. -/
theorem skipsOf_eq_zero_iff
    (runs : List (StoredCall Value)) (sourceId : String) :
    skipsOf sourceId (executeAll texts runs .empty).1 = 0 ↔
      ∀ run ∈ runs, run.call.sourceId = sourceId → ¬ run.FindsLeaseTaken := by
  rw [executeAll_empty, skipsOf, List.countP_map, List.countP_eq_zero]
  apply forall₂_congr
  intro run member
  rw [Function.comp_apply, Bool.and_eq_true, decide_eq_true_eq, not_and,
    returnsSkip_iff]

/-- A skipped call leaves the failed runs of every source as they are. -/
theorem showsFailed_execute_iff
    (earlier : List (StoredCall Value)) (run : StoredCall Value)
    (skips :
      returnsSkip
          (run.execute texts (executeAll texts earlier .empty).2).1 =
        true)
    (sourceId : String) (count : ℕ) :
    ShowsFailed (run.execute texts (executeAll texts earlier .empty).2).2
        sourceId count ↔
      ShowsFailed (executeAll texts earlier .empty).2 sourceId count := by
  rw [executeAll_empty, execute_storeAfter] at skips ⊢
  rw [showsFailed_iff, showsFailed_iff, callsFor_append, List.countP_append,
    countP_failedRuns_of_skipped texts skips, Nat.add_zero]

/--
Skipped overlaps are counted just for the sources none of whose calls finds
its lease taken.
-/
theorem skipsCounted_iff
    (runs : List (StoredCall Value)) (sourceId : String) :
    SkipsCounted texts runs sourceId ↔
      ∀ run ∈ runs, run.call.sourceId = sourceId →
        ¬ run.FindsLeaseTaken := by
  rw [← skipsOf_eq_zero_iff texts]
  constructor
  · rintro ⟨lockSkips, _, _⟩
    rw [executeAll_empty texts runs, showsCount_lockSkips_iff,
      countP_isLockSkip, ← executeAll_empty texts runs] at lockSkips
    exact lockSkips
  · intro noSkips
    constructor
    · rw [noSkips, executeAll_empty, showsCount_lockSkips_iff,
        countP_isLockSkip]
    · rw [← countP_allSkippedRuns, executeAll_empty,
        showsCount_skippedRuns_iff]
    · intro earlier run _ store skips count
      exact showsFailed_execute_iff texts earlier run skips sourceId count

end Calls

/-! ## Examples -/

/-- Whole seconds, written as floats. -/
def wholeSeconds : SecondTexts where
  text seconds := wholeFloats.text ⌊seconds⌋
  timestamp _ := 0
  isValue_text seconds := wholeFloats.isValue_text ⌊seconds⌋

/-- A call whose lease is held by another worker. -/
def overlappingCall : StoredCall ℕ :=
  ⟨demoCall, { returning fun _ => .ok () with acquires := .ok false }, rfl⟩

/-- One skipped call is no lock skip on the page. -/
theorem not_skipsCounted_overlappingCall :
    ¬ SkipsCounted wholeSeconds [overlappingCall] "demo" := by
  rintro ⟨lockSkips, _, _⟩
  rw [executeAll_empty, showsCount_lockSkips_iff, countP_isLockSkip]
    at lockSkips
  have one :
      skipsOf "demo"
          ([overlappingCall].map fun run =>
            (run.call.sourceId,
              (leasedRun (recording run.surroundings) run.call).1)) =
        1 := by
    decide +kernel
  rw [one] at lockSkips
  cases lockSkips

end MultisiteCrawler.Tasks
