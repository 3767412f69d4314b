import MultisiteCrawler.Alerts.Evaluator
import MultisiteCrawler.BrowserRuntime.ManagedEdge
import MultisiteCrawler.Config.Sources
import MultisiteCrawler.Metrics.Ledger
import MultisiteCrawler.Snapshots.FailureSnapshots
import MultisiteCrawler.Tasks.TerminalOutcome

/-!
# Configured source ids

Which of the source ids that a configuration accepts are accepted wherever a
source is named at run time.  A configuration refuses blank ids only.  Run
contexts, metrics, alerts and snapshots want `[a-z0-9_-]+`, and failure
artifacts want `[a-z0-9_]+`.

A component accepts an id if its calls for this id succeed as long as nothing
else fails: their other arguments are accepted, and what they call does not
raise.
-/

namespace MultisiteCrawler.Config

open Alerts
open BrowserArtifacts
open Foundation.Interaction
open Foundation.Interaction.Program (Handler)
open Foundation.JsonText
open Foundation.PythonErrors
open Foundation.PythonText
open Foundation.PythonUrls
open Locking
open Metrics
open Observability
open Snapshots
open Tasks

/-! ## Calls for a source -/

/-- A Redis client which answers every command. -/
structure Answers {State : Type}
    (handler : Handler MetricsCommand MetricsCommand.Reply State) : Prop where
  hincrby : ∀ name key amount state, ∃ reply : ℤ,
    (handler (.hincrby name key amount) state).1 = .ok reply
  hset : ∀ name key value state, ∃ reply : ℤ,
    (handler (.hset name key value) state).1 = .ok reply
  sadd : ∀ name value state, ∃ reply : ℤ,
    (handler (.sadd name value) state).1 = .ok reply

/-- Nothing a leased run uses raises, and its other arguments are accepted. -/
structure Cooperates {Value : Type} (surroundings : Surroundings Value)
    (call : LeasedCall) : Prop where
  taskId : matchesTaskId call.taskId = true
  ttlSeconds : 0 < call.ttlSeconds
  acquires : ∃ acquired, surroundings.acquires = .ok acquired
  heartbeat : HeartbeatStarts surroundings call
  operation : ∃ value, surroundings.operation = .ok value
  recordRun : ∀ earlier, surroundings.recordRun earlier = .ok ()
  releases : ∃ released, surroundings.releases = .ok released

/-- Every component which is keyed by the source id accepts it. -/
structure UsableEverywhere (sourceId : String) : Prop where
  runContext : ∀ (crawlRunId : RunIdentifier) (taskId : String),
    matchesTaskId taskId = true →
      ∃ context, runContext sourceId crawlRunId taskId = .ok context
  leasedRun : ∀ (Value : Type) (surroundings : Surroundings Value)
      (call : LeasedCall),
    call.sourceId = sourceId → Cooperates surroundings call →
      ∃ result, (leasedRun surroundings call).1 = .ok result
  metrics : ∀ (Number State : Type) (rules : FloatRules Number)
      (call : MetricsCall Number)
      (handler : Handler MetricsCommand MetricsCommand.Reply State)
      (state : State),
    call.sourceId = sourceId → call.inRange rules = true →
      Answers handler →
        ((call.program rules).run handler state).1 = .ok ()
  alerts : ∀ (Ratio : Type) [LE Ratio] [DecidableLE Ratio]
      (thresholds : AlertThresholds Ratio) (call : AlertCall Ratio)
      (store : AlertStore),
    call.sourceId = sourceId →
      ∃ events, ((evaluate thresholds call).run reliable store).1 =
        .ok events
  snapshots : ∀ (Object : Type) (rules : UrlRules)
      (writer : FailureSnapshotWriter) (request : SnapshotRequest Object)
      (body : Json),
    request.sourceId = sourceId →
      redactValue rules none request.body = .ok body →
        (encodeSnapshot (allowedHeaders rules request.headers) body).size ≤
            writer.maxBytes →
          ∃ file, writer.write rules request = .ok file
  artifacts : ∀ (surroundings : WriterSurroundings)
      (safeHtml : Option String) (screenshot : Option (List UInt8)),
    FragmentWritten surroundings sourceId safeHtml →
      ScreenshotWritten surroundings sourceId screenshot →
        ∃ artifact,
          writeFailure surroundings sourceId safeHtml screenshot =
            .ok artifact

/-! ## Accepted ids -/

theorem matchesSourceId_of_matchesArtifactSource
    {sourceId : String} (accepted : matchesArtifactSource sourceId = true) :
    matchesSourceId sourceId = true := by
  rw [matchesArtifactSource, fullmatch_iff] at accepted
  rw [matchesSourceId, fullmatch_iff]
  refine ⟨accepted.1, fun character member => ?_⟩
  have isAccepted := accepted.2 character member
  simp only [isArtifactSourceChar, Bool.or_eq_true, beq_iff_eq] at isAccepted
  simp only [isLower, isDigit, List.contains_cons, List.contains_nil,
    Bool.or_false, Bool.or_eq_true, beq_iff_eq]
  rcases isAccepted with letter | rfl
  · exact Or.inl letter
  · exact Or.inr (Or.inl rfl)

section Metrics

variable {State : Type}
  {handler : Handler MetricsCommand MetricsCommand.Reply State}

/-- A client which answers takes any updates. -/
theorem run_performUpdates
    (answers : Answers handler) (key : String) (updates : List FieldUpdate)
    (state : State) :
    ((performUpdates key updates).run handler state).1 = .ok () := by
  induction updates generalizing state with
  | nil => rfl
  | cons update rest induction =>
      cases update with
      | add field amount =>
          rcases answers.hincrby key field amount state with ⟨reply, replied⟩
          rw [performUpdates_add, Program.run_bind,
            MetricsProgram.hincrby, Program.run_perform, replied,
            Program.run_ofOutcome]
          exact induction _
      | put field text =>
          rcases answers.hset key field text state with ⟨reply, replied⟩
          rw [performUpdates_put, Program.run_bind, MetricsProgram.hset,
            Program.run_perform, replied, Program.run_ofOutcome]
          exact induction _

/-- A client which answers takes any accepted call. -/
theorem run_of_accepted
    {Number : Type} {rules : FloatRules Number} {call : MetricsCall Number}
    (answers : Answers handler) (accepted : call.accepted rules = true)
    (state : State) :
    ((call.program rules).run handler state).1 = .ok () := by
  rcases answers.sadd sourcesKey call.sourceId state with ⟨reply, replied⟩
  rw [program_of_accepted rules accepted, Program.run_bind, register,
    Program.run_bind, MetricsProgram.sadd, Program.run_perform, replied,
    Program.run_ofOutcome]
  exact run_performUpdates answers _ _ _

end Metrics

section LeasedRuns

variable {Value : Type} {surroundings : Surroundings Value}
  {call : LeasedCall} {context : RunContext} {lease : RedisLease}

theorem Cooperates.firstRecord_eq
    (cooperates : Cooperates surroundings call) :
    firstRecord surroundings call = .ok () := by
  rw [firstRecord]
  split_ifs
  · exact cooperates.recordRun 0
  · rfl

/-- A run which gets its lease returns what its operation returns. -/
theorem exists_result_of_held
    (cooperates : Cooperates surroundings call)
    (isContext :
      runContext call.sourceId surroundings.crawlRunId call.taskId =
        .ok context)
    (isLease :
      RedisLease.create (sourceLockKey call.sourceId) call.ttlSeconds
          none surroundings.token =
        .ok lease)
    (held : surroundings.acquires = .ok true) :
    ∃ result, (leasedRun surroundings call).1 = .ok result := by
  rcases cooperates.heartbeat with ⟨⟨interval, isInterval⟩, starts⟩
  rcases cooperates.operation with ⟨value, returns⟩
  rcases cooperates.releases with ⟨released, gaveBack⟩
  rcases run_attempt_ok surroundings call { readings := 1, acquired := true }
      (crawlRunId_runContext isContext) rfl returns
      cooperates.firstRecord_eq with
    ⟨_, _, _, _, _, _, tried⟩
  refine ⟨.value value, ?_⟩
  rw [leasedRun_of_held surroundings isContext isLease held,
    Program.run_bind, Program.run_ofOutcome, isInterval]
  dsimp only
  rw [Program.run_bind, run_startHeartbeat, starts]
  dsimp only
  rw [Program.run_tryFinally, tried, run_giveBack, gaveBack]
  rfl

/-- A run which does not get its lease is skipped. -/
theorem exists_result_of_refused
    (cooperates : Cooperates surroundings call)
    (isContext :
      runContext call.sourceId surroundings.crawlRunId call.taskId =
        .ok context)
    (isLease :
      RedisLease.create (sourceLockKey call.sourceId) call.ttlSeconds none
          surroundings.token =
        .ok lease)
    (refused : surroundings.acquires = .ok false) :
    ∃ result, (leasedRun surroundings call).1 = .ok result := by
  rcases leasedRun_of_refused surroundings isContext isLease refused with
    ⟨skipped, _⟩
  rw [cooperates.firstRecord_eq] at skipped
  exact ⟨.skippedOverlap, skipped⟩

/-- A run for an accepted id does not raise if nothing it uses does. -/
theorem leasedRun_of_cooperates
    (cooperates : Cooperates surroundings call)
    (accepted : matchesSourceId call.sourceId = true) :
    ∃ result, (leasedRun surroundings call).1 = .ok result := by
  have isContext :=
    runContext_of_matches surroundings.crawlRunId accepted cooperates.taskId
  have isLease :
      RedisLease.create (sourceLockKey call.sourceId) call.ttlSeconds none
          surroundings.token =
        .ok ⟨_, _, _, cooperates.ttlSeconds⟩ :=
    dif_pos cooperates.ttlSeconds
  rcases cooperates.acquires with ⟨acquired, reply⟩
  cases acquired with
  | true => exact exists_result_of_held cooperates isContext isLease reply
  | false =>
      exact exists_result_of_refused cooperates isContext isLease reply

end LeasedRuns

/-- A snapshot of an accepted source is written if it is not too large. -/
theorem exists_snapshot
    {Object : Type} {rules : UrlRules} {writer : FailureSnapshotWriter}
    {request : SnapshotRequest Object} {body : Json}
    (accepted : matchesSourceId request.sourceId = true)
    (redacted : redactValue rules none request.body = .ok body)
    (small :
      (encodeSnapshot (allowedHeaders rules request.headers) body).size ≤
        writer.maxBytes) :
    ∃ file, writer.write rules request = .ok file := by
  rw [FailureSnapshotWriter.write, if_pos accepted, redacted, ok_bind,
    FailureSnapshotWriter.store, if_neg (not_lt.mpr small)]
  exact ⟨_, rfl⟩

/-! ## Usable ids -/

/-- There is a failure which the writer refuses for its source id only. -/
theorem fragmentWritten_demo (sourceId : String) :
    FragmentWritten BrowserRuntime.demoWriter sourceId
      (some "<table>ok</table>") := by
  have fragment : strip "<table>ok</table>" = "<table>ok</table>" := by
    decide +kernel
  refine ⟨_, BrowserRuntime.demoEvents, rfl, ?_, rfl, by decide, rfl⟩
  rw [fragment]
  decide

/-- Exactly the ids which the artifact writer accepts are usable everywhere. -/
theorem usableEverywhere_iff_matches (sourceId : String) :
    UsableEverywhere sourceId ↔ matchesArtifactSource sourceId = true := by
  constructor
  · intro usable
    rcases usable.artifacts BrowserRuntime.demoWriter (some "<table>ok</table>")
        none (fragmentWritten_demo sourceId) nofun with
      ⟨artifact, written⟩
    exact ((writeFailure_isOk_iff _ _ _).mp ⟨artifact, written⟩).source
  · intro artifactSource
    have accepted := matchesSourceId_of_matchesArtifactSource artifactSource
    constructor
    · intro crawlRunId taskId isTask
      exact ⟨_, runContext_of_matches crawlRunId accepted isTask⟩
    · rintro Value surroundings call rfl cooperates
      exact leasedRun_of_cooperates cooperates accepted
    · rintro Number State rules call handler state rfl inRange answers
      refine run_of_accepted answers ?_ state
      rw [MetricsCall.accepted, accepted, inRange]
      rfl
    · rintro Ratio _ _ thresholds call store rfl
      rcases run_evaluate thresholds call accepted store with
        ⟨after, evaluated, _⟩
      exact ⟨_, congrArg Prod.fst evaluated⟩
    · rintro Object rules writer request body rfl redacted small
      exact exists_snapshot accepted redacted small
    · intro surroundings safeHtml screenshot fragment isPng
      exact (writeFailure_isOk_iff _ _ _).mpr
        ⟨artifactSource, fragment, isPng⟩

/--
The source ids of a configuration are usable everywhere exactly if all of them
match `[a-z0-9_]+`.
-/
theorem usableEverywhere_iff (config : CrawlerConfig) :
    (∀ source ∈ config.sources, UsableEverywhere source.id) ↔
      ∀ source ∈ config.sources, matchesArtifactSource source.id = true :=
  forall₂_congr fun source _ => usableEverywhere_iff_matches source.id

/-- A configuration whose source id contains a hyphen. -/
def hyphenConfig : CrawlerConfig where
  sources := [Scheduler.minuteSource "demo-api" (by decide) (by decide)]
  sources_length := by decide
  sources_accepted := by rfl

/-- Its failure artifacts cannot be written. -/
theorem not_usableEverywhere_hyphen :
    ¬ ∀ config : CrawlerConfig, ∀ source ∈ config.sources,
      UsableEverywhere source.id := by
  intro usable
  have accepted :=
    (usableEverywhere_iff_matches "demo-api").mp
      (usable hyphenConfig _ (List.mem_singleton_self _))
  revert accepted
  decide

end MultisiteCrawler.Config
