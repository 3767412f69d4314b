import MultisiteCrawler.Config.Sources
import MultisiteCrawler.Observability.RunEvents
import MultisiteCrawler.Scheduler.Operations
import MultisiteCrawler.Scheduler.Schedule

/-!
# Scheduler cycles

One pass of the scheduler service over its configured sources.  The pass asks
the service to tick every source, logs an event for every tick which raises
and returns these failures.  What the ticks do, the clock and the run
identifiers are arbitrary; a tick may depend on the ticks before it.

The event is built inside the handler of the tick's exception, and its context
accepts fewer source ids than the configuration does.
-/

namespace MultisiteCrawler.Scheduler

open Config
open Foundation.AwareTime
open Foundation.CivilTime
open Foundation.Interaction
open Foundation.Interaction.Program (Handler)
open Foundation.PythonErrors
open Foundation.PythonText
open Observability

/-! ## The cycle -/

/-- The schedule fields the scheduler loop needs. -/
structure ScheduledSource where
  sourceId : String
  intervalSeconds : ℤ
  queue : QueueName
deriving DecidableEq

/-- One source failure isolated during a cycle. -/
structure SchedulerCycleFailure where
  sourceId : String
  error : PyError
deriving DecidableEq

/-- `configured_sources`. -/
def configuredSources (config : CrawlerConfig) : List ScheduledSource :=
  (config.sources.filter SourceConfig.enabled).map fun source =>
    ⟨source.id, source.intervalSeconds, source.queue⟩

/-- What a cycle asks of its surroundings. -/
inductive CycleCommand where
  | tick (sourceId : String) (current : NaiveDateTime)
  | monotonic
  | uuid4
  | log (level : LogLevel) (event : RunEvent)

/-- What the surroundings reply. -/
abbrev CycleCommand.Reply : CycleCommand → Type
  | .tick _ _ => Except PyError Bool
  | .monotonic => ℚ
  | .uuid4 => RunIdentifier
  | .log _ _ => Unit

/-- Programs of the scheduler loop. -/
abbrev CycleProgram := Program CycleCommand CycleCommand.Reply PyError

namespace CycleProgram

/-- `service.tick`, which may raise. -/
def tick (sourceId : String) (current : NaiveDateTime) :
    CycleProgram Bool :=
  .perform (.tick sourceId current) Program.ofOutcome

/-- `monotonic`. -/
def monotonic : CycleProgram ℚ :=
  .perform .monotonic .done

/-- `uuid4`. -/
def uuid4 : CycleProgram RunIdentifier :=
  .perform .uuid4 .done

/-- `emit_run_event`. -/
def emitRunEvent (event : RunEvent) : CycleProgram Unit :=
  .perform (.log (eventLevel event) event) .done

end CycleProgram

/-- The handler of the exception of a tick. -/
def reportFailure (source : ScheduledSource) (startedAt : ℚ)
    (error : PyError) : CycleProgram SchedulerCycleFailure := do
  let crawlRunId ← CycleProgram.uuid4
  let context ←
    Program.ofOutcome (runContext source.sourceId crawlRunId "scheduler")
  let endedAt ← CycleProgram.monotonic
  let event ←
    Program.ofOutcome
      (runEvent "scheduler_tick_failed" context .failed
        (some (endedAt - startedAt)) none (some error))
  CycleProgram.emitRunEvent event
  pure ⟨source.sourceId, error⟩

/-- The body of the loop: the failures one source adds. -/
def tickSource (current : NaiveDateTime) (source : ScheduledSource) :
    CycleProgram (List SchedulerCycleFailure) := do
  let startedAt ← CycleProgram.monotonic
  let ticked : CycleProgram (List SchedulerCycleFailure) := do
    let _ ← CycleProgram.tick source.sourceId current
    pure []
  ticked.tryCatch fun error => do
    let failure ← reportFailure source startedAt error
    pure [failure]

/-- `run_cycle`. -/
def runCycle (current : NaiveDateTime) :
    List ScheduledSource → CycleProgram (List SchedulerCycleFailure)
  | [] => pure []
  | source :: rest => do
      let first ← tickSource current source
      let others ← runCycle current rest
      pure (first ++ others)

/-! ## Its surroundings -/

/-- How a tick ends, given the source ids ticked before it. -/
abbrev TickBehaviour :=
  List String → String → NaiveDateTime → Except PyError Bool

/-- Successive readings of `monotonic`, which never go back. -/
structure MonotonicClock where
  reading : ℕ → ℚ
  monotone : Monotone reading

/-- What a cycle has done so far. -/
structure CycleState where
  ticked : List String := []
  readings : ℕ := 0
  identifiers : ℕ := 0
  events : List (LogLevel × RunEvent) := []

variable (tick : TickBehaviour) (clock : MonotonicClock)
variable (uuid : ℕ → RunIdentifier)

/-- The surroundings of a cycle. -/
def cycleHandler : Handler CycleCommand CycleCommand.Reply CycleState
  | .tick sourceId current, state =>
      (tick state.ticked sourceId current,
        { state with ticked := state.ticked ++ [sourceId] })
  | .monotonic, state =>
      (clock.reading state.readings,
        { state with readings := state.readings + 1 })
  | .uuid4, state =>
      (uuid state.identifiers,
        { state with identifiers := state.identifiers + 1 })
  | .log level event, state =>
      ((), { state with events := state.events ++ [(level, event)] })

/-- A cycle over the sources from its beginning. -/
def cycleRun (current : NaiveDateTime) (sources : List ScheduledSource) :
    Except PyError (List SchedulerCycleFailure) × CycleState :=
  (runCycle current sources).run (cycleHandler tick clock uuid) {}

@[simp]
theorem run_tick
    (sourceId : String) (current : NaiveDateTime) (state : CycleState) :
    (CycleProgram.tick sourceId current).run
        (cycleHandler tick clock uuid) state =
      (tick state.ticked sourceId current,
        { state with ticked := state.ticked ++ [sourceId] }) :=
  Program.run_ofOutcome _ _ _

@[simp]
theorem run_monotonic (state : CycleState) :
    CycleProgram.monotonic.run (cycleHandler tick clock uuid) state =
      (.ok (clock.reading state.readings),
        { state with readings := state.readings + 1 }) := rfl

@[simp]
theorem run_uuid4 (state : CycleState) :
    CycleProgram.uuid4.run (cycleHandler tick clock uuid) state =
      (.ok (uuid state.identifiers),
        { state with identifiers := state.identifiers + 1 }) := rfl

@[simp]
theorem run_emitRunEvent (event : RunEvent) (state : CycleState) :
    (CycleProgram.emitRunEvent event).run (cycleHandler tick clock uuid)
        state =
      (.ok (),
        { state with
          events := state.events ++ [(eventLevel event, event)] }) := rfl

/-! ## One source -/

section OneSource

variable (current : NaiveDateTime) (source : ScheduledSource)
variable (state : CycleState)

/-- A tick which returns adds no failure. -/
theorem run_tickSource_ok
    {dispatched : Bool}
    (returns :
      tick state.ticked source.sourceId current = .ok dispatched) :
    (tickSource current source).run (cycleHandler tick clock uuid) state =
      (.ok [],
        { state with
          ticked := state.ticked ++ [source.sourceId]
          readings := state.readings + 1 }) := by
  simp [tickSource, Program.run_bind, Program.run_tryCatch, returns]

/-- A tick which raises is reported if the source id is accepted. -/
theorem run_tickSource_reported
    {error : PyError}
    (raises : tick state.ticked source.sourceId current = .error error)
    (sourceMatches : matchesSourceId source.sourceId = true) :
    ∃ event : RunEvent,
      event.context.sourceId = source.sourceId ∧
        event.exception = some error ∧
        (tickSource current source).run (cycleHandler tick clock uuid)
            state =
          (.ok [⟨source.sourceId, error⟩],
            { ticked := state.ticked ++ [source.sourceId]
              readings := state.readings + 2
              identifiers := state.identifiers + 1
              events := state.events ++ [(.error, event)] }) := by
  have contextBuilt :=
    runContext_of_matches (uuid state.identifiers) sourceMatches
      (by decide : matchesTaskId "scheduler" = true)
  have durationNonneg :
      ∀ duration ∈
          some
            (clock.reading (state.readings + 1) -
              clock.reading state.readings),
        0 ≤ duration := by
    rintro duration ⟨⟩
    exact sub_nonneg.mpr (clock.monotone (Nat.le_succ _))
  have countNonneg : ∀ count ∈ (none : Option ℤ), 0 ≤ count := by
    rintro count ⟨⟩
  rcases exists_runEvent
      ⟨source.sourceId, uuid state.identifiers, "scheduler", sourceMatches,
        by decide⟩
      .failed (some error)
      (by decide : matchesEventName "scheduler_tick_failed" = true)
      durationNonneg countNonneg with
    ⟨event, eventBuilt, sameContext, isFailed, sameException⟩
  refine ⟨event, by rw [sameContext], sameException, ?_⟩
  simp [tickSource, reportFailure, Program.run_bind, Program.run_tryCatch,
    raises, contextBuilt, eventBuilt, eventLevel, isFailed]

/-- The handler itself raises if the source id is not accepted. -/
theorem run_tickSource_refused
    {error : PyError}
    (raises : tick state.ticked source.sourceId current = .error error)
    (refused : ¬ matchesSourceId source.sourceId = true) :
    (tickSource current source).run (cycleHandler tick clock uuid) state =
      (.error (.value "source_id must match [a-z0-9_-]+"),
        { state with
          ticked := state.ticked ++ [source.sourceId]
          readings := state.readings + 1
          identifiers := state.identifiers + 1 }) := by
  simp [tickSource, reportFailure, Program.run_bind, Program.run_tryCatch,
    raises, runContext_of_not_matches _ _ refused]

end OneSource

/-! ## All sources -/

/-- The failures of ticking every source in order. -/
def raised (current : NaiveDateTime) :
    List String → List ScheduledSource → List SchedulerCycleFailure
  | _, [] => []
  | ticked, source :: rest =>
      match tick ticked source.sourceId current with
      | .ok _ => raised current (ticked ++ [source.sourceId]) rest
      | .error error =>
          ⟨source.sourceId, error⟩ ::
            raised current (ticked ++ [source.sourceId]) rest

/-- Ticking the sources in order, the tick of this source raises. -/
def Raises (current : NaiveDateTime) (ticked : List String)
    (sources : List ScheduledSource) (source : ScheduledSource)
    (error : PyError) : Prop :=
  ∃ before after,
    sources = before ++ source :: after ∧
      tick (ticked ++ before.map ScheduledSource.sourceId) source.sourceId
          current =
        .error error

/-- All failures have source ids which a run context accepts. -/
def Reportable (failures : List SchedulerCycleFailure) : Prop :=
  ∀ failure ∈ failures, matchesSourceId failure.sourceId = true

variable {tick clock uuid}

theorem raises_cons_iff
    (current : NaiveDateTime) (ticked : List String)
    (first : ScheduledSource) (rest : List ScheduledSource)
    (source : ScheduledSource) (error : PyError) :
    Raises tick current ticked (first :: rest) source error ↔
      (source = first ∧ tick ticked first.sourceId current = .error error) ∨
        Raises tick current (ticked ++ [first.sourceId]) rest source
          error := by
  constructor
  · rintro ⟨before, after, shape, raises⟩
    cases before with
    | nil =>
        rw [List.nil_append, List.cons.injEq] at shape
        rcases shape with ⟨rfl, rfl⟩
        rw [List.map_nil, List.append_nil] at raises
        exact Or.inl ⟨rfl, raises⟩
    | cons other before =>
        rw [List.cons_append, List.cons.injEq] at shape
        rcases shape with ⟨rfl, rfl⟩
        refine Or.inr ⟨before, after, rfl, ?_⟩
        rw [List.append_assoc]
        exact raises
  · rintro (⟨rfl, raises⟩ | ⟨before, after, rfl, raises⟩)
    · refine ⟨[], rest, rfl, ?_⟩
      rw [List.map_nil, List.append_nil]
      exact raises
    · refine ⟨first :: before, after, rfl, ?_⟩
      rw [List.append_assoc] at raises
      exact raises

/-- Exactly the ticks which raise are among the failures. -/
theorem mem_raised_iff
    (current : NaiveDateTime) (ticked : List String)
    (sources : List ScheduledSource) (failure : SchedulerCycleFailure) :
    failure ∈ raised tick current ticked sources ↔
      ∃ source,
        Raises tick current ticked sources source failure.error ∧
          source.sourceId = failure.sourceId := by
  induction sources generalizing ticked with
  | nil => simp [raised, Raises]
  | cons first rest induction =>
      rw [raised]
      cases outcome : tick ticked first.sourceId current with
      | ok dispatched =>
          simp [induction, raises_cons_iff, outcome]
      | error error =>
          rw [List.mem_cons, induction]
          constructor
          · rintro (rfl | ⟨source, raises, same⟩)
            · exact ⟨first, (raises_cons_iff _ _ _ _ _ _).mpr
                (Or.inl ⟨rfl, outcome⟩), rfl⟩
            · exact ⟨source, (raises_cons_iff _ _ _ _ _ _).mpr
                (Or.inr raises), same⟩
          · rintro ⟨source, raises, same⟩
            rcases (raises_cons_iff _ _ _ _ _ _).mp raises with
              ⟨rfl, isError⟩ | later
            · left
              rw [outcome] at isError
              cases isError
              cases failure
              cases same
              rfl
            · exact Or.inr ⟨source, later, same⟩

theorem reportable_raised_iff
    (current : NaiveDateTime) (sources : List ScheduledSource) :
    Reportable (raised tick current [] sources) ↔
      ∀ source error, Raises tick current [] sources source error →
        matchesSourceId source.sourceId = true := by
  constructor
  · intro reportable source error raises
    exact reportable ⟨source.sourceId, error⟩
      ((mem_raised_iff _ _ _ _).mpr ⟨source, raises, rfl⟩)
  · intro accepted failure member
    rcases (mem_raised_iff _ _ _ _).mp member with ⟨source, raises, same⟩
    rw [← same]
    exact accepted source failure.error raises

/-- A cycle whose failures can all be reported ticks every source. -/
theorem run_runCycle_of_reportable
    (current : NaiveDateTime) (sources : List ScheduledSource)
    (state : CycleState)
    (reportable : Reportable (raised tick current state.ticked sources)) :
    ∃ final : CycleState,
      (runCycle current sources).run (cycleHandler tick clock uuid) state =
          (.ok (raised tick current state.ticked sources), final) ∧
        final.ticked =
          state.ticked ++ sources.map ScheduledSource.sourceId := by
  induction sources generalizing state with
  | nil => exact ⟨state, rfl, by simp⟩
  | cons source rest induction =>
      unfold raised at reportable ⊢
      cases outcome : tick state.ticked source.sourceId current with
      | ok dispatched =>
          simp only [outcome] at reportable
          have first :=
            run_tickSource_ok tick clock uuid current source state outcome
          rcases induction { state with
              ticked := state.ticked ++ [source.sourceId]
              readings := state.readings + 1 } reportable with
            ⟨final, others, ticked⟩
          refine ⟨final, ?_, ?_⟩
          · simp [runCycle, Program.run_bind, first, others]
          · simp [ticked]
      | error error =>
          simp only [outcome] at reportable
          have sourceMatches := reportable _ List.mem_cons_self
          rcases run_tickSource_reported tick clock uuid current source state
              outcome sourceMatches with
            ⟨event, _, _, first⟩
          rcases induction
              { ticked := state.ticked ++ [source.sourceId]
                readings := state.readings + 2
                identifiers := state.identifiers + 1
                events := state.events ++ [(.error, event)] }
              (fun failure member =>
                reportable failure (List.mem_cons_of_mem _ member)) with
            ⟨final, others, ticked⟩
          refine ⟨final, ?_, ?_⟩
          · simp [runCycle, Program.run_bind, first, others]
          · simp [ticked]

/-- A cycle which returns could report all failures. -/
theorem reportable_of_run_runCycle
    (current : NaiveDateTime) (sources : List ScheduledSource)
    (state final : CycleState) (failures : List SchedulerCycleFailure)
    (returns :
      (runCycle current sources).run (cycleHandler tick clock uuid) state =
        (.ok failures, final)) :
    Reportable (raised tick current state.ticked sources) := by
  induction sources generalizing state final failures with
  | nil =>
      intro failure member
      cases member
  | cons source rest induction =>
      rw [runCycle, Program.run_bind] at returns
      unfold raised
      cases outcome : tick state.ticked source.sourceId current with
      | ok dispatched =>
          rw [run_tickSource_ok tick clock uuid current source state outcome]
            at returns
          dsimp only at returns ⊢
          rw [Program.run_bind] at returns
          split at returns
          · rename_i others after isRest
            exact induction _ _ _ isRest
          · cases returns
      | error error =>
          by_cases sourceMatches : matchesSourceId source.sourceId = true
          · rcases run_tickSource_reported tick clock uuid current source
                state outcome sourceMatches with
              ⟨event, _, _, first⟩
            rw [first] at returns
            dsimp only at returns ⊢
            rw [Program.run_bind] at returns
            split at returns
            · rename_i others after isRest
              intro failure member
              rcases List.mem_cons.mp member with rfl | later
              · exact sourceMatches
              · exact induction _ _ _ isRest failure later
            · cases returns
          · rw [run_tickSource_refused tick clock uuid current source state
              outcome sourceMatches] at returns
            cases returns

/-! ## Isolation -/

theorem nodup_configuredSources (config : CrawlerConfig) :
    ((configuredSources config).map ScheduledSource.sourceId).Nodup := by
  rw [configuredSources, List.map_map]
  exact config.nodup_ids.sublist (List.filter_sublist.map _)

variable (tick) in
/--
No failing source stops the others: the cycle returns, every source is ticked
once and in order, and the failures are exactly those of the ticks.
-/
structure Isolates (current : NaiveDateTime)
    (sources : List ScheduledSource)
    (result : Except PyError (List SchedulerCycleFailure) × CycleState) :
    Prop where
  returns : result.1 = .ok (raised tick current [] sources)
  ticks : result.2.ticked = sources.map ScheduledSource.sourceId
  once : result.2.ticked.Nodup

variable (tick clock uuid) in
/--
A cycle over the enabled sources of a configuration isolates its failures
exactly if every source whose tick raises has an id which a run context
accepts.
-/
theorem isolates_iff (config : CrawlerConfig) (current : NaiveDateTime) :
    Isolates tick current (configuredSources config)
        (cycleRun tick clock uuid current (configuredSources config)) ↔
      ∀ source error,
        Raises tick current [] (configuredSources config) source error →
          matchesSourceId source.sourceId = true := by
  rw [← reportable_raised_iff]
  constructor
  · intro isolates
    exact reportable_of_run_runCycle current (configuredSources config) {}
      _ _ (Prod.ext isolates.returns rfl)
  · intro reportable
    rcases run_runCycle_of_reportable current (configuredSources config) {}
        reportable with
      ⟨final, result, ticked⟩
    have ticks :
        final.ticked =
          (configuredSources config).map ScheduledSource.sourceId := ticked
    unfold cycleRun
    rw [result]
    refine ⟨rfl, ticks, ?_⟩
    rw [ticks]
    exact nodup_configuredSources config

/-! ## A cycle stopped by a source id -/

/-- The store after ticks of the service. -/
def storeAfter (answer : DispatchCallback) (current : NaiveDateTime)
    (store : SchedulerStore) (ticked : List String) : SchedulerStore :=
  ticked.foldl
    (fun store sourceId =>
      (runOperation answer (.tick sourceId current) store).2)
    store

/-- How the ticks of the service end. -/
def serviceTick (answer : DispatchCallback) (store : SchedulerStore) :
    TickBehaviour :=
  fun ticked sourceId current =>
    ((Scheduler.tick sourceId current).run (storeHandler answer)
      (storeAfter answer current store ticked)).1

/-- An enabled source which is polled every minute. -/
def minuteSource (id : String) (id_length : 1 ≤ id.length)
    (id_accepted : rejectBlankText id = .ok id) : SourceConfig where
  id := id
  name := "Demo"
  enabled := true
  mode := .polling
  intervalSeconds := 60
  queue := .http
  id_length := id_length
  name_length := by decide
  intervalSeconds_ge := minute_accepted
  id_accepted := id_accepted
  name_accepted := by decide

/-- The tick of a due source ends as the dispatch callback does. -/
theorem serviceTick_of_due
    {answer : DispatchCallback} {store : SchedulerStore} {sourceId : String}
    {current : NaiveDateTime} {schedule advanced : Schedule}
    (stored : store.values (stateKey sourceId) = some schedule.text)
    (due : schedule.due current = true)
    (isAdvanced : schedule.advance current = some advanced) :
    serviceTick answer store [] sourceId current =
      (answer store.events sourceId).map fun _ => true := by
  have decision :
      tickDecision sourceId current (some schedule.text) =
        .ok (some advanced.state) := by
    rw [Schedule.tickDecision_text, if_pos due, isAdvanced]
  simp only [serviceTick, storeAfter, List.foldl_nil, tick_eq,
    Program.run_perform, storeHandler_get, stored, decision,
    storeHandler_set, storeHandler_emit]
  cases answer store.events sourceId <;> rfl

theorem demo_length : 1 ≤ "demo".length := by
  decide

theorem demo_accepted : rejectBlankText "demo" = .ok "demo" := by
  decide

/-- A configuration whose first source id contains a blank. -/
def blankConfig : CrawlerConfig where
  sources :=
    [minuteSource "Demo Source" (by decide) (by decide),
      minuteSource "demo" demo_length demo_accepted]
  sources_length := by decide
  sources_accepted := by rfl

/-- The broker fails for the first source. -/
def brokerDown : DispatchCallback := fun _ sourceId =>
  if sourceId = "Demo Source" then
    .error ⟨.runtimeError, some "broker unavailable"⟩
  else .ok ()

/-- The first moment of the calendar. -/
def firstMoment : NaiveDateTime :=
  ⟨0, zero_lt_calendar⟩

/-- The store after the scheduler registered the configured sources. -/
def registeredStore : SchedulerStore :=
  (configuredSources blankConfig).foldl
    (fun store source =>
      (runOperation brokerDown
        (.registerIfMissing source.sourceId source.intervalSeconds
          firstMoment)
        store).2)
    .empty

theorem registeredStore_values :
    registeredStore.values (stateKey "Demo Source") =
      some (Schedule.registered 60 firstMoment le_rfl).text := by
  rfl

theorem serviceTick_registeredStore :
    serviceTick brokerDown registeredStore [] "Demo Source" firstMoment =
      .error ⟨.runtimeError, some "broker unavailable"⟩ := by
  have isAdvanced :
      ∃ advanced,
        (Schedule.registered 60 firstMoment le_rfl).advance firstMoment =
          some advanced := ⟨_, rfl⟩
  rcases isAdvanced with ⟨advanced, isAdvanced⟩
  rw [serviceTick_of_due registeredStore_values rfl isAdvanced]
  rfl

/-- A clock which always reads the same. -/
def stoppedClock : MonotonicClock :=
  ⟨fun _ => 0, monotone_const⟩

/-- The failure of one source leaves the other source without its tick. -/
theorem cycle_stopped_by_source_id :
    ¬ Isolates (serviceTick brokerDown registeredStore) firstMoment
      (configuredSources blankConfig)
      (cycleRun (serviceTick brokerDown registeredStore) stoppedClock
        (fun _ => 0) firstMoment (configuredSources blankConfig)) := by
  intro isolates
  have refused : ¬ matchesSourceId "Demo Source" = true := by decide
  have first :=
    run_tickSource_refused (serviceTick brokerDown registeredStore)
      stoppedClock (fun _ => 0) firstMoment ⟨"Demo Source", 60, .http⟩ {}
      serviceTick_registeredStore refused
  have sources :
      configuredSources blankConfig =
        [⟨"Demo Source", 60, .http⟩, ⟨"demo", 60, .http⟩] := rfl
  have returns := isolates.returns
  rw [cycleRun, sources, runCycle, Program.run_bind, first] at returns
  cases returns

end MultisiteCrawler.Scheduler
