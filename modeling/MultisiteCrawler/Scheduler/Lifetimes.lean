import MultisiteCrawler.Scheduler.Cadence
import MultisiteCrawler.Scheduler.Cycle

/-!
# Lifetimes of the scheduler process

A process registers the sources of its configuration and then runs one cycle
after the other.  Every process has a configuration of its own; what is passed
on from one to the next is the store.

A registration does nothing if there is a state already.  So a source keeps
the interval of the process which first registered it, and the configurations
of later processes do not change its cadence.
-/

namespace MultisiteCrawler.Scheduler

open Config
open Foundation.AwareTime
open Foundation.CivilTime
open Foundation.JsonText
open Foundation.PythonErrors
open Observability

/-! ## Processes -/

/-- A process: its configuration, its clock readings and its surroundings. -/
structure Lifetime where
  config : CrawlerConfig
  started : NaiveDateTime
  cycles : List NaiveDateTime
  answer : DispatchCallback
  clock : MonotonicClock
  uuid : ℕ → RunIdentifier

namespace Lifetime

/-- The loop which registers the sources. -/
def registerSources (lifetime : Lifetime) :
    List ScheduledSource → System → Except PyError Unit × System
  | [], system => (.ok (), system)
  | source :: rest, system =>
      let operation :=
        Operation.registerIfMissing source.sourceId source.intervalSeconds
          lifetime.started
      match (runOperation lifetime.answer operation system.store).1 with
      | .ok _ =>
          lifetime.registerSources rest
            (system.after lifetime.answer operation)
      | .error error =>
          (.error error, system.after lifetime.answer operation)

/-- One cycle, whose ticks are operations of the service. -/
def runCycle (lifetime : Lifetime) (current : NaiveDateTime)
    (system : System) :
    Except PyError (List SchedulerCycleFailure) × System :=
  let ended :=
    cycleRun (serviceTick lifetime.answer system.store) lifetime.clock
      lifetime.uuid current (configuredSources lifetime.config)
  (ended.1,
    ended.2.ticked.foldl
      (fun system sourceId =>
        system.after lifetime.answer (.tick sourceId current))
      system)

/-- One cycle after the other, until one of them raises. -/
def runCycles (lifetime : Lifetime) :
    List NaiveDateTime → System → System
  | [], system => system
  | current :: rest, system =>
      match lifetime.runCycle current system with
      | (.ok _, after) => lifetime.runCycles rest after
      | (.error _, after) => after

/-- `main`, for as long as the process lives. -/
def run (lifetime : Lifetime) (system : System) : System :=
  match
    lifetime.registerSources (configuredSources lifetime.config) system
  with
  | (.ok _, after) => lifetime.runCycles lifetime.cycles after
  | (.error _, after) => after

end Lifetime

/-- The system after a sequence of processes on an empty store. -/
def runLifetimes (lifetimes : List Lifetime) : System :=
  lifetimes.foldl (fun system lifetime => lifetime.run system) .initial

theorem runLifetimes_concat
    (lifetimes : List Lifetime) (lifetime : Lifetime) :
    runLifetimes (lifetimes ++ [lifetime]) =
      lifetime.run (runLifetimes lifetimes) :=
  List.foldl_concat _ _ _ _

/-- The dispatches of a source by the last of some processes. -/
def ownDispatches (before : List Lifetime) (lifetime : Lifetime)
    (sourceId : String) : List NaiveDateTime :=
  ((runLifetimes (before ++ [lifetime])).observed sourceId).dispatches.drop
    ((runLifetimes before).observed sourceId).dispatches.length

/--
In every process the dispatches of a source are apart by at least the interval
in the configuration of this process.
-/
def PacedAsConfigured (lifetimes : List Lifetime) : Prop :=
  ∀ before lifetime, before ++ [lifetime] <+: lifetimes →
    ∀ source ∈ configuredSources lifetime.config,
      (ownDispatches before lifetime source.sourceId).IsChain
        (Spaced source.intervalSeconds)

/-! ## Steps of a process -/

/-- The operations which a process may perform. -/
def Lifetime.Issues (lifetime : Lifetime) : Operation → Prop
  | .registerIfMissing sourceId interval current =>
      current = lifetime.started ∧
        ∃ source ∈ configuredSources lifetime.config,
          source.sourceId = sourceId ∧ source.intervalSeconds = interval
  | .tick _ _ => True
  | _ => False

section Induction

variable {lifetime : Lifetime} {invariant : System → Prop}
variable (kept : ∀ system operation, lifetime.Issues operation →
  invariant system → invariant (system.after lifetime.answer operation))

include kept

theorem Lifetime.registerSources_keeps
    {sources : List ScheduledSource} {system : System}
    (configured : sources ⊆ configuredSources lifetime.config)
    (holds : invariant system) :
    invariant (lifetime.registerSources sources system).2 := by
  induction sources generalizing system with
  | nil => exact holds
  | cons source rest induction =>
      have issued :
          lifetime.Issues
            (.registerIfMissing source.sourceId source.intervalSeconds
              lifetime.started) :=
        ⟨rfl, source, configured List.mem_cons_self, rfl, rfl⟩
      have after := kept system _ issued holds
      rw [Lifetime.registerSources]
      cases (runOperation lifetime.answer
        (.registerIfMissing source.sourceId source.intervalSeconds
          lifetime.started) system.store).1 with
      | error error => exact after
      | ok result =>
          exact induction
            (fun _ member => configured (List.mem_cons_of_mem _ member))
            after

theorem Lifetime.runCycle_keeps
    (current : NaiveDateTime) {system : System} (holds : invariant system) :
    invariant (lifetime.runCycle current system).2 := by
  rw [Lifetime.runCycle]
  dsimp only
  generalize (cycleRun _ _ _ _ _).2.ticked = ticked
  induction ticked generalizing system with
  | nil => exact holds
  | cons sourceId rest induction =>
      exact induction (kept system (.tick sourceId current) trivial holds)

theorem Lifetime.runCycles_keeps
    {cycles : List NaiveDateTime} {system : System}
    (holds : invariant system) :
    invariant (lifetime.runCycles cycles system) := by
  induction cycles generalizing system with
  | nil => exact holds
  | cons current rest induction =>
      have after := lifetime.runCycle_keeps kept current holds
      rw [Lifetime.runCycles]
      cases ended : lifetime.runCycle current system with
      | mk outcome last =>
          rw [ended] at after
          cases outcome with
          | ok failures => exact induction after
          | error error => exact after

/-- What every operation of a process keeps holds when it has ended. -/
theorem Lifetime.run_keeps {system : System} (holds : invariant system) :
    invariant (lifetime.run system) := by
  have registered :=
    lifetime.registerSources_keeps kept (List.Subset.refl _) holds
  rw [Lifetime.run]
  cases ended :
    lifetime.registerSources (configuredSources lifetime.config) system with
  | mk outcome after =>
      rw [ended] at registered
      cases outcome with
      | ok result => exact lifetime.runCycles_keeps kept registered
      | error error => exact registered

end Induction

/-! ## Who registered a source -/

/-- A source keeps its registration, or is registered now. -/
theorem registered_after
    (answer : DispatchCallback) {system : System} {sourceId : String}
    (consistent :
      Consistent (system.store.values (stateKey sourceId))
        (system.observed sourceId))
    (operation : Operation) :
    ((system.after answer operation).observed sourceId).registered =
        (system.observed sourceId).registered ∨
      (system.observed sourceId).registered = none ∧
        ∃ interval current,
          operation = .registerIfMissing sourceId interval current ∧
            ((system.after answer operation).observed
              sourceId).registered = some (interval, current) := by
  rw [System.after]
  dsimp only
  by_cases same : operation.sourceId = sourceId
  · subst same
    rw [Observed.after_self]
    cases operation with
    | registerIfMissing source interval current =>
        simp only [Operation.sourceId] at consistent ⊢
        rw [runOperation_registerIfMissing]
        rcases consistent.cases with
          ⟨missing, unobserved⟩ | ⟨schedule, registeredAt, isText, _⟩
        · simp only [missing]
          cases nextRunAt current interval with
          | error error => simp
          | ok next =>
              rw [unobserved]
              exact Or.inr ⟨rfl, interval, current, rfl, rfl⟩
        · simp [isText]
    | pause source paused =>
        left
        rw [runOperation_pause]
        cases parseState source (system.store.values (stateKey source)) <;>
          rfl
    | tick source current =>
        left
        dsimp only
        split_ifs <;> rfl
    | manualTrigger source => exact Or.inl rfl
    | nextRun source => exact Or.inl rfl
  · rw [Observed.after_of_ne same]
    exact Or.inl rfl

/-- A process keeps a registration, or registers with its own interval. -/
structure Lifetime.Registers (lifetime : Lifetime) (sourceId : String)
    (system after : System) : Prop where
  consistent :
    Consistent (after.store.values (stateKey sourceId))
      (after.observed sourceId)
  registered :
    (after.observed sourceId).registered =
        (system.observed sourceId).registered ∨
      (system.observed sourceId).registered = none ∧
        ∃ source ∈ configuredSources lifetime.config,
          source.sourceId = sourceId ∧
            (after.observed sourceId).registered =
              some (source.intervalSeconds, lifetime.started)

theorem Lifetime.registers_run
    (lifetime : Lifetime) {system : System} {sourceId : String}
    (consistent :
      Consistent (system.store.values (stateKey sourceId))
        (system.observed sourceId)) :
    lifetime.Registers sourceId system (lifetime.run system) := by
  apply Lifetime.run_keeps
  · intro after operation issued before
    refine ⟨before.consistent.step lifetime.answer operation, ?_⟩
    rcases registered_after lifetime.answer before.consistent operation with
      same | ⟨missing, interval, current, rfl, registered⟩
    · rw [same]
      exact before.registered
    · rcases issued with ⟨rfl, source, configured, isSource, rfl⟩
      rcases before.registered with same | ⟨_, other, _, _, already⟩
      · rw [same] at missing
        exact Or.inr ⟨missing, source, configured, isSource, registered⟩
      · rw [already] at missing
        cases missing
  · exact ⟨consistent, Or.inl rfl⟩

/--
Among some processes there is one which registered a source with the interval
in its configuration.
-/
def RegisteredWith (lifetimes : List Lifetime) (sourceId : String)
    (interval : ℤ) : Prop :=
  ∃ before lifetime after,
    lifetimes = before ++ lifetime :: after ∧
      (runLifetimes before).store.values (stateKey sourceId) = none ∧
      (∃ source ∈ configuredSources lifetime.config,
        source.sourceId = sourceId ∧ source.intervalSeconds = interval) ∧
      storedInterval sourceId
          (runLifetimes (before ++ [lifetime])).store =
        some interval

theorem RegisteredWith.concat
    {lifetimes : List Lifetime} {sourceId : String} {interval : ℤ}
    (registered : RegisteredWith lifetimes sourceId interval)
    (lifetime : Lifetime) :
    RegisteredWith (lifetimes ++ [lifetime]) sourceId interval := by
  rcases registered with ⟨before, registrar, after, rfl, found⟩
  refine ⟨before, registrar, after ++ [lifetime], ?_, found⟩
  rw [List.append_assoc, List.cons_append]

/-- The text of a source agrees with its observations after all processes. -/
theorem runLifetimes_registered
    (lifetimes : List Lifetime) (sourceId : String) :
    Consistent ((runLifetimes lifetimes).store.values (stateKey sourceId))
        ((runLifetimes lifetimes).observed sourceId) ∧
      ∀ interval registeredAt,
        ((runLifetimes lifetimes).observed sourceId).registered =
            some (interval, registeredAt) →
          RegisteredWith lifetimes sourceId interval := by
  induction lifetimes using List.reverseRecOn with
  | nil =>
      refine ⟨⟨rfl, rfl⟩, ?_⟩
      rintro interval registeredAt ⟨⟩
  | append_singleton lifetimes lifetime induction =>
      rcases induction with ⟨consistent, registrar⟩
      have ran := lifetime.registers_run consistent
      rw [← runLifetimes_concat] at ran
      refine ⟨ran.consistent, ?_⟩
      intro interval registeredAt isRegistered
      rcases ran.registered with
        same | ⟨missing, source, configured, isSource, registered⟩
      · rw [same] at isRegistered
        exact (registrar interval registeredAt isRegistered).concat lifetime
      · rw [registered] at isRegistered
        cases isRegistered
        refine ⟨lifetimes, lifetime, [], rfl, ?_,
          ⟨source, configured, isSource, rfl⟩, ?_⟩
        · rcases consistent.cases with
            ⟨noText, _⟩ | ⟨schedule, at', _, already, _⟩
          · exact noText
          · rw [already] at missing
            cases missing
        · rcases ran.consistent.cases with
            ⟨_, unobserved⟩ | ⟨schedule, at', isText, already, _⟩
          · rw [unobserved] at registered
            cases registered
          · rw [storedInterval_of_text isText]
            rw [already] at registered
            exact congrArg (Option.map Prod.fst) registered

/-! ## The cadence over all processes -/

/--
The dispatches of every source, by whichever process, are apart by at least
the interval with which the source was registered.
-/
def PacedAsRegistered (lifetimes : List Lifetime) : Prop :=
  ∀ sourceId,
    ((runLifetimes lifetimes).observed sourceId).dispatches = [] ∨
      ∃ interval, RegisteredWith lifetimes sourceId interval ∧
        ((runLifetimes lifetimes).observed sourceId).dispatches.IsChain
          (Spaced interval)

/-- Every source keeps the interval with which it was registered. -/
theorem pacedAsRegistered (lifetimes : List Lifetime) :
    PacedAsRegistered lifetimes := by
  intro sourceId
  rcases runLifetimes_registered lifetimes sourceId with
    ⟨consistent, registrar⟩
  rcases consistent.cases with
    ⟨_, unobserved⟩ |
    ⟨schedule, registeredAt, _, registered, tracks⟩
  · left
    rw [unobserved]
  · right
    exact ⟨schedule.interval, registrar _ _ registered, tracks.spaced⟩

/-! ## An interval which is not taken over -/

theorem singleton_length (source : SourceConfig) : 1 ≤ [source].length :=
  le_rfl

/-- A configuration of one source with this interval. -/
def demoConfig (interval : ℤ) (interval_ge : 60 ≤ interval) :
    CrawlerConfig where
  sources :=
    [{ minuteSource "demo" demo_length demo_accepted with
        intervalSeconds := interval
        intervalSeconds_ge := interval_ge }]
  sources_length := singleton_length _
  sources_accepted := rfl

/-- The first moments of the calendar, by the minute. -/
def firstMinute (minutes : ℕ) (few : minutes < 1440) : NaiveDateTime :=
  ⟨minutes * 60000000, by
    have bound : 1440 * 60000000 ≤ calendarDays * dayMicroseconds := by
      decide
    omega⟩

/-- A process for one source with this interval. -/
def demoLifetime (interval : ℤ) (interval_ge : 60 ≤ interval)
    (started : NaiveDateTime) (cycles : List NaiveDateTime) : Lifetime where
  config := demoConfig interval interval_ge
  started := started
  cycles := cycles
  answer := fun _ _ => .ok ()
  clock := stoppedClock
  uuid := fun _ => 0

/-- A process for a source which is polled every minute. -/
def minuteLifetime : Lifetime :=
  demoLifetime 60 minute_accepted (firstMinute 0 (by decide))
    [firstMinute 0 (by decide)]

/-- A later process for the source, now with every two minutes. -/
def twoMinutesLifetime : Lifetime :=
  demoLifetime 120 (by decide) (firstMinute 1 (by decide))
    [firstMinute 1 (by decide), firstMinute 2 (by decide)]

theorem ownDispatches_twoMinutes :
    ownDispatches [minuteLifetime] twoMinutesLifetime "demo" =
      [firstMinute 1 (by decide), firstMinute 2 (by decide)] := by
  decide +kernel

/-- The second process goes on with the interval of the first. -/
theorem not_pacedAsConfigured :
    ¬ PacedAsConfigured [minuteLifetime, twoMinutesLifetime] := by
  intro paced
  have chain :=
    paced [minuteLifetime] twoMinutesLifetime List.prefix_rfl
      ⟨"demo", 120, .http⟩ (by decide)
  rw [ownDispatches_twoMinutes, List.isChain_pair] at chain
  have late : (120 : ℤ) * 1000000 ≤ 60 * 1000000 :=
    Int.le_of_add_le_add_left chain
  exact absurd late (by decide)

end MultisiteCrawler.Scheduler
