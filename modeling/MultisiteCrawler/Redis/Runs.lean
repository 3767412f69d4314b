import MultisiteCrawler.Metrics.Report
import MultisiteCrawler.Redis.Sharing
import MultisiteCrawler.Resilience.SharedCircuit
import MultisiteCrawler.Scheduler.Concurrent

/-!
# Runs of the whole crawler on its server

Any number of operations of all components are under way at once and take
turns command by command, while time passes.  Each component is at every
moment where it could be on a store of its own, and each of its own runs can
happen on the server.
-/

namespace MultisiteCrawler.Redis

open Foundation.ExpiringStore
open Foundation.Interaction
open Foundation.Interaction.Program
open Foundation.JsonText
open Foundation.PythonErrors
open Foundation.SharedServer
open MultisiteCrawler.Alerts
open MultisiteCrawler.Locking
open MultisiteCrawler.Metrics
open MultisiteCrawler.Scheduler (DispatchCallback)

/-! ## Operations -/

/-- What the components are configured with. -/
structure CrawlerRules (Time Number : Type) where
  zones : Foundation.AwareTime.ZoneRules
  codec : Resilience.TimeCodec Time
  floats : FloatRules Number
  /-- The answers of the task queues to a dispatch. -/
  answer : DispatchCallback

/-- `LOCK_TTL_SECONDS`, the lifetime of every lock the tasks take. -/
def lockTtlSeconds : ℤ := 90

/-- An operation of the lock of a source. -/
structure LockOperation where
  command : LeaseCommand
  sourceId : String
  key_eq : command.lease.key = sourceLockKey sourceId
  ttlSeconds_eq : command.lease.ttlSeconds = lockTtlSeconds

/-- An operation of the scheduler service, or `register` on its own. -/
inductive SchedulerOperation where
  | register (sourceId : String) (intervalSeconds : ℤ)
      (current : Foundation.CivilTime.NaiveDateTime)
  | service (operation : Scheduler.Operation)

/-- An operation of the session manager. -/
inductive SessionOperation where
  | record (call : BrowserSession.Call)
  | getState (profileReference : String)

/-- An operation of the metrics store. -/
inductive MetricsOperation (Number : Type) where
  | record (call : MetricsCall Number)
  | snapshot (queueDepths : QueueDepths)

/-- An operation which asks for keys of the others only. -/
structure OtherOperation (Time : Type) where
  program : Program (OtherCommand Time) (fun _ => Cell Time) PyError QueueDepths
  confined :
    Confined (fun command => Client.others.Owns command.key) program

/-- What a client raises. -/
abbrev Client.Error : Client → Type
  | .sessions => BrowserSession.SessionError
  | _ => PyError

/-- What the operations of a client return. -/
abbrev Client.Result : Client → Type
  | .scheduler => Scheduler.OperationResult
  | .alerts => List AlertEvent
  | .sessions => BrowserSession.BrowserSessionState
  | .circuits => Option Bool
  | .leases => Bool
  | .metrics => Option MetricsSnapshot
  | .others => QueueDepths

section Operations

variable {Time Number Ratio : Type} [LE Ratio] [DecidableLE Ratio]

/-- The programs of a client. -/
abbrev Client.Task (Time : Type) (client : Client) : Type :=
  Program (client.Command Time) (client.Reply Time) client.Error client.Result

/-- `llen`, after which the length is known. -/
def llen (name : String) :
    Program (OtherCommand Time) (fun _ => Cell Time) PyError ℤ := do
  let held ← issue ⟨name, fun _ cell => cell⟩
  match elementsOf held with
  | some elements => pure elements.length
  | none => .fail responseError

/-- `queue_depths`. -/
def queueDepths : Client.others.Task Time := do
  let http ← llen "http"
  let browser ← llen "browser"
  pure ⟨http, browser⟩

/-- The operations of a client; the others do anything to their own keys. -/
abbrev Client.Operation (Time Number Ratio : Type) : Client → Type
  | .scheduler => SchedulerOperation
  | .alerts => AlertThresholds Ratio × AlertCall Ratio
  | .sessions => SessionOperation
  | .circuits => Resilience.CircuitPolicy × Resilience.CircuitCall Time
  | .leases => LockOperation
  | .metrics => MetricsOperation Number
  | .others => OtherOperation Time

/-- The program of an operation of the scheduler. -/
def SchedulerOperation.program :
    SchedulerOperation →
      Scheduler.SchedulerProgram Scheduler.OperationResult
  | .register sourceId intervalSeconds current => do
      Scheduler.register sourceId intervalSeconds current
      pure .nothing
  | .service operation => operation.program

/-- The program of an operation of the session manager. -/
def SessionOperation.program (zones : Foundation.AwareTime.ZoneRules) :
    SessionOperation →
      BrowserSession.SessionProgram BrowserSession.BrowserSessionState
  | .record call => call.program zones
  | .getState profileReference => BrowserSession.getState profileReference

/-- The program of an operation of the metrics store. -/
def MetricsOperation.program (floats : FloatRules Number) :
    MetricsOperation Number → MetricsProgram (Option MetricsSnapshot)
  | .record call => do
      call.program floats
      pure none
  | .snapshot queueDepths => do
      let read ← Metrics.snapshot queueDepths
      pure (some read)

variable [CommRing Time] [LinearOrder Time] in
/-- The program of an operation. -/
def program (rules : CrawlerRules Time Number) :
    (client : Client) → client.Operation Time Number Ratio → client.Task Time
  | .scheduler, operation => operation.program
  | .alerts, (thresholds, call) => evaluate thresholds call
  | .sessions, operation => operation.program rules.zones
  | .circuits, (policy, call) => call.program rules.codec policy
  | .leases, operation => issue operation.command
  | .metrics, operation => operation.program rules.floats
  | .others, operation => operation.program

/-! ## Operations ask for their own keys -/

section Texts

variable {Event Answer Error Result Output : Type} {client : Client}

theorem confined_get
    {permitted : StoreCommand String String Event → Prop} {key : String}
    (isPermitted : permitted (.get key)) :
    Confined permitted
      (StoreProgram.get key :
        StoreProgram String String Event Answer Error (Option String)) :=
  ⟨isPermitted, fun _ => trivial⟩

theorem confined_set
    {permitted : StoreCommand String String Event → Prop}
    {key value : String} {expiry : Option ℕ}
    (isPermitted : permitted (.set key value expiry)) :
    Confined permitted
      (StoreProgram.set key value expiry :
        StoreProgram String String Event Answer Error Unit) :=
  ⟨isPermitted, fun _ => trivial⟩

end Texts

section Scheduler

open MultisiteCrawler.Scheduler

theorem confined_load (sourceId : String) :
    Confined Client.scheduler.AsksPlainText (Scheduler.load sourceId) :=
  confined_bind (confined_get (Client.scheduler_owns sourceId))
    fun _ => confined_ofOutcome _ _

theorem confined_save (sourceId : String) (state : StateDocument) :
    Confined Client.scheduler.AsksPlainText
      (Scheduler.save sourceId state) :=
  confined_set ⟨Client.scheduler_owns sourceId, rfl⟩

theorem confined_dispatch (sourceId : String) :
    Confined Client.scheduler.AsksPlainText (dispatch sourceId) :=
  confined_bind ⟨trivial, fun _ => trivial⟩
    fun _ => confined_ofOutcome _ _

theorem confined_registerSource
    (sourceId : String) (interval : ℤ)
    (current : Foundation.CivilTime.NaiveDateTime) :
    Confined Client.scheduler.AsksPlainText
      (Scheduler.register sourceId interval current) :=
  confined_bind (confined_ofOutcome _ _) fun _ => confined_save sourceId _

theorem confined_operation (operation : Operation) :
    Confined Client.scheduler.AsksPlainText operation.program := by
  cases operation with
  | registerIfMissing sourceId interval current =>
      refine confined_bind ?_ fun _ => trivial
      refine confined_bind
        (confined_get (Client.scheduler_owns sourceId)) fun read => ?_
      cases read with
      | some text => trivial
      | none =>
          exact
            confined_bind (confined_registerSource sourceId interval current)
              fun _ => trivial
  | pause sourceId paused =>
      refine confined_bind ?_ fun _ => trivial
      exact
        confined_bind (confined_load sourceId)
          fun _ => confined_save sourceId _
  | tick sourceId current =>
      refine confined_bind ?_ fun _ => trivial
      refine confined_bind (confined_load sourceId) fun state => ?_
      refine confined_bind (confined_ofOutcome _ _) fun next => ?_
      refine confined_bind (confined_ofOutcome _ _) fun paused => ?_
      refine confined_bind (confined_ofOutcome _ _) fun due => ?_
      cases due with
      | false => trivial
      | true =>
          refine confined_bind (confined_ofOutcome _ _) fun advanced => ?_
          refine confined_bind (confined_save sourceId _) fun _ => ?_
          exact confined_bind (confined_dispatch sourceId) fun _ => trivial
  | manualTrigger sourceId =>
      exact confined_bind (confined_dispatch sourceId) fun _ => trivial
  | nextRun sourceId =>
      refine confined_bind ?_ fun _ => trivial
      exact
        confined_bind (confined_load sourceId)
          fun _ => confined_ofOutcome _ _

end Scheduler

theorem confined_evaluateRules
    (thresholds : AlertThresholds Ratio) (call : AlertCall Ratio)
    (alertRules : List AlertRule) :
    Confined (Client.alerts.Permitted Time)
      (evaluateRules thresholds call alertRules) := by
  induction alertRules with
  | nil => trivial
  | cons rule rest induction =>
      refine confined_bind ?_ fun first =>
        confined_bind induction fun _ => trivial
      have owns := Client.alerts_owns call.sourceId rule
      refine confined_bind
        ⟨owns, fun _ => confined_ofOutcome _ _⟩ fun previous => ?_
      cases transition previous
          (condition thresholds call.scenario rule) with
      | none => trivial
      | some state =>
          exact
            confined_bind ⟨owns, fun _ => confined_ofOutcome _ _⟩
              fun _ => trivial

theorem confined_evaluate
    (thresholds : AlertThresholds Ratio) (call : AlertCall Ratio) :
    Confined (Client.alerts.Permitted Time) (evaluate thresholds call) := by
  unfold evaluate
  split_ifs
  · exact confined_evaluateRules thresholds call _
  · trivial

section Sessions

open MultisiteCrawler.BrowserSession

theorem confined_require (check : Except PyError Unit) :
    Confined Client.sessions.AsksPlainText (require check) :=
  confined_ofOutcome _ _

theorem confined_getState (profileReference : String) :
    Confined Client.sessions.AsksPlainText (getState profileReference) := by
  refine confined_bind (confined_require _) fun _ => ?_
  refine confined_bind
    (confined_get (Client.sessions_owns profileReference)) fun read => ?_
  cases read <;> trivial

theorem confined_call (zones : Foundation.AwareTime.ZoneRules) (call : Call) :
    Confined Client.sessions.AsksPlainText (call.program zones) := by
  cases call with
  | refresh profileReference current =>
      refine confined_bind (confined_require _) fun _ => ?_
      refine confined_bind (confined_require _) fun _ => ?_
      exact
        confined_bind
          (confined_set ⟨Client.sessions_owns profileReference, rfl⟩)
          fun _ => trivial
  | observe profileReference observation current =>
      refine confined_bind (confined_require _) fun _ => ?_
      refine confined_bind (confined_require _) fun _ => ?_
      refine confined_bind
        (confined_set ⟨Client.sessions_owns profileReference, rfl⟩)
        fun _ => ?_
      split_ifs <;> trivial

end Sessions

section Circuits

open MultisiteCrawler.Resilience

variable [CommRing Time] [LinearOrder Time]

theorem confined_allowLoaded
    (codec : TimeCodec Time) (policy : CircuitPolicy) (sourceId : String)
    (now : Time) (document : Option Json) :
    Confined Client.circuits.AsksText
      (allowLoaded codec policy sourceId now document) := by
  cases document with
  | none => trivial
  | some document =>
      cases document with
      | obj members =>
          rw [allowLoaded]
          rcases allowMembers_cases codec policy sourceId now members with
            ⟨outcome, ended, _⟩ | ⟨_, _, writes⟩
          · rw [ended]
            exact confined_ofOutcome _ outcome
          · rw [writes]
            exact ⟨Client.circuits_owns sourceId, fun _ => trivial⟩
      | _ => trivial

theorem confined_circuitCall
    (codec : TimeCodec Time) (policy : CircuitPolicy)
    (call : CircuitCall Time) :
    Confined Client.circuits.AsksText (call.program codec policy) := by
  cases call with
  | allowRequest sourceId now =>
      rw [program_allowRequest]
      exact
        ⟨Client.circuits_owns sourceId,
          fun _ => confined_allowLoaded codec policy sourceId now _⟩
  | recordFailure sourceId now =>
      rw [program_recordFailure]
      refine ⟨Client.circuits_owns sourceId, fun stored => ?_⟩
      show Confined _ (failureCounted codec policy sourceId now _)
      cases failureCount stored with
      | error error => trivial
      | ok count => exact ⟨Client.circuits_owns sourceId, fun _ => trivial⟩
  | recordSuccess sourceId now =>
      exact ⟨Client.circuits_owns sourceId, fun _ => trivial⟩

end Circuits

theorem confined_lease (operation : LockOperation) :
    Confined (Client.leases.Permitted Time)
      (issue operation.command :
        Program LeaseCommand (fun _ => Bool) PyError Bool) := by
  refine ⟨?_, fun _ => trivial⟩
  show Client.leases.Owns operation.command.lease.key
  rw [operation.key_eq]
  exact Client.leases_owns operation.sourceId

section Metrics

theorem confined_register (sourceId : String) :
    Confined (Client.metrics.Permitted Time) (register sourceId) :=
  confined_bind ⟨rfl, fun _ => confined_ofOutcome _ _⟩ fun _ => trivial

theorem confined_performUpdates
    (sourceId : String) (updates : List FieldUpdate) :
    Confined (Client.metrics.Permitted Time)
      (performUpdates (sourceKey sourceId) updates) := by
  have permitted :
      Client.metrics.Owns (sourceKey sourceId) ∧
        sourceKey sourceId ≠ sourcesKey :=
    ⟨Client.metrics_owns_source sourceId, sourceKey_ne_sourcesKey sourceId⟩
  induction updates with
  | nil => trivial
  | cons update rest induction =>
      refine confined_bind ?_ fun _ => induction
      cases update with
      | add field amount =>
          exact
            confined_bind ⟨permitted, fun _ => confined_ofOutcome _ _⟩
              fun _ => trivial
      | put field text =>
          exact
            confined_bind ⟨permitted, fun _ => confined_ofOutcome _ _⟩
              fun _ => trivial

theorem confined_metricsCall
    (floats : FloatRules Number) (call : MetricsCall Number) :
    Confined (Client.metrics.Permitted Time) (call.program floats) := by
  by_cases accepted : call.accepted floats = true
  · rw [program_of_accepted floats accepted]
    exact
      confined_bind (confined_register _)
        fun _ => confined_performUpdates _ _
  · rcases program_of_refused floats accepted with ⟨message, refused⟩
    rw [refused]
    trivial

theorem confined_readSources (sourceIds : List String) :
    Confined (Client.metrics.Permitted Time) (readSources sourceIds) := by
  induction sourceIds with
  | nil => trivial
  | cons sourceId rest induction =>
      have permitted :
          Client.metrics.Owns (sourceKey sourceId) ∧
            sourceKey sourceId ≠ sourcesKey :=
        ⟨Client.metrics_owns_source sourceId,
          sourceKey_ne_sourcesKey sourceId⟩
      refine confined_bind
        ⟨permitted, fun _ => confined_ofOutcome _ _⟩ fun values => ?_
      exact confined_bind induction fun _ => trivial

theorem confined_snapshot (depths : QueueDepths) :
    Confined (Client.metrics.Permitted Time) (snapshot depths) := by
  refine confined_bind
    ⟨rfl, fun _ => confined_ofOutcome _ _⟩ fun members => ?_
  exact confined_bind (confined_readSources _) fun _ => trivial

end Metrics

variable [CommRing Time] [LinearOrder Time]

/-- Every operation asks for keys of its own client only. -/
theorem confined_program
    (rules : CrawlerRules Time Number) (client : Client)
    (operation : client.Operation Time Number Ratio) :
    Confined (client.Permitted Time) (program rules client operation) := by
  cases client with
  | scheduler =>
      cases operation with
      | register sourceId interval current =>
          exact
            confined_bind (confined_registerSource sourceId interval current)
              fun _ => trivial
      | service operation => exact confined_operation operation
  | alerts => exact confined_evaluate operation.1 operation.2
  | sessions =>
      cases operation with
      | record call => exact confined_call rules.zones call
      | getState profileReference => exact confined_getState profileReference
  | circuits =>
      exact confined_circuitCall rules.codec operation.1 operation.2
  | leases => exact confined_lease operation
  | metrics =>
      cases operation with
      | record call =>
          exact
            confined_bind (confined_metricsCall rules.floats call)
              fun _ => trivial
      | snapshot depths =>
          exact confined_bind (confined_snapshot depths) fun _ => trivial
  | others => exact operation.confined

/-! ## The server and the stores -/

section Runs

variable (rules : CrawlerRules Time Number)
variable {started now : Time} {initial world : RedisWorld Time}
variable {stores : (client : Client) → client.Own Time}

/-- The operations of a client, each with what is left of its program. -/
abbrev Client.Tasks (Time Number Ratio : Type) (client : Client) : Type :=
  List (client.Operation Time Number Ratio × client.Task Time)

/-- The operations started so far and the server they share. -/
def Run (started : Time) (initial : RedisWorld Time)
    (running : (client : Client) → client.Tasks Time Number Ratio)
    (now : Time) (world : RedisWorld Time) : Prop :=
  (crawlerClients rules.answer).Reached (program rules) started initial
    running now world

theorem Run.nothing {rules : CrawlerRules Time Number} :
    Run rules started initial
      (fun client => ([] : client.Tasks Time Number Ratio)) started initial :=
  Clients.Reached.nothing

theorem Run.start
    {rules : CrawlerRules Time Number}
    {running : (client : Client) → client.Tasks Time Number Ratio}
    (run : Run rules started initial running now world)
    (client : Client) (operation : client.Operation Time Number Ratio) :
    Run rules started initial
      (Function.update running client
        ((operation, program rules client operation) :: running client))
      now world :=
  Clients.Reached.start client operation run

theorem Run.step
    {rules : CrawlerRules Time Number}
    {running : (client : Client) → client.Tasks Time Number Ratio}
    {changed : RedisWorld Time} {client : Client}
    {earlier others : client.Tasks Time Number Ratio}
    {operation : client.Operation Time Number Ratio}
    {command : client.Command Time}
    {next : client.Reply Time command → client.Task Time}
    {reply : client.Reply Time command}
    (run : Run rules started initial running now world)
    (isRunning :
      running client = earlier ++ (operation, perform command next) :: others)
    (isServed :
      serve rules.answer client now command world = some (reply, changed)) :
    Run rules started initial
      (Function.update running client
        (earlier ++ (operation, next reply) :: others))
      now changed :=
  Clients.Reached.step client isRunning isServed run

/-- The operations of one client and the store of its own they share. -/
def OwnRun (started : Time) (client : Client) (initial : client.Own Time)
    (tasks : client.Tasks Time Number Ratio) (now : Time)
    (store : client.Own Time) : Prop :=
  Alone (ownHandler rules.answer client) (program rules client) started
    initial tasks now store

/--
The server is as good as stores of the clients' own: no command is refused,
each client is where it could be on its own store, and each run of a client on
its own store can happen on the server.
-/
structure ActsAsOwnStores (Ratio : Type) [LE Ratio] [DecidableLE Ratio]
    (started : Time) (initial : RedisWorld Time)
    (stores : (client : Client) → client.Own Time) : Prop where
  finds : ∀ (running : (client : Client) → client.Tasks Time Number Ratio)
      (now : Time) (world : RedisWorld Time),
    Run rules started initial running now world →
      ∀ client : Client, ∃ store,
        OwnRun rules started client (stores client) (running client) now
            store ∧
          Holds client world store ∧
          ∀ (operation : client.Operation Time Number Ratio)
              (command : client.Command Time)
              (next : client.Reply Time command → client.Task Time),
            (operation, perform command next) ∈ running client →
              ∃ changed,
                serve rules.answer client now command world =
                  some
                    ((ownHandler rules.answer client now command store).1,
                      changed)
  happens : ∀ (client : Client) (tasks : client.Tasks Time Number Ratio)
      (now : Time) (store : client.Own Time),
    OwnRun rules started client (stores client) tasks now store →
      ∃ running world,
        Run rules started initial running now world ∧
          running client = tasks ∧ Holds client world store

/-- What a client finds on the server in a run is what it finds on its own. -/
theorem Run.ownRun
    {rules : CrawlerRules Time Number}
    {running : (client : Client) → client.Tasks Time Number Ratio}
    (run : Run rules started initial running now world)
    (initialHolds : ∀ client, Holds client initial (stores client))
    (client : Client) :
    ∃ store,
      OwnRun rules started client (stores client) (running client) now
          store ∧
        Holds client world store ∧
        ∀ (operation : client.Operation Time Number Ratio)
            (command : client.Command Time)
            (next : client.Reply Time command → client.Task Time),
          (operation, perform command next) ∈ running client →
            ∃ changed,
              serve rules.answer client now command world =
                some
                  ((ownHandler rules.answer client now command store).1,
                    changed) := by
  rcases Clients.Reached.sees run (confined_program rules) initialHolds
    client with ⟨store, sees⟩
  exact
    ⟨store, sees.alone, sees.holds, fun _ _ _ member => sees.isServed member⟩

/-- What a client can do on its own it can do on the server. -/
theorem exists_run_of_ownRun
    {rules : CrawlerRules Time Number} {client : Client}
    {tasks : client.Tasks Time Number Ratio} {store : client.Own Time}
    (initialHolds : ∀ client, Holds client initial (stores client))
    (alone : OwnRun rules started client (stores client) tasks now store) :
    ∃ running world,
      Run rules started initial running now world ∧
        running client = tasks ∧ Holds client world store := by
  have isHeld :
      (crawlerClients rules.answer).Holds client initial (stores client) :=
    initialHolds client
  have onItsOwn :
      Alone ((crawlerClients rules.answer).own client)
        (program rules client) started (stores client) tasks now store :=
    alone
  rcases Clients.reached_of_alone (confined_program rules client) isHeld
    onItsOwn with ⟨world, reached, holds, _⟩
  exact ⟨_, world, reached, Function.update_self _ _ _, holds⟩

/-- Sharing the server changes nothing for any client. -/
theorem server_acts_as_own_stores
    (initialHolds : ∀ client, Holds client initial (stores client)) :
    ActsAsOwnStores rules Ratio started initial stores where
  finds _ _ _ run client := run.ownRun initialHolds client
  happens _ _ _ _ alone :=
    exists_run_of_ownRun initialHolds alone

/-! ## A server on which the crawler has done nothing yet -/

/-- The stores of the clients before they do anything. -/
def emptyStore (world : RedisWorld Time) :
    (client : Client) → client.Own Time
  | .scheduler => .empty
  | .alerts => fun _ => none
  | .sessions => .empty
  | .circuits => fun _ => none
  | .leases => fun _ => none
  | .metrics => MetricsRedis.empty
  | .others => world.entries

/-- Nothing is held at the crawler's keys, and nothing was dispatched. -/
structure Untouched (world : RedisWorld Time) : Prop where
  entries : ∀ client : Client, client ≠ .others →
    ∀ key, client.Owns key → world.entries key = none
  dispatched : world.dispatched = []

omit [CommRing Time] [LinearOrder Time] in
theorem cells_emptyStore
    {client : Client} (named : client ≠ .others) (key : String) :
    cells client (emptyStore world client) key = none := by
  cases client with
  | others => exact absurd rfl named
  | metrics =>
      rw [cells]
      split_ifs <;> rfl
  | _ => rfl

omit [CommRing Time] [LinearOrder Time] in
theorem Untouched.holds
    (untouched : Untouched world) (client : Client) :
    Holds client world (emptyStore world client) where
  entries key owns := by
    by_cases named : client = .others
    · subst named
      rfl
    · rw [untouched.entries client named key owns, cells_emptyStore named]
  dispatched events isQueued := by
    cases client with
    | scheduler =>
        cases isQueued
        exact untouched.dispatched
    | _ => cases isQueued

/-- Rules with whole numbers, whose task queues accept every dispatch. -/
def wholeRules : CrawlerRules ℤ ℤ where
  zones := Foundation.AwareTime.eightHoursAhead
  codec := Resilience.wholeSeconds
  floats := wholeFloats
  answer := fun _ _ => .ok ()

/-- A server which holds one task in the queue `http`. -/
def queuedWorld : RedisWorld ℤ where
  entries := fun key =>
    if key = "http" then some ⟨.list ["task"], none⟩ else none
  dispatched := []

theorem others_owns_queue {name : String}
    (isQueue : name = "http" ∨ name = "browser") :
    Client.others.Owns name := by
  rintro other ⟨start, isPrefix, nested⟩
  have notNested : ¬ start.toList.isPrefixOf name.toList := by
    rcases isQueue with rfl | rfl <;> cases other <;> cases isPrefix <;>
      decide
  exact notNested (List.isPrefixOf_iff_prefix.mpr nested)

theorem untouched_queuedWorld : Untouched queuedWorld where
  entries client named key owns := by
    apply if_neg
    rintro rfl
    exact named (owns.unique (others_owns_queue (Or.inl rfl)))
  dispatched := rfl

theorem queuedWorld_acts_as_own_stores :
    ActsAsOwnStores wholeRules ℚ 0 queuedWorld (emptyStore queuedWorld) :=
  server_acts_as_own_stores wholeRules untouched_queuedWorld.holds

end Runs

/-- Reading the depths of the queues is an operation of the others. -/
def queueDepthsOperation : OtherOperation Time where
  program := queueDepths
  confined := by
    have confined : ∀ name, Client.others.Owns name →
        Confined (fun command => Client.others.Owns command.key)
          (llen name :
            Program (OtherCommand Time) (fun _ => Cell Time) PyError ℤ) := by
      intro name owns
      refine confined_bind ⟨owns, fun _ => trivial⟩ fun held => ?_
      cases elementsOf held <;> trivial
    refine confined_bind
      (confined "http" (others_owns_queue (Or.inl rfl))) fun http => ?_
    exact
      confined_bind (confined "browser" (others_owns_queue (Or.inr rfl)))
        fun browser => trivial

end Operations

end MultisiteCrawler.Redis
