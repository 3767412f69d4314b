import MultisiteCrawler.Redis.CountedMetrics
import MultisiteCrawler.Resilience.StoredCircuits
import MultisiteCrawler.Scheduler.Cadence

/-!
# What the server holds

In every run each value the server holds is one its component writes: the text
of a schedule, an alert state, the state of a session, a circuit which
expires, a lock which expires in time.  So no operation fails on what it
finds, unless a counter would leave 64 bits: it ends as its own arguments, the
task queues and an unregistered source make it end.

A session whose state is stored with the time of a refresh is read as one in
an unknown state; reading it does not fail either.
-/

namespace MultisiteCrawler.Redis

open Foundation.AwareTime
open Foundation.CivilTime
open Foundation.ExpiringStore
open Foundation.Interaction
open Foundation.Interaction.Program
open Foundation.JsonText
open Foundation.Processes
open Foundation.PythonErrors
open Foundation.SharedServer
open MultisiteCrawler.Alerts
open MultisiteCrawler.Locking
open MultisiteCrawler.Metrics
open MultisiteCrawler.Observability (matchesSourceId)
open MultisiteCrawler.Scheduler (DispatchCallback IsScheduleText Schedule)

/-- Nothing but such errors is raised. -/
def RaisesOnly {Error Result : Type} (raises : Error → Prop) :
    Except Error Result → Prop
  | .ok _ => True
  | .error error => raises error

/-! ## Schedules -/

section Schedules

variable {Time : Type} {answer : DispatchCallback}

/-- The error of an operation on a source which is not registered. -/
def unknownSource (sourceId : String) : PyError :=
  .key ("Unknown scheduled source: " ++ sourceId)

/-- What an operation of the scheduler may raise. -/
def schedulerRaises (answer : DispatchCallback) :
    SchedulerOperation → PyError → Prop
  | .register _ interval current, error =>
      Scheduler.nextRunAt current interval = .error error
  | .service (.registerIfMissing _ interval current), error =>
      Scheduler.nextRunAt current interval = .error error
  | .service (.pause sourceId _), error => error = unknownSource sourceId
  | .service (.tick sourceId _), error =>
      error = unknownSource sourceId ∨ error = .library .overflowError ∨
        ∃ events, answer events sourceId = .error error
  | .service (.manualTrigger sourceId), error =>
      ∃ events, answer events sourceId = .error error
  | .service (.nextRun sourceId), error => error = unknownSource sourceId

/-- An operation of the scheduler keeps the schedules and ends as it may. -/
abbrev ScheduleSafe (Time : Type) (answer : DispatchCallback)
    {Result : Type} (ends : Except PyError Result → Prop)
    (program : Scheduler.SchedulerProgram Result) : Prop :=
  StoreSafe Time (fun _ => IsScheduleText) answer ends program

/-- What is loaded is the document of a schedule, if there is one. -/
theorem scheduleSafe_load {Result : Type} {ends : Except PyError Result → Prop}
    {sourceId : String}
    {continuation : Scheduler.StateDocument → Scheduler.SchedulerProgram Result}
    (unknown : ends (.error (unknownSource sourceId)))
    (rest : ∀ schedule : Schedule,
      ScheduleSafe Time answer ends (continuation schedule.state)) :
    ScheduleSafe Time answer ends
      (Scheduler.load sourceId >>= continuation) := by
  have loaded :
      ScheduleSafe Time answer
        (fun outcome =>
          outcome = .error (unknownSource sourceId) ∨
            ∃ schedule : Schedule, outcome = .ok schedule.state)
        (Scheduler.load sourceId) := by
    refine safe_bind (safe_get _) ?_ ?_
    · rintro read ⟨found, isFound, allTexts⟩
      cases isFound
      apply safe_ofOutcome
      cases read with
      | none => exact Or.inl rfl
      | some text =>
          rcases allTexts text rfl with ⟨schedule, rfl⟩
          exact Or.inr ⟨schedule, schedule.parseState_text sourceId⟩
    · rintro error ⟨read, isRead, _⟩
      cases isRead
  refine safe_bind loaded ?_ ?_
  · rintro state (isUnknown | ⟨schedule, isState⟩)
    · cases isUnknown
    · cases isState
      exact rest schedule
  · rintro error (isUnknown | ⟨schedule, isState⟩)
    · cases isUnknown
      exact unknown
    · cases isState

theorem scheduleSafe_save {Result : Type} {ends : Except PyError Result → Prop}
    (sourceId : String) (schedule : Schedule)
    {continuation : Unit → Scheduler.SchedulerProgram Result}
    (rest : ScheduleSafe Time answer ends (continuation ())) :
    ScheduleSafe Time answer ends
      (Scheduler.save sourceId schedule.state >>= continuation) := by
  refine safe_bind (safe_set ⟨schedule, rfl⟩ none) (fun _ _ => rest) ?_
  rintro error isOk
  cases isOk

theorem scheduleSafe_dispatch (sourceId : String) :
    ScheduleSafe Time answer
      (RaisesOnly fun error => ∃ events, answer events sourceId = .error error)
      (Scheduler.dispatch sourceId) := by
  refine safe_bind (safe_emit sourceId) ?_ ?_
  · rintro answered ⟨events, isAnswer⟩
    cases isAnswer
    apply safe_ofOutcome
    cases isAnswer : answer events sourceId with
    | ok _ => trivial
    | error error => exact ⟨events, isAnswer⟩
  · rintro error ⟨events, isAnswer⟩
    cases isAnswer

theorem scheduleSafe_register
    (sourceId : String) (interval : ℤ) (current : NaiveDateTime) :
    ScheduleSafe Time answer
      (RaisesOnly fun error =>
        Scheduler.nextRunAt current interval = .error error)
      (Scheduler.register sourceId interval current) := by
  rw [Scheduler.register]
  cases isNext : Scheduler.nextRunAt current interval with
  | error error =>
      show (_ : Except PyError NaiveDateTime) = _
      rfl
  | ok next =>
      have long := Scheduler.interval_ge_of_nextRunAt isNext
      exact
        (safe_set ⟨.registered interval current long, rfl⟩ none).mono
          fun outcome isOk => by
            rw [isOk]
            trivial

theorem scheduleSafe_registerIfMissing
    (sourceId : String) (interval : ℤ) (current : NaiveDateTime) :
    ScheduleSafe Time answer
      (RaisesOnly fun error =>
        Scheduler.nextRunAt current interval = .error error)
      (Scheduler.registerIfMissing sourceId interval current) := by
  refine safe_bind (safe_get _) ?_ ?_
  · rintro read -
    cases read with
    | some text => trivial
    | none =>
        exact
          safe_bind (scheduleSafe_register sourceId interval current)
            (fun _ _ => trivial) fun _ raised => raised
  · rintro error ⟨read, isRead, _⟩
    cases isRead

theorem scheduleSafe_tick (sourceId : String) (current : NaiveDateTime) :
    ScheduleSafe Time answer
      (RaisesOnly fun error =>
        error = unknownSource sourceId ∨ error = .library .overflowError ∨
          ∃ events, answer events sourceId = .error error)
      (Scheduler.tick sourceId current) := by
  refine scheduleSafe_load (Or.inl rfl) fun schedule => ?_
  rw [Schedule.readNext_state, Schedule.readPaused_state]
  show
    ScheduleSafe Time answer _
      (Scheduler.attempt
        (Scheduler.shouldDispatch ⟨naive schedule.next, schedule.paused⟩
          current) >>= _)
  rw [Schedule.shouldDispatch_state]
  cases due : schedule.due current with
  | false => trivial
  | true =>
      show
        ScheduleSafe Time answer _
          (Scheduler.attempt
            (Scheduler.advanceState schedule.state current) >>= _)
      rw [Schedule.advanceState_state]
      cases schedule.advance current with
      | none => exact Or.inr (Or.inl rfl)
      | some advanced =>
          refine scheduleSafe_save sourceId advanced ?_
          exact
            safe_bind (scheduleSafe_dispatch sourceId) (fun _ _ => trivial)
              fun _ raised => Or.inr (Or.inr raised)

theorem scheduleSafe_service (operation : Scheduler.Operation) :
    ScheduleSafe Time answer
      (RaisesOnly (schedulerRaises answer (.service operation)))
      operation.program := by
  cases operation with
  | registerIfMissing sourceId interval current =>
      exact
        safe_bind (scheduleSafe_registerIfMissing sourceId interval current)
          (fun _ _ => trivial) fun _ raised => raised
  | pause sourceId paused =>
      show
        ScheduleSafe Time answer _
          (Scheduler.load sourceId >>= _ >>= _)
      rw [bind_bind]
      refine scheduleSafe_load rfl fun schedule => ?_
      rw [Schedule.assign_paused]
      exact scheduleSafe_save sourceId (schedule.setPaused paused) trivial
  | tick sourceId current =>
      exact
        safe_bind (scheduleSafe_tick sourceId current)
          (fun _ _ => trivial) fun _ raised => raised
  | manualTrigger sourceId =>
      exact
        safe_bind (scheduleSafe_dispatch sourceId)
          (fun _ _ => trivial) fun _ raised => raised
  | nextRun sourceId =>
      show
        ScheduleSafe Time answer _
          (Scheduler.load sourceId >>= _ >>= _)
      rw [bind_bind]
      refine scheduleSafe_load rfl fun schedule => ?_
      rw [Schedule.readNext_state]
      trivial

theorem scheduleSafe_program (operation : SchedulerOperation) :
    ScheduleSafe Time answer (RaisesOnly (schedulerRaises answer operation))
      operation.program := by
  cases operation with
  | register sourceId interval current =>
      exact
        safe_bind (scheduleSafe_register sourceId interval current)
          (fun _ _ => trivial) fun _ raised => raised
  | service operation => exact scheduleSafe_service operation

end Schedules

/-! ## Alert states -/

section AlertStates

variable {Time Ratio : Type} [LE Ratio] [DecidableLE Ratio]

/-- Every stored text is that of a state. -/
def HoldsAlertStates (_ : Time) (store : AlertStore) : Prop :=
  AllValid (fun _ text => ∃ state : AlertState, text = state.value) store

theorem safe_evaluateRule
    (thresholds : AlertThresholds Ratio) (call : AlertCall Ratio)
    (rule : AlertRule) :
    Safe (fun _ : Time => reliable) HoldsAlertStates (RaisesOnly fun _ => False)
      (evaluateRule thresholds call rule) := by
  intro now store isValid
  refine ⟨isValid, ?_⟩
  dsimp only [reliable, ofOutcome, Program.bind]
  cases transition (store (alertKey call.sourceId rule))
      (condition thresholds call.scenario rule) with
  | none => trivial
  | some state =>
      intro later found foundValid
      refine ⟨allValid_update foundValid ?_, trivial⟩
      rintro text ⟨⟩
      exact ⟨state, rfl⟩

/-- The rules are evaluated and nothing raises. -/
theorem safe_evaluateRules
    (thresholds : AlertThresholds Ratio) (call : AlertCall Ratio)
    (alertRules : List AlertRule) :
    Safe (fun _ : Time => reliable) HoldsAlertStates (RaisesOnly fun _ => False)
      (evaluateRules thresholds call alertRules) := by
  induction alertRules with
  | nil => trivial
  | cons rule rest induction =>
      exact
        safe_bind (safe_evaluateRule thresholds call rule)
          (fun _ _ =>
            safe_bind induction (fun _ _ => trivial) fun _ raised => raised)
          fun _ raised => raised

/-- An evaluation raises if and only if its source id is refused. -/
theorem safe_evaluate
    (thresholds : AlertThresholds Ratio) (call : AlertCall Ratio) :
    Safe (fun _ : Time => reliable) HoldsAlertStates
      (fun outcome => (∃ events, outcome = .ok events) ↔
        matchesSourceId call.sourceId = true)
      (evaluate thresholds call) := by
  rw [evaluate]
  split_ifs with matching
  · refine (safe_evaluateRules thresholds call AlertRule.all).mono ?_
    intro outcome raised
    cases outcome with
    | ok events => exact iff_of_true ⟨events, rfl⟩ matching
    | error error => cases raised
  · refine iff_of_false ?_ matching
    rintro ⟨events, isOk⟩
    cases isOk

end AlertStates

/-! ## Session states -/

section SessionStates

open MultisiteCrawler.BrowserSession

variable {Time : Type}

/-- The text is that of a state, stored at the key of its profile. -/
def IsSessionText (zones : ZoneRules) (key text : String) : Prop :=
  ∃ state : BrowserSessionState,
    isProfileReference state.profileReference = true ∧
      key = stateKey state.profileReference ∧ text = encode zones state

/-- An operation of the sessions keeps the states and ends as it may. -/
abbrev SessionSafe (Time : Type) (zones : ZoneRules)
    (ends : Except SessionError BrowserSessionState → Prop)
    (program : SessionProgram BrowserSessionState) : Prop :=
  StoreSafe Time (IsSessionText zones) (fun _ event => event) ends program

/-- A call with accepted arguments writes its state; others end at once. -/
theorem program_call (zones : ZoneRules) (call : Call) :
    call.program zones =
      if call.Accepted then
        .perform
          (.set (stateKey call.profileReference) (encode zones call.written)
            none)
          fun _ => ofOutcome call.outcome
      else ofOutcome call.outcome := by
  unfold Call.outcome Call.Accepted
  cases call with
  | refresh profileReference current =>
      simp only [Call.program, recordManualRefresh, Call.profileReference,
        Call.current, validateProfileReference, validateBeijingDatetime]
      by_cases validProfile : isProfileReference profileReference = true
      · by_cases validTime : current.tzinfo = some beijing
        · simp [validProfile, validTime, require, Except.mapError, save,
            Program.ofOutcome, Call.written]
        · simp [validProfile, validTime, require, Except.mapError,
            Program.ofOutcome]
      · simp [validProfile, require, Except.mapError, Program.ofOutcome]
  | observe profileReference observation current =>
      simp only [Call.program, recordObservation, Call.profileReference,
        Call.current, validateProfileReference, validateBeijingDatetime]
      by_cases validProfile : isProfileReference profileReference = true
      · by_cases validTime : current.tzinfo = some beijing
        · cases observation <;>
            simp [validProfile, validTime, require, Except.mapError, save,
              Program.ofOutcome, Call.written, observationState]
        · simp [validProfile, validTime, require, Except.mapError,
            Program.ofOutcome]
      · simp [validProfile, require, Except.mapError, Program.ofOutcome]

theorem sessionSafe_call (zones : ZoneRules) (call : Call) :
    SessionSafe Time zones (fun outcome => outcome = call.outcome)
      (call.program zones) := by
  rw [program_call]
  split_ifs with accepted
  · intro now state isValid
    refine ⟨allValid_update isValid ?_, safe_ofOutcome rfl⟩
    rintro text ⟨⟩
    refine ⟨call.written, ?_, ?_, rfl⟩
    · rw [Call.written_profileReference]
      exact accepted.1
    · rw [Call.written_profileReference]
  · exact safe_ofOutcome rfl

theorem sessionSafe_getState (zones : ZoneRules) (profileReference : String) :
    SessionSafe Time zones
      (fun outcome => (∃ state, outcome = .ok state) ↔
        isProfileReference profileReference = true)
      (getState profileReference) := by
  rw [getState, validateProfileReference]
  split_ifs with valid
  · show SessionSafe Time zones _ (StoreProgram.get _ >>= _)
    refine safe_bind (safe_get (stateKey profileReference)) ?_ ?_
    · rintro read -
      cases read with
      | none => exact iff_of_true ⟨_, rfl⟩ valid
      | some text => exact iff_of_true ⟨_, rfl⟩ valid
    · rintro error ⟨read, isRead, _⟩
      cases isRead
  · refine iff_of_false ?_ valid
    rintro ⟨state, isOk⟩
    cases isOk

end SessionStates

/-! ## Circuits -/

section Circuits

open MultisiteCrawler.Resilience

variable {Time : Type} [CommRing Time] [LinearOrder Time]

/-- Every entry is the text of a circuit, which expires. -/
def HoldsCircuits (codec : TimeCodec Time) (_ : Time)
    (store : Store String String Time) : Prop :=
  AllValid
    (fun _ entry => (∃ circuit : StoredCircuit Time,
      entry.value = circuit.text codec) ∧ entry.deadline ≠ none)
    store

/-- How a call of the breaker ends. -/
def circuitEnds :
    CircuitCall Time → Except PyError (Option Bool) → Prop
  | .allowRequest _ _, outcome => ∃ allowed, outcome = .ok (some allowed)
  | .recordFailure _ _, outcome => outcome = .ok none
  | .recordSuccess _ _, outcome => outcome = .ok none

omit [CommRing Time] in
/-- What a breaker reads is the text of a circuit, if anything. -/
theorem HoldsCircuits.read
    {codec : TimeCodec Time} {now : Time} {store : Store String String Time}
    (holds : HoldsCircuits codec now store) (key : String) :
    ∃ stored : Option (StoredCircuit Time),
      read now key store = stored.map (StoredCircuit.text codec) := by
  cases isRead : Foundation.ExpiringStore.read now key store with
  | none => exact ⟨none, rfl⟩
  | some text =>
      rcases exists_entry_of_read isRead with ⟨entry, present, rfl, _⟩
      rcases (holds key entry present).1 with ⟨circuit, isText⟩
      exact ⟨some circuit, congrArg some isText⟩

/-- A circuit is stored with a lifetime. -/
theorem HoldsCircuits.write
    {codec : TimeCodec Time} {now : Time} {store : Store String String Time}
    (holds : HoldsCircuits codec now store) (key : String)
    (circuit : StoredCircuit Time) (seconds : ℕ) :
    HoldsCircuits codec now
      (expiringHandler now (.set key (circuit.text codec) (some seconds))
        store).2 := by
  refine allValid_update holds ?_
  rintro entry ⟨⟩
  exact ⟨⟨circuit, rfl⟩, Option.some_ne_none _⟩

theorem circuitSafe_program
    (codec : TimeCodec Time) (policy : CircuitPolicy)
    (call : CircuitCall Time) :
    Safe expiringHandler (HoldsCircuits codec) (circuitEnds call)
      (call.program codec policy) := by
  cases call with
  | allowRequest sourceId now =>
      rw [program_allowRequest]
      intro reading store holds
      refine ⟨holds, ?_⟩
      rcases holds.read (circuitKey sourceId) with
        ⟨stored, isRead⟩
      show
        Safe _ _ _
          (allowLoaded codec policy sourceId now
            (loads (orEmpty (read reading (circuitKey sourceId) store))))
      rw [isRead, StoredCircuit.loads_found, allowLoaded,
        StoredCircuit.allowMembers_members]
      split_ifs
      · cases (StoredCircuit.found stored).probed with
        | none => exact ⟨true, rfl⟩
        | some probed =>
            intro writing later holdsLater
            exact ⟨holdsLater.write _ probed _, true, rfl⟩
      · exact ⟨false, rfl⟩
  | recordFailure sourceId now =>
      rw [program_recordFailure]
      intro reading store holds
      refine ⟨holds, ?_⟩
      rcases holds.read (circuitKey sourceId) with
        ⟨stored, isRead⟩
      show
        Safe _ _ _
          (failureCounted codec policy sourceId now
            (failureCount (read reading (circuitKey sourceId) store)))
      rw [isRead, StoredCircuit.failureCount_found, failureCounted,
        StoredCircuit.failureText_failures]
      intro writing later holdsLater
      exact ⟨holdsLater.write _ _ _, rfl⟩
  | recordSuccess sourceId now =>
      intro writing store holds
      exact ⟨holds.write (circuitKey sourceId) .closed 1, rfl⟩

end Circuits

/-! ## Locks -/

section Locks

variable {Time : Type} [CommRing Time] [LinearOrder Time]
variable [IsStrictOrderedRing Time]

/-- Every lock expires, at most its lifetime from now. -/
def HoldsLocks (now : Time) (store : Store String String Time) : Prop :=
  AllValid
    (fun _ entry => ∃ deadline, entry.deadline = some deadline ∧
      deadline ≤ now + lockTtlSeconds)
    store

theorem HoldsLocks.later
    {now later : Time} {store : Store String String Time}
    (holds : HoldsLocks now store) (ordered : now ≤ later) :
    HoldsLocks later store := by
  intro key entry isStored
  rcases holds key entry isStored with ⟨deadline, isDeadline, inTime⟩
  exact ⟨deadline, isDeadline, inTime.trans (add_le_add_left ordered _)⟩

omit [IsStrictOrderedRing Time] in
theorem lockSafe_command (operation : LockOperation) :
    Safe leaseHandler (@HoldsLocks Time _ _)
      (RaisesOnly fun _ => False)
      (issue operation.command :
        Program LeaseCommand (fun _ => Bool) PyError Bool) := by
  intro now store holds
  refine ⟨?_, trivial⟩
  have fresh (key token : String) :
      HoldsLocks now
        (write key token (some (now + operation.command.lease.ttlSeconds))
          store) := by
    refine allValid_update holds ?_
    rintro entry ⟨⟩
    exact ⟨_, rfl, by rw [operation.ttlSeconds_eq]⟩
  cases command : operation.command with
  | acquire lease =>
      rw [command] at fresh
      show HoldsLocks now (lease.acquire now store).2
      rw [RedisLease.acquire, setIfAbsent]
      cases read now lease.key store with
      | none => exact fresh _ _
      | some held => exact holds
  | renew lease =>
      rw [command] at fresh
      show HoldsLocks now (lease.renew now store).2
      rw [RedisLease.renew, compareExpire]
      split_ifs
      · exact fresh _ _
      · exact holds
  | release lease =>
      show HoldsLocks now (lease.release now store).2
      rw [RedisLease.release, compareDelete]
      split_ifs
      · refine allValid_update holds ?_
        rintro entry ⟨⟩
      · exact holds

end Locks

/-! ## Runs of the whole crawler -/

section Runs

variable {Time Number Ratio : Type} [LE Ratio] [DecidableLE Ratio]
variable [CommRing Time] [LinearOrder Time]
variable {rules : CrawlerRules Time Number}
variable {started now : Time} {initial world : RedisWorld Time}
variable {running : (client : Client) → client.Tasks Time Number Ratio}

/-- What the server holds at the keys of the components. -/
structure Contents (rules : CrawlerRules Time Number) (now : Time)
    (world : RedisWorld Time) : Prop where
  schedules : ∀ key entry, Client.scheduler.Owns key →
    world.entries key = some entry →
      ∃ schedule : Schedule, entry = ⟨.text schedule.text, none⟩
  alertStates : ∀ key entry, Client.alerts.Owns key →
    world.entries key = some entry →
      ∃ state : AlertState, entry = ⟨.text state.value, none⟩
  sessionStates : ∀ key entry, Client.sessions.Owns key →
    world.entries key = some entry →
      ∃ state : BrowserSession.BrowserSessionState,
        BrowserSession.isProfileReference state.profileReference = true ∧
          key = BrowserSession.stateKey state.profileReference ∧
          entry = ⟨.text (BrowserSession.encode rules.zones state), none⟩
  circuits : ∀ key entry, Client.circuits.Owns key →
    world.entries key = some entry →
      ∃ (circuit : Resilience.StoredCircuit Time) (deadline : Time),
        entry = ⟨.text (circuit.text rules.codec), some deadline⟩
  locks : ∀ key entry, Client.leases.Owns key →
    world.entries key = some entry →
      ∃ token deadline, entry = ⟨.text token, some deadline⟩ ∧
        deadline ≤ now + lockTtlSeconds

/-- How an operation on the metrics may end, given the calls made so far. -/
def metricsEnds (floats : FloatRules Number)
    (calls : List (MetricsCall Number)) :
    MetricsOperation Number → Except PyError (Option MetricsSnapshot) → Prop
  | .record call, .ok _ => call.accepted floats = true
  | .record call, .error _ =>
      call.accepted floats = false ∨ CutOff floats calls call
  | .snapshot _, outcome => ∃ read, outcome = .ok read

/-- How an operation may end, given the calls of the metrics made so far. -/
def MayEnd (rules : CrawlerRules Time Number)
    (calls : List (MetricsCall Number)) :
    (client : Client) → client.Operation Time Number Ratio →
      Except client.Error client.Result → Prop
  | .scheduler, operation, outcome =>
      RaisesOnly (schedulerRaises rules.answer operation) outcome
  | .alerts, (_, call), outcome =>
      (∃ events, outcome = .ok events) ↔ matchesSourceId call.sourceId = true
  | .sessions, .record call, outcome => outcome = call.outcome
  | .sessions, .getState profileReference, outcome =>
      (∃ state, outcome = .ok state) ↔
        BrowserSession.isProfileReference profileReference = true
  | .circuits, (_, call), outcome => circuitEnds call outcome
  | .leases, _, outcome => ∃ done, outcome = .ok done
  | .metrics, operation, outcome =>
      metricsEnds rules.floats calls operation outcome
  | .others, _, _ => True

/-- What holds of a client's own store at every moment. -/
def Keeps (rules : CrawlerRules Time Number) :
    (client : Client) → Time → client.Own Time → Prop
  | .scheduler, _, store => AllValid (fun _ => IsScheduleText) store.values
  | .alerts, now, store => HoldsAlertStates now store
  | .sessions, _, store => AllValid (IsSessionText rules.zones) store.values
  | .circuits, now, store => HoldsCircuits rules.codec now store
  | .leases, now, store => HoldsLocks now store
  | .metrics, _, _ => True
  | .others, _, _ => True

theorem keeps_emptyStore (client : Client) :
    Keeps rules client started (emptyStore initial client) := by
  cases client with
  | metrics => trivial
  | others => trivial
  | _ =>
      rintro key stored isStored
      cases isStored

theorem Keeps.later [IsStrictOrderedRing Time] {client : Client}
    {now later : Time} {store : client.Own Time} (ordered : now ≤ later)
    (keeps : Keeps rules client now store) :
    Keeps rules client later store := by
  cases client with
  | leases => exact HoldsLocks.later keeps ordered
  | _ => exact keeps

theorem safe_program
    (calls : List (MetricsCall Number)) (client : Client)
    (operation : client.Operation Time Number Ratio)
    (isText : client ≠ .metrics ∧ client ≠ .others) :
    Safe (ownHandler rules.answer client) (Keeps rules client)
      (MayEnd rules calls client operation)
      (program rules client operation) := by
  cases client with
  | scheduler => exact scheduleSafe_program operation
  | alerts => exact safe_evaluate operation.1 operation.2
  | sessions =>
      cases operation with
      | record call => exact sessionSafe_call rules.zones call
      | getState profileReference =>
          exact sessionSafe_getState rules.zones profileReference
  | circuits =>
      exact circuitSafe_program rules.codec operation.1 operation.2
  | leases =>
      refine (lockSafe_command operation).mono ?_
      intro outcome raised
      cases outcome with
      | ok done => exact ⟨done, rfl⟩
      | error error => cases raised
  | metrics => exact absurd rfl isText.1
  | others => exact absurd rfl isText.2

/-- What a client which keeps texts is at in a run of the whole crawler. -/
theorem Run.keeps [IsStrictOrderedRing Time]
    (run : Run rules started initial running now world)
    (untouched : Untouched initial) (calls : List (MetricsCall Number))
    (client : Client) (isText : client ≠ .metrics ∧ client ≠ .others) :
    ∃ store, Holds client world store ∧ Keeps rules client now store ∧
      ∀ task ∈ running client,
        Safe (ownHandler rules.answer client) (Keeps rules client)
          (MayEnd rules calls client task.1) task.2 := by
  rcases run.ownRun untouched.holds client with ⟨store, alone, holds, _⟩
  have safe :=
    Alone.safe alone
      (fun operation => safe_program calls client operation isText)
      (fun _ _ _ ordered keeps => keeps.later ordered)
      (keeps_emptyStore client)
  exact ⟨store, holds, safe⟩

omit [LE Ratio] [DecidableLE Ratio] [CommRing Time] [LinearOrder Time] in
theorem entry_of_textCell
    {stored : Option (Entry String Time)} {entry : Entry RedisValue Time}
    (isCell : textCell stored = some entry) :
    ∃ text, stored = some text ∧ entry = ⟨.text text.value, text.deadline⟩ := by
  rcases Option.map_eq_some_iff.mp isCell with ⟨text, isStored, isEntry⟩
  exact ⟨text, isStored, isEntry.symm⟩

omit [LE Ratio] [DecidableLE Ratio] [CommRing Time] [LinearOrder Time] in
theorem entry_of_plainCell
    {stored : Option String} {entry : Entry RedisValue Time}
    (isCell : plainCell stored = some entry) :
    ∃ text, stored = some text ∧ entry = ⟨.text text, none⟩ := by
  rcases entry_of_textCell isCell with ⟨found, isFound, rfl⟩
  rcases Option.map_eq_some_iff.mp isFound with ⟨text, isStored, rfl⟩
  exact ⟨text, isStored, rfl⟩

/-- In every run the server holds what its components write. -/
theorem contents_of_run [IsStrictOrderedRing Time]
    (run : Run rules started initial running now world)
    (untouched : Untouched initial) : Contents rules now world where
  schedules key entry owns isEntry := by
    rcases run.keeps untouched [] .scheduler ⟨nofun, nofun⟩ with
      ⟨store, holds, keeps, _⟩
    rw [holds.entries key owns] at isEntry
    rcases entry_of_plainCell isEntry with ⟨text, isStored, rfl⟩
    rcases keeps key text isStored with ⟨schedule, rfl⟩
    exact ⟨schedule, rfl⟩
  alertStates key entry owns isEntry := by
    rcases run.keeps untouched [] .alerts ⟨nofun, nofun⟩ with
      ⟨store, holds, keeps, _⟩
    rw [holds.entries key owns] at isEntry
    rcases entry_of_plainCell isEntry with ⟨text, isStored, rfl⟩
    rcases keeps key text isStored with ⟨state, rfl⟩
    exact ⟨state, rfl⟩
  sessionStates key entry owns isEntry := by
    rcases run.keeps untouched [] .sessions ⟨nofun, nofun⟩ with
      ⟨store, holds, keeps, _⟩
    rw [holds.entries key owns] at isEntry
    rcases entry_of_plainCell isEntry with ⟨text, isStored, rfl⟩
    rcases keeps key text isStored with ⟨state, isReference, isKey, rfl⟩
    exact ⟨state, isReference, isKey, rfl⟩
  circuits key entry owns isEntry := by
    rcases run.keeps untouched [] .circuits ⟨nofun, nofun⟩ with
      ⟨store, holds, keeps, _⟩
    rw [holds.entries key owns] at isEntry
    rcases entry_of_textCell isEntry with ⟨text, isStored, rfl⟩
    rcases keeps key text isStored with ⟨⟨circuit, isText⟩, expires⟩
    rcases Option.ne_none_iff_exists'.mp expires with ⟨deadline, isDeadline⟩
    exact ⟨circuit, deadline, by rw [isText, isDeadline]⟩
  locks key entry owns isEntry := by
    rcases run.keeps untouched [] .leases ⟨nofun, nofun⟩ with
      ⟨store, holds, keeps, _⟩
    rw [holds.entries key owns] at isEntry
    rcases entry_of_textCell isEntry with ⟨text, isStored, rfl⟩
    rcases keeps key text isStored with ⟨deadline, isDeadline, inTime⟩
    exact ⟨text.value, deadline, by rw [isDeadline], inTime⟩

/-- A server on which a success was recorded for the circuit of a source. -/
def closedWorld : RedisWorld ℤ where
  entries :=
    Function.update queuedWorld.entries "circuit:demo"
      (some ⟨.text "\x7b\x7d", some 1⟩)
  dispatched := []

/-- What is left of recording the success. -/
def closingTasks (rest : Client.circuits.Task ℤ) :
    (client : Client) → client.Tasks ℤ ℤ ℚ :=
  Function.update (fun _ => []) .circuits
    [((Resilience.twoFailures, .recordSuccess "demo" 0), rest)]

theorem run_closedWorld :
    Run wholeRules 0 queuedWorld (closingTasks (.done none)) 0
      closedWorld := by
  have started :
      Run wholeRules 0 queuedWorld
        (closingTasks
          (.perform (.set "circuit:demo" "\x7b\x7d" (some 1))
            fun _ => .done none))
        0 queuedWorld :=
    Run.nothing.start .circuits
      (Resilience.twoFailures, .recordSuccess "demo" 0)
  have isRunning :
      closingTasks
          (.perform (.set "circuit:demo" "\x7b\x7d" (some 1))
            fun _ => .done none)
          .circuits =
        [] ++
          ((Resilience.twoFailures, .recordSuccess "demo" 0),
            .perform (.set "circuit:demo" "\x7b\x7d" (some 1))
              fun _ => .done none) :: [] :=
    Function.update_self _ _ _
  have isServed :
      serve wholeRules.answer .circuits 0
          (.set "circuit:demo" "\x7b\x7d" (some 1)) queuedWorld =
        some ((), closedWorld) := rfl
  have ended := started.step isRunning isServed
  rw [closingTasks, Function.update_idem] at ended
  exact ended

theorem contents_closedWorld : Contents wholeRules 0 closedWorld :=
  contents_of_run run_closedWorld untouched_queuedWorld

/--
In every run an operation which has ended has ended as it may.  A call of
`record_run` here has a timestamp and a text for its number of items.
-/
theorem mayEnd_of_run [IsStrictOrderedRing Time]
    (run : Run rules started initial running now world)
    (untouched : Untouched initial) (client : Client)
    (operation : client.Operation Time Number Ratio)
    (outcome : Except client.Error client.Result)
    (ended : (operation, ofOutcome outcome) ∈ running client) :
    MayEnd rules (startedCalls (running .metrics)) client operation
      outcome := by
  by_cases isText : client ≠ .metrics ∧ client ≠ .others
  · rcases run.keeps untouched (startedCalls (running .metrics)) client
      isText with ⟨_, _, _, safe⟩
    exact (safe _ ended).ended
  · cases client with
    | metrics =>
        rcases run.ownRun untouched.holds .metrics with ⟨store, alone, _, _⟩
        have counted : Counted rules.floats (running .metrics) store :=
          counted_of_alone alone
        have account := counted.account
        cases operation with
        | record call =>
            cases outcome with
            | ok result => exact account.returns call result ended
            | error error => exact account.raises call error ended
        | snapshot queueDepths =>
            cases outcome with
            | ok result => exact ⟨result, rfl⟩
            | error error =>
                exact absurd ended (account.snapshots queueDepths error)
    | others => trivial
    | _ => exact absurd ⟨nofun, nofun⟩ isText

end Runs

/-! ## A request which is refused for what another call left -/

section Refused

open MultisiteCrawler.Resilience

/-- The circuit calls under way, and their store. -/
abbrev CircuitRun (tasks : Client.circuits.Tasks ℤ ℤ ℚ)
    (store : Store String String ℤ) : Prop :=
  OwnRun wholeRules 0 .circuits (emptyStore queuedWorld .circuits) tasks 0
    store

theorem CircuitRun.step {operation : Client.circuits.Operation ℤ ℤ ℚ}
    {rest : Client.circuits.Tasks ℤ ℤ ℚ} {store : Store String String ℤ}
    {command : Client.circuits.Command ℤ}
    {next : Client.circuits.Reply ℤ command → Client.circuits.Task ℤ}
    (run : CircuitRun ((operation, perform command next) :: rest) store) :
    CircuitRun ((operation, next (expiringHandler 0 command store).1) :: rest)
      (expiringHandler 0 command store).2 := by
  have split :
      CircuitRun ([] ++ (operation, perform command next) :: rest) store :=
    run
  exact Alone.step split

/-- A circuit which opens at the first failure. -/
def oneFailure : CircuitPolicy :=
  ⟨1, 1, Nat.one_pos, Nat.one_pos⟩

/-- A failure is recorded. -/
def failing : Client.circuits.Operation ℤ ℤ ℚ :=
  (oneFailure, .recordFailure "demo" 0)

/-- Another process asks for the circuit. -/
def asking : Client.circuits.Operation ℤ ℤ ℚ :=
  (oneFailure, .allowRequest "demo" 0)

/-- The request finds the circuit which the failure has opened. -/
theorem exists_refusedRun :
    ∃ store,
      CircuitRun [(asking, .done (some false)), (failing, .done none)]
        store := by
  have begun :
      CircuitRun
        [(failing, (failing.2).program wholeSeconds oneFailure)] _ :=
    Alone.start failing Alone.nothing
  rw [failing, program_recordFailure] at begun
  have counted :
      CircuitRun
        [(failing,
          failureCounted wholeSeconds oneFailure "demo" 0
            (failureCount none))] _ :=
    begun.step
  have noFailures : failureCount none = .ok 0 :=
    StoredCircuit.failureCount_found wholeSeconds none
  rw [noFailures] at counted
  have failed :
      RedisCircuitBreaker.failureText wholeSeconds oneFailure (0 + 1) 0 =
        (StoredCircuit.opened 0 0 false).text wholeSeconds :=
    StoredCircuit.failureText_failures wholeSeconds oneFailure .closed 0
  have writes :
      CircuitRun
        [(failing,
          perform
            (.set (circuitKey "demo")
              (RedisCircuitBreaker.failureText wholeSeconds oneFailure
                (0 + 1) 0)
              (some 1))
            fun _ => .done none)] _ :=
    counted
  rw [failed] at writes
  have asks :
      CircuitRun
        [(asking, (asking.2).program wholeSeconds oneFailure),
          (failing, .done none)] _ :=
    Alone.start asking writes.step
  rw [asking, program_allowRequest] at asks
  have read :
      CircuitRun
        [(asking,
            allowLoaded wholeSeconds oneFailure "demo" 0
              (loads
                (orEmpty
                  (some
                    ((StoredCircuit.opened 0 0 false).text
                      wholeSeconds))))),
          (failing, .done none)] _ :=
    asks.step
  have isLoaded :=
    StoredCircuit.loads_found wholeSeconds
      (some (StoredCircuit.opened 0 0 false))
  rw [Option.map_some] at isLoaded
  rw [isLoaded, allowLoaded, StoredCircuit.allowMembers_members] at read
  exact ⟨_, read⟩

/-- The request ends as it may. -/
theorem mayEnd_refusedRequest :
    ∃ (running : (client : Client) → client.Tasks ℤ ℤ ℚ)
        (world : RedisWorld ℤ),
      Run wholeRules 0 queuedWorld running 0 world ∧
        MayEnd wholeRules (startedCalls (running .metrics)) .circuits asking
          (.ok (some false)) := by
  rcases exists_refusedRun with ⟨store, alone⟩
  rcases exists_run_of_ownRun untouched_queuedWorld.holds alone with
    ⟨running, world, run, isTasks, _⟩
  have ended :
      (asking, ofOutcome (.ok (some false))) ∈ running .circuits := by
    rw [isTasks]
    exact List.mem_cons_self
  exact
    ⟨running, world, run,
      mayEnd_of_run run untouched_queuedWorld .circuits asking
        (.ok (some false)) ended⟩

end Refused

end MultisiteCrawler.Redis
