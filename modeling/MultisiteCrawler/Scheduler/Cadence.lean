import MultisiteCrawler.Scheduler.Operations
import MultisiteCrawler.Scheduler.Schedule

/-!
# Scheduler cadence

Runs of the scheduler service over one store: any operations on any sources,
one after another, at clock readings in any order and with a dispatch callback
which may raise.  A restart keeps nothing but the store, so it is not a step
of its own.

Beside the store a run records what was observed of every source: its
registration, the last pause which was accepted, and the times of the dispatch
attempts of its ticks.  `Tracks` ties the stored text to these observations.
-/

namespace MultisiteCrawler.Scheduler

open Foundation.AwareTime
open Foundation.CivilTime
open Foundation.Interaction
open Foundation.JsonText
open Foundation.PythonErrors

/-! ## Runs -/

/-- What was observed of one source. -/
structure Observed where
  registered : Option (ℤ × NaiveDateTime) := none
  lastPause : Option Bool := none
  dispatches : List NaiveDateTime := []

/-- The observations of a source after an operation. -/
def Observed.after (sourceId : String) (observed : Observed)
    (operation : Operation) (outcome : Except PyError OperationResult)
    (dispatched : List String) : Observed :=
  if operation.sourceId = sourceId then
    match operation, outcome with
    | .registerIfMissing _ interval current, .ok (.flag true) =>
        { observed with registered := some (interval, current) }
    | .pause _ paused, .ok _ => { observed with lastPause := some paused }
    | .tick _ current, _ =>
        if dispatched = [] then observed
        else { observed with dispatches := observed.dispatches ++ [current] }
    | _, _ => observed
  else observed

/-- The store and the observations of every source. -/
structure System where
  store : SchedulerStore
  observed : String → Observed

/-- The empty store, before anything was observed. -/
def System.initial : System :=
  ⟨.empty, fun _ => {}⟩

variable (answer : DispatchCallback)

/-- The system after an operation. -/
def System.after (system : System) (operation : Operation) : System where
  store := (runOperation answer operation system.store).2
  observed sourceId :=
    (system.observed sourceId).after sourceId operation
      (runOperation answer operation system.store).1
      (emitted system.store (runOperation answer operation system.store).2)

/-- The system after a sequence of operations on an empty store. -/
def runOperations (operations : List Operation) : System :=
  operations.foldl (System.after answer) .initial

theorem runOperations_concat
    (operations : List Operation) (operation : Operation) :
    runOperations answer (operations ++ [operation]) =
      (runOperations answer operations).after answer operation := by
  simp [runOperations]

/-! ## The stored text and the observations -/

/-- A schedule agrees with the observations of its source. -/
structure Tracks (schedule : Schedule) (registeredAt : NaiveDateTime)
    (observed : Observed) : Prop where
  paused : schedule.paused = observed.lastPause.getD false
  lastDispatch : schedule.lastDispatch = observed.dispatches.getLast?
  next : observed.dispatches = [] → schedule.next = registeredAt
  spaced : observed.dispatches.IsChain (Spaced schedule.interval)

/--
The text of a source agrees with its observations.  Before the registration
there is no text and nothing was observed.
-/
def Consistent (stored : Option String) (observed : Observed) : Prop :=
  match observed.registered with
  | none => stored = none ∧ observed = {}
  | some (interval, registeredAt) =>
      ∃ schedule : Schedule,
        stored = some schedule.text ∧ schedule.interval = interval ∧
          Tracks schedule registeredAt observed

theorem consistent_of_schedule
    {stored : Option String} {observed : Observed}
    (schedule : Schedule) (registeredAt : NaiveDateTime)
    (isText : stored = some schedule.text)
    (registered :
      observed.registered = some (schedule.interval, registeredAt))
    (tracks : Tracks schedule registeredAt observed) :
    Consistent stored observed := by
  unfold Consistent
  rw [registered]
  exact ⟨schedule, isText, rfl, tracks⟩

/-- Either nothing was observed or a schedule is stored. -/
theorem Consistent.cases
    {stored : Option String} {observed : Observed}
    (consistent : Consistent stored observed) :
    (stored = none ∧ observed = {}) ∨
      ∃ schedule : Schedule, ∃ registeredAt,
        stored = some schedule.text ∧
          observed.registered = some (schedule.interval, registeredAt) ∧
            Tracks schedule registeredAt observed := by
  unfold Consistent at consistent
  cases registered : observed.registered with
  | none =>
      rw [registered] at consistent
      exact Or.inl consistent
  | some registration =>
      rw [registered] at consistent
      rcases registration with ⟨interval, registeredAt⟩
      rcases consistent with ⟨schedule, isText, rfl, tracks⟩
      exact Or.inr ⟨schedule, registeredAt, isText, rfl, tracks⟩

theorem interval_ge_of_nextRunAt
    {current next : NaiveDateTime} {interval : ℤ}
    (isNext : nextRunAt current interval = .ok next) :
    60 ≤ interval := by
  unfold nextRunAt at isNext
  split_ifs at isNext with short
  exact not_lt.mp short

/-- A dispatch keeps the schedule and the observations in agreement. -/
theorem Tracks.dispatch
    {schedule advanced : Schedule} {registeredAt current : NaiveDateTime}
    {observed : Observed} (tracks : Tracks schedule registeredAt observed)
    (due : schedule.due current = true)
    (isAdvanced : schedule.advance current = some advanced) :
    advanced.interval = schedule.interval ∧
      Tracks advanced registeredAt
        { observed with dispatches := observed.dispatches ++ [current] } := by
  rcases Schedule.exists_of_advance isAdvanced with ⟨next, isNext, rfl⟩
  refine ⟨rfl, tracks.paused, ?_, ?_, ?_⟩
  · rw [List.getLast?_concat]
    rfl
  · intro empty
    simp at empty
  · refine List.isChain_append.mpr
      ⟨tracks.spaced, List.isChain_singleton current, ?_⟩
    intro last isLast later isLater
    cases isLater
    have spaced : Spaced schedule.interval last current :=
      Schedule.spaced_of_due (tracks.lastDispatch.trans isLast) due
    exact spaced

theorem Observed.after_of_ne
    {sourceId : String} {operation : Operation}
    (different : operation.sourceId ≠ sourceId) (observed : Observed)
    (outcome : Except PyError OperationResult) (dispatched : List String) :
    observed.after sourceId operation outcome dispatched = observed := by
  unfold Observed.after
  exact if_neg different

theorem Observed.after_self
    (operation : Operation) (observed : Observed)
    (outcome : Except PyError OperationResult) (dispatched : List String) :
    observed.after operation.sourceId operation outcome dispatched =
      match operation, outcome with
      | .registerIfMissing _ interval current, .ok (.flag true) =>
          { observed with registered := some (interval, current) }
      | .pause _ paused, .ok _ =>
          { observed with lastPause := some paused }
      | .tick _ current, _ =>
          if dispatched = [] then observed
          else
            { observed with dispatches := observed.dispatches ++ [current] }
      | _, _ => observed := by
  unfold Observed.after
  exact if_pos rfl

/-- A registration stores a schedule unless there is one. -/
theorem Consistent.registerIfMissing
    {system : System} {sourceId : String} (interval : ℤ)
    (current : NaiveDateTime)
    (consistent :
      Consistent (system.store.values (stateKey sourceId))
        (system.observed sourceId)) :
    Consistent
      ((system.after answer
          (.registerIfMissing sourceId interval current)).store.values
        (stateKey sourceId))
      ((system.after answer
          (.registerIfMissing sourceId interval current)).observed
        sourceId) := by
  simp only [System.after, Observed.after, Operation.sourceId, if_true]
  rw [runOperation_registerIfMissing]
  rcases consistent.cases with
    ⟨missing, unobserved⟩ | ⟨schedule, registeredAt, isText, _⟩
  · simp only [missing]
    cases isNext : nextRunAt current interval with
    | error error => exact consistent
    | ok next =>
        refine
          consistent_of_schedule
            (.registered interval current (interval_ge_of_nextRunAt isNext))
            current ?_ rfl ?_
        · exact write_values_self _ _ _
        · rw [unobserved]
          exact ⟨rfl, rfl, fun _ => rfl, List.isChain_nil⟩
  · simp only [isText]
    rw [← isText]
    exact consistent

/-- A pause is stored in the schedule, if there is one. -/
theorem Consistent.pause
    {system : System} {sourceId : String} (paused : Bool)
    (consistent :
      Consistent (system.store.values (stateKey sourceId))
        (system.observed sourceId)) :
    Consistent
      ((system.after answer (.pause sourceId paused)).store.values
        (stateKey sourceId))
      ((system.after answer (.pause sourceId paused)).observed
        sourceId) := by
  simp only [System.after, Observed.after, Operation.sourceId, if_true]
  rw [runOperation_pause]
  rcases consistent.cases with
    ⟨missing, _⟩ | ⟨schedule, registeredAt, isText, registered, tracks⟩
  · simp only [missing, parseState]
    rw [← missing]
    exact consistent
  · simp only [isText, Schedule.parseState_text, Schedule.assign_paused]
    exact
      consistent_of_schedule (schedule.setPaused paused) registeredAt
        (write_values_self _ _ _) registered
        ⟨rfl, tracks.lastDispatch, tracks.next, tracks.spaced⟩

/-- A tick advances the schedule exactly if it dispatches. -/
theorem Consistent.tick
    {system : System} {sourceId : String} (current : NaiveDateTime)
    (consistent :
      Consistent (system.store.values (stateKey sourceId))
        (system.observed sourceId)) :
    Consistent
      ((system.after answer (.tick sourceId current)).store.values
        (stateKey sourceId))
      ((system.after answer (.tick sourceId current)).observed
        sourceId) := by
  simp only [System.after, Observed.after, Operation.sourceId, if_true]
  rw [runOperation_tick]
  rcases consistent.cases with
    ⟨missing, _⟩ | ⟨schedule, registeredAt, isText, registered, tracks⟩
  · simp only [missing, tickDecision, parseState, error_bind, emitted_self,
      if_true]
    rw [← missing]
    exact consistent
  · simp only [isText, Schedule.tickDecision_text]
    cases due : schedule.due current with
    | false =>
        simp only [Bool.false_eq_true, if_false, emitted_self, if_true]
        exact consistent
    | true =>
        simp only [if_true]
        cases isAdvanced : schedule.advance current with
        | none =>
            simp only [emitted_self, if_true]
            exact consistent
        | some advanced =>
            rcases tracks.dispatch due isAdvanced with ⟨sameInterval, tracked⟩
            simp only [emitted_emit_write, List.cons_ne_nil, if_false,
              emit_values]
            refine
              consistent_of_schedule advanced registeredAt
                (write_values_self _ _ _) ?_ tracked
            rw [sameInterval]
            exact registered

/-- Every operation keeps the text and the observations in agreement. -/
theorem Consistent.step
    {system : System} {sourceId : String} (operation : Operation)
    (consistent :
      Consistent (system.store.values (stateKey sourceId))
        (system.observed sourceId)) :
    Consistent
      ((system.after answer operation).store.values (stateKey sourceId))
      ((system.after answer operation).observed sourceId) := by
  by_cases same : operation.sourceId = sourceId
  · subst same
    cases operation with
    | registerIfMissing source interval current =>
        exact consistent.registerIfMissing answer interval current
    | pause source paused => exact consistent.pause answer paused
    | tick source current => exact consistent.tick answer current
    | manualTrigger source =>
        rw [System.after, runOperation_manualTrigger]
        simp only [Observed.after_self]
        exact consistent
    | nextRun source =>
        rw [System.after, runOperation_nextRun]
        simp only [Observed.after_self]
        exact consistent
  · simp only [System.after]
    rw [Observed.after_of_ne same,
      (runOperation_frame answer operation system.store sourceId same).1]
    exact consistent

/-- In every run the text and the observations agree. -/
theorem runOperations_consistent
    (operations : List Operation) (sourceId : String) :
    Consistent
      ((runOperations answer operations).store.values (stateKey sourceId))
      ((runOperations answer operations).observed sourceId) := by
  induction operations using List.reverseRecOn with
  | nil => exact ⟨rfl, rfl⟩
  | append_singleton operations operation induction =>
      rw [runOperations_concat]
      exact induction.step answer operation

/-! ## Cadence -/

/-- The interval in the text stored for a source. -/
def storedInterval (sourceId : String) (store : SchedulerStore) :
    Option ℤ :=
  (parseState sourceId (store.values (stateKey sourceId)) >>=
    readInterval).toOption

/-- A tick at the time attempts a dispatch. -/
def TickDispatches (answer : DispatchCallback) (store : SchedulerStore)
    (sourceId : String) (current : NaiveDateTime) : Prop :=
  emitted store (runOperation answer (.tick sourceId current) store).2 ≠ []

/-- The cadence of a source in one state of a run. -/
structure Cadence (answer : DispatchCallback) (system : System)
    (sourceId : String) : Prop where
  interval_ge : ∀ interval,
    storedInterval sourceId system.store = some interval → 60 ≤ interval
  interval_stable : ∀ interval operation,
    storedInterval sourceId system.store = some interval →
      storedInterval sourceId (system.after answer operation).store =
        some interval
  spaced : ∀ interval,
    storedInterval sourceId system.store = some interval →
      (system.observed sourceId).dispatches.IsChain (Spaced interval)
  none_before_registration :
    storedInterval sourceId system.store = none →
      (system.observed sourceId).dispatches = []
  unpaused : ∀ current,
    TickDispatches answer system.store sourceId current →
      (system.observed sourceId).lastPause ≠ some true
  nextRun : ∀ interval registeredAt,
    (system.observed sourceId).registered = some (interval, registeredAt) →
      storedInterval sourceId system.store = some interval ∧
        ∃ next,
          runOperation answer (.nextRun sourceId) system.store =
              (.ok (.time (naive next)), system.store) ∧
            match (system.observed sourceId).dispatches.getLast? with
            | none => next = registeredAt
            | some last => last.addSeconds interval = some next
  manualTrigger : ∀ other,
    (runOperation answer (.manualTrigger other) system.store).2.values =
      system.store.values
  isolated : ∀ operation : Operation,
    operation.sourceId ≠ sourceId →
      (runOperation answer operation system.store).2.values
            (stateKey sourceId) =
          system.store.values (stateKey sourceId) ∧
        sourceId ∉
          emitted system.store
            (runOperation answer operation system.store).2
  overdue_once : ∀ interval current again,
    storedInterval sourceId system.store = some interval →
      TickDispatches answer system.store sourceId current →
        ¬ Spaced interval current again →
          ¬ TickDispatches answer
            (system.after answer (.tick sourceId current)).store sourceId
            again

theorem storedInterval_of_missing
    {store : SchedulerStore} {sourceId : String}
    (missing : store.values (stateKey sourceId) = none) :
    storedInterval sourceId store = none := by
  rw [storedInterval, missing]
  rfl

theorem storedInterval_of_text
    {store : SchedulerStore} {sourceId : String} {schedule : Schedule}
    (isText : store.values (stateKey sourceId) = some schedule.text) :
    storedInterval sourceId store = some schedule.interval := by
  rw [storedInterval, isText, Schedule.parseState_text, ok_bind,
    Schedule.readInterval_state]
  rfl

/-- A tick without a stored text dispatches nothing. -/
theorem not_tickDispatches_of_missing
    {store : SchedulerStore} {sourceId : String}
    (missing : store.values (stateKey sourceId) = none)
    (current : NaiveDateTime) :
    ¬ TickDispatches answer store sourceId current := by
  unfold TickDispatches
  rw [runOperation_tick, missing]
  exact not_not.mpr (emitted_self store)

/-- A tick dispatches if the stored schedule is due and can advance. -/
theorem due_of_tickDispatches
    {store : SchedulerStore} {sourceId : String} {schedule : Schedule}
    {current : NaiveDateTime}
    (isText : store.values (stateKey sourceId) = some schedule.text)
    (dispatches : TickDispatches answer store sourceId current) :
    schedule.due current = true ∧
      ∃ advanced, schedule.advance current = some advanced := by
  unfold TickDispatches at dispatches
  rw [runOperation_tick, isText, Schedule.tickDecision_text] at dispatches
  cases due : schedule.due current with
  | false =>
      simp only [due, Bool.false_eq_true, if_false] at dispatches
      exact absurd (emitted_self store) dispatches
  | true =>
      cases isAdvanced : schedule.advance current with
      | none =>
          simp only [due, if_true, isAdvanced] at dispatches
          exact absurd (emitted_self store) dispatches
      | some advanced => exact ⟨rfl, advanced, rfl⟩

/-- The text a dispatching tick leaves. -/
theorem text_of_tickDispatches
    {system : System} {sourceId : String} {schedule : Schedule}
    {current : NaiveDateTime}
    (isText :
      system.store.values (stateKey sourceId) = some schedule.text)
    (dispatches : TickDispatches answer system.store sourceId current) :
    ∃ advanced : Schedule,
      (system.after answer (.tick sourceId current)).store.values
            (stateKey sourceId) = some advanced.text ∧
        advanced.interval = schedule.interval ∧
          advanced.lastDispatch = some current := by
  rcases due_of_tickDispatches answer isText dispatches with
    ⟨due, advanced, isAdvanced⟩
  refine ⟨advanced, ?_, ?_⟩
  · simp only [System.after]
    rw [runOperation_tick, isText, Schedule.tickDecision_text, if_pos due,
      isAdvanced]
    exact write_values_self _ _ _
  · rcases Schedule.exists_of_advance isAdvanced with ⟨next, isNext, rfl⟩
    exact ⟨rfl, rfl⟩

/-- An operation keeps the interval of a stored schedule. -/
theorem exists_text_after
    {system : System} {sourceId : String} {schedule : Schedule}
    (isText :
      system.store.values (stateKey sourceId) = some schedule.text)
    (operation : Operation) :
    ∃ changed : Schedule,
      (system.after answer operation).store.values (stateKey sourceId) =
          some changed.text ∧
        changed.interval = schedule.interval := by
  simp only [System.after]
  by_cases same : operation.sourceId = sourceId
  · subst same
    cases operation with
    | registerIfMissing source interval current =>
        simp only [Operation.sourceId] at isText ⊢
        rw [runOperation_registerIfMissing, isText]
        exact ⟨schedule, isText, rfl⟩
    | pause source paused =>
        simp only [Operation.sourceId] at isText ⊢
        rw [runOperation_pause, isText, Schedule.parseState_text]
        simp only [Schedule.assign_paused]
        exact ⟨schedule.setPaused paused, write_values_self _ _ _, rfl⟩
    | tick source current =>
        simp only [Operation.sourceId] at isText ⊢
        rw [runOperation_tick, isText, Schedule.tickDecision_text]
        split_ifs
        · cases isAdvanced : schedule.advance current with
          | none => exact ⟨schedule, isText, rfl⟩
          | some advanced =>
              rcases Schedule.exists_of_advance isAdvanced with
                ⟨next, isNext, rfl⟩
              exact ⟨_, write_values_self _ _ _, rfl⟩
        · exact ⟨schedule, isText, rfl⟩
    | manualTrigger source =>
        rw [runOperation_manualTrigger]
        exact ⟨schedule, isText, rfl⟩
    | nextRun source =>
        rw [runOperation_nextRun]
        exact ⟨schedule, isText, rfl⟩
  · rw [(runOperation_frame answer operation system.store sourceId same).1]
    exact ⟨schedule, isText, rfl⟩

/-- The cadence of a source in every state of every run. -/
theorem cadence_runOperations
    (answer : DispatchCallback) (operations : List Operation)
    (sourceId : String) :
    Cadence answer (runOperations answer operations) sourceId := by
  have consistent := runOperations_consistent answer operations sourceId
  generalize runOperations answer operations = system at consistent
  have manualTrigger :
      ∀ other,
        (runOperation answer (.manualTrigger other)
          system.store).2.values = system.store.values := by
    intro other
    rw [runOperation_manualTrigger]
    rfl
  have isolated := runOperation_frame answer
  rcases consistent.cases with
    ⟨missing, unobserved⟩ |
    ⟨schedule, registeredAt, isText, registered, tracks⟩
  · have noInterval := storedInterval_of_missing missing
    exact
      { interval_ge := by simp [noInterval]
        interval_stable := by simp [noInterval]
        spaced := by simp [noInterval]
        none_before_registration := fun _ => by rw [unobserved]
        unpaused := fun current dispatches =>
          absurd dispatches
            (not_tickDispatches_of_missing answer missing current)
        nextRun := by simp [unobserved]
        manualTrigger := manualTrigger
        isolated := fun operation =>
          isolated operation system.store sourceId
        overdue_once := by simp [noInterval] }
  · have isInterval := storedInterval_of_text isText
    refine
      { interval_ge := ?_
        interval_stable := ?_
        spaced := ?_
        none_before_registration := ?_
        unpaused := ?_
        nextRun := ?_
        manualTrigger := manualTrigger
        isolated := fun operation =>
          isolated operation system.store sourceId
        overdue_once := ?_ }
    · intro interval isStored
      rcases Option.some.inj (isInterval.symm.trans isStored) with rfl
      exact schedule.interval_ge
    · intro interval operation isStored
      rcases Option.some.inj (isInterval.symm.trans isStored) with rfl
      rcases exists_text_after answer isText operation with
        ⟨changed, changedText, sameInterval⟩
      rw [storedInterval_of_text changedText, sameInterval]
    · intro interval isStored
      rcases Option.some.inj (isInterval.symm.trans isStored) with rfl
      exact tracks.spaced
    · intro notStored
      rw [isInterval] at notStored
      cases notStored
    · intro current dispatches isPaused
      have due := (due_of_tickDispatches answer isText dispatches).1
      simp [Schedule.due, tracks.paused, isPaused] at due
    · intro interval since isRegistered
      rw [registered] at isRegistered
      cases isRegistered
      refine ⟨isInterval, schedule.next, ?_, ?_⟩
      · rw [runOperation_nextRun, isText, Schedule.parseState_text,
          ok_bind, Schedule.readNext_state]
        rfl
      · cases isLast : (system.observed sourceId).dispatches.getLast? with
        | none =>
            exact tracks.next (List.getLast?_eq_none_iff.mp isLast)
        | some last =>
            exact schedule.next_eq last (tracks.lastDispatch.trans isLast)
    · intro interval current again isStored dispatches close dispatchesAgain
      rcases Option.some.inj (isInterval.symm.trans isStored) with rfl
      rcases text_of_tickDispatches answer isText dispatches with
        ⟨advanced, advancedText, sameInterval, isLast⟩
      have due :=
        (due_of_tickDispatches answer advancedText dispatchesAgain).1
      have spaced := Schedule.spaced_of_due isLast due
      rw [sameInterval] at spaced
      exact close spaced

end MultisiteCrawler.Scheduler
