import MultisiteCrawler.Tasks.TerminalOutcome

/-!
# Leases which are given back

The same call against a store which it shares with others.  Before every
command time may pass, other owners may use the store, and the heartbeat may
renew the lease.

The release comes last in the `finally` clause, so nothing which happens in
the `try` keeps a lease.  But the heartbeat is built and started between the
acquisition and the `try`: if it is refused, nothing gives the lease back.
-/

namespace MultisiteCrawler.Tasks

open Foundation.ExpiringStore
open Foundation.Interaction
open Foundation.Interaction.Program (Handler)
open Foundation.PythonErrors
open Foundation.PythonFloats
open MultisiteCrawler.Locking
open Observability

/-! ## A shared store -/

/-- The time and the entries of the store. -/
abbrev SharedStore := ℚ × Store String String ℚ

/-- What a call has done, and the store it shares with others. -/
structure SharedState where
  now : ℚ
  store : Store String String ℚ
  commands : ℕ := 0
  reported : LeasedState := {}
  acquired : Bool := false
  releaseFailed : Bool := false

/-- Whatever happens to the store before the next command. -/
def SharedState.next (state : SharedState)
    (between : ℕ → SharedStore → SharedStore) : SharedState :=
  { state with
    now := (between state.commands (state.now, state.store)).1
    store := (between state.commands (state.now, state.store)).2
    commands := state.commands + 1 }

section Runs

variable {Value : Type} (surroundings : Surroundings Value)
variable (between : ℕ → SharedStore → SharedStore)

/--
The store answers unless its surroundings raise, and they answer everything
else.
-/
def sharedHandler :
    Handler (LeasedCommand Value) LeasedCommand.Reply SharedState
  | .acquire lease, state =>
      let current := state.next between
      match surroundings.acquires with
      | .error error => (.error error, current)
      | .ok _ =>
          let (acquired, store) := lease.acquire current.now current.store
          (.ok acquired,
            { current with store := store, acquired := acquired })
  | .release lease, state =>
      let current := state.next between
      match surroundings.releases with
      | .error error => (.error error, { current with releaseFailed := true })
      | .ok _ =>
          let (released, store) := lease.release current.now current.store
          (.ok released, { current with store := store })
  | command, state =>
      let (reply, reported) :=
        leasedHandler surroundings command state.reported
      (reply, { state.next between with reported := reported })

/-- A call from its beginning, over a store with these entries. -/
def sharedRun (start : SharedStore) (call : LeasedCall) :
    Except PyError (LeasedResult Value) × SharedState :=
  (runWithSourceLease call).run (sharedHandler surroundings between)
    { now := start.1, store := start.2 }

/-- The lease of a call. -/
def LeasedCall.lease (call : LeasedCall) : Except PyError RedisLease :=
  RedisLease.create (sourceLockKey call.sourceId) call.ttlSeconds none
    surroundings.token

/--
Whatever the store holds and whatever happens to it, a lease which the call
has acquired is not held in the end, unless its release failed.
-/
def GivenBack (call : LeasedCall) : Prop :=
  ∀ (start : SharedStore) (between : ℕ → SharedStore → SharedStore) lease,
    call.lease surroundings = .ok lease →
      let final := (sharedRun surroundings between start call).2
      final.acquired = true → final.releaseFailed = false →
        ¬ lease.Owns final.now final.store

/-- A call which ends before the lease can be acquired. -/
def EndsEarly (call : LeasedCall) : Prop :=
  (∃ error,
      runContext call.sourceId surroundings.crawlRunId call.taskId =
        .error error) ∨
    (∃ error, call.lease surroundings = .error error) ∨
    ∃ error, surroundings.acquires = .error error

end Runs

/-! ## Leases -/

/-- What is acquired is held. -/
theorem owns_acquire
    {lease : RedisLease} {now : ℚ} {store : Store String String ℚ}
    (acquired : (lease.acquire now store).1 = true) :
    lease.Owns now (lease.acquire now store).2 := by
  rw [RedisLease.acquire] at acquired ⊢
  cases held : read now lease.key store with
  | some value =>
      rw [setIfAbsent_of_present held] at acquired
      cases acquired
  | none =>
      rw [setIfAbsent_of_absent held, RedisLease.Owns,
        read_eq_ite (write_self _ _ _ _), if_pos]
      exact (Entry.live_deadline_iff _ _ _).mpr (lt_expiry lease now)

/-- What is released is not held. -/
theorem not_owns_release
    (lease : RedisLease) (now : ℚ) (store : Store String String ℚ) :
    ¬ lease.Owns now (lease.release now store).2 := by
  by_cases owns : lease.Owns now store
  · have released :
        lease.release now store = (true, erase lease.key store) := if_pos owns
    rw [released, RedisLease.Owns, read_eq_none (erase_self _ _)]
    exact (Option.some_ne_none lease.token).symm
  · have kept : lease.release now store = (false, store) :=
      compareDelete_of_ne owns
    rw [kept]
    exact owns

section Steps

variable {Value : Type} {surroundings : Surroundings Value}
variable {between : ℕ → SharedStore → SharedStore}

theorem run_newRunId_shared (state : SharedState) :
    LeasedProgram.newRunId.run (sharedHandler surroundings between) state =
      (.ok surroundings.crawlRunId, state.next between) := rfl

theorem run_newToken_shared (state : SharedState) :
    LeasedProgram.newToken.run (sharedHandler surroundings between) state =
      (.ok surroundings.token, state.next between) := rfl

theorem run_monotonic_shared (state : SharedState) :
    LeasedProgram.monotonic.run (sharedHandler surroundings between) state =
      (.ok (surroundings.clock.reading state.reported.readings),
        { state.next between with
          reported :=
            { state.reported with
              readings := state.reported.readings + 1 } }) := rfl

theorem run_acquire_shared (lease : RedisLease) (state : SharedState) :
    (LeasedProgram.acquire lease).run (sharedHandler surroundings between)
        state =
      let current := state.next between
      match surroundings.acquires with
      | .error error => (.error error, current)
      | .ok _ =>
          (.ok (lease.acquire current.now current.store).1,
            { current with
              store := (lease.acquire current.now current.store).2
              acquired := (lease.acquire current.now current.store).1 }) := by
  rw [LeasedProgram.acquire, Program.run_perform, sharedHandler,
    Program.run_ofOutcome]

theorem run_startHeartbeat_shared
    (lease : RedisLease) (interval : PyNumber) (state : SharedState) :
    (LeasedProgram.startHeartbeat lease interval).run
        (sharedHandler surroundings between) state =
      (surroundings.startsHeartbeat, state.next between) :=
  Program.run_ofOutcome _ _ _

/-- In the end the lease is not held, or its release failed. -/
theorem run_giveBack_store (lease : RedisLease) (state : SharedState) :
    let final :=
      ((giveBack lease).run (sharedHandler surroundings between) state).2
    final.releaseFailed = true ∨ ¬ lease.Owns final.now final.store := by
  have stopped :
      (giveBack lease).run (sharedHandler surroundings between) state =
        (LeasedProgram.release lease >>= fun _ =>
          (pure () : LeasedProgram Value Unit)).run
            (sharedHandler surroundings between) (state.next between) := rfl
  rw [stopped]
  cases raised : surroundings.releases with
  | error error =>
      refine Or.inl ?_
      simp [LeasedProgram.release, sharedHandler, raised, Program.ofOutcome]
  | ok reply =>
      refine Or.inr ?_
      have released := not_owns_release lease
        ((state.next between).next between).now
        ((state.next between).next between).store
      simpa [LeasedProgram.release, sharedHandler, raised,
        Program.ofOutcome] using released

variable (surroundings between) in
/-- A program which does not acquire the lease. -/
def KeepsAcquired {Result : Type} (program : LeasedProgram Value Result) :
    Prop :=
  ∀ state,
    (program.run (sharedHandler surroundings between) state).2.acquired =
      state.acquired

theorem KeepsAcquired.bind
    {Result Output : Type} {program : LeasedProgram Value Result}
    {continuation : Result → LeasedProgram Value Output}
    (first : KeepsAcquired surroundings between program)
    (rest : ∀ result, KeepsAcquired surroundings between
      (continuation result)) :
    KeepsAcquired surroundings between (program >>= continuation) := by
  intro state
  have kept := first state
  rw [Program.run_bind]
  cases ran : program.run (sharedHandler surroundings between) state with
  | mk outcome after =>
      rw [ran] at kept
      cases outcome with
      | error error => exact kept
      | ok result => exact (rest result after).trans kept

theorem keepsAcquired_ofOutcome
    {Result : Type} (outcome : Except PyError Result) :
    KeepsAcquired surroundings between (Program.ofOutcome outcome) := by
  intro state
  rw [Program.run_ofOutcome]

theorem keepsAcquired_reportOutcome
    (name : String) (context : RunContext) (outcome : RunOutcome)
    (startedAt : ℚ) (exception : Option PyError) :
    KeepsAcquired surroundings between
      (reportOutcome name context outcome startedAt exception) := by
  refine KeepsAcquired.bind (fun _ => rfl) fun endedAt => ?_
  exact (keepsAcquired_ofOutcome _).bind fun event _ => rfl

theorem keepsAcquired_recordTerminalMetric
    (hasMetricsStore : Bool) (context : RunContext) (outcome : RunOutcome)
    (startedAt : ℚ) :
    KeepsAcquired surroundings between
      (recordTerminalMetric hasMetricsStore context outcome startedAt) := by
  cases hasMetricsStore with
  | false => exact fun _ => rfl
  | true =>
      refine KeepsAcquired.bind (fun _ => rfl) fun endedAt => ?_
      refine KeepsAcquired.bind (fun _ => rfl) fun current => ?_
      exact fun state => keepsAcquired_ofOutcome _ _

/-! ## Calls -/

/-- What a call does with the lease it holds. -/
def useLease (call : LeasedCall) (context : RunContext) (startedAt : ℚ)
    (lease : RedisLease) : LeasedProgram Value (LeasedResult Value) := do
  let interval ← Program.ofOutcome call.heartbeat
  LeasedProgram.startHeartbeat lease interval
  ((attempt call context startedAt).tryCatch
      (reportFailure call context startedAt)).tryFinally
    (giveBack lease)

/-- What a call does whose lease is taken. -/
def skipOverlap (call : LeasedCall) (context : RunContext)
    (startedAt : ℚ) : LeasedProgram Value (LeasedResult Value) := do
  LeasedProgram.logSkip call.sourceId
  reportOutcome "run_skipped" context .skipped startedAt none
  recordTerminalMetric call.hasMetricsStore context .skipped startedAt
  pure .skippedOverlap

variable {call : LeasedCall}

/-- A call which reaches the acquisition of its lease. -/
theorem sharedRun_of_lease
    {context : RunContext} {lease : RedisLease} (start : SharedStore)
    (isContext :
      runContext call.sourceId surroundings.crawlRunId call.taskId =
        .ok context)
    (isLease : call.lease surroundings = .ok lease) :
    ∃ startedAt state,
      state.acquired = false ∧ state.releaseFailed = false ∧
        ((∀ count shared, between count shared = shared) →
          (state.now, state.store) = start) ∧
        sharedRun surroundings between start call =
          (do
            let acquired ← LeasedProgram.acquire lease
            if acquired then useLease call context startedAt lease
            else skipOverlap call context startedAt).run
            (sharedHandler surroundings between) state := by
  let first : SharedState := { now := start.1, store := start.2 }
  refine ⟨surroundings.clock.reading 0,
    { ((first.next between).next between).next between with
      reported := { readings := 1 } }, rfl, rfl, fun kept => ?_, ?_⟩
  · simp [first, SharedState.next, kept]
  · rw [LeasedCall.lease] at isLease
    simp only [sharedRun, runWithSourceLease, Program.run_bind,
      run_newRunId_shared, isContext, Program.run_ofOutcome,
      run_monotonic_shared, run_newToken_shared, isLease]
    rfl

/-- A call which ends early has acquired nothing. -/
theorem acquired_of_endsEarly
    (early : EndsEarly surroundings call) (start : SharedStore) :
    (sharedRun surroundings between start call).2.acquired = false := by
  cases isContext :
    runContext call.sourceId surroundings.crawlRunId call.taskId with
  | error error =>
      simp only [sharedRun, runWithSourceLease, Program.run_bind,
        run_newRunId_shared, isContext, Program.run_ofOutcome]
      rfl
  | ok context =>
      cases isLease : call.lease surroundings with
      | error error =>
          rw [LeasedCall.lease] at isLease
          simp only [sharedRun, runWithSourceLease, Program.run_bind,
            run_newRunId_shared, isContext, Program.run_ofOutcome,
            run_monotonic_shared, run_newToken_shared, isLease]
          rfl
      | ok lease =>
          rcases early with ⟨error, refused⟩ | ⟨error, refused⟩ |
            ⟨error, raises⟩
          · cases isContext.symm.trans refused
          · cases isLease.symm.trans refused
          · rcases sharedRun_of_lease start isContext isLease with
              ⟨startedAt, state, unheld, _, _, ran⟩
            rw [ran, Program.run_bind, run_acquire_shared, raises]
            exact unheld

/-- A call which finds the lease taken does not acquire it afterwards. -/
theorem keepsAcquired_skipOverlap (context : RunContext) (startedAt : ℚ) :
    KeepsAcquired surroundings between
      (skipOverlap call context startedAt) := by
  refine KeepsAcquired.bind (fun _ => rfl) fun _ => ?_
  refine (keepsAcquired_reportOutcome _ _ _ _ _).bind fun _ => ?_
  exact (keepsAcquired_recordTerminalMetric _ _ _ _).bind fun _ _ => rfl

/-- A call finds its lease taken, or it goes on with the lease it holds. -/
theorem sharedRun_cases
    (between : ℕ → SharedStore → SharedStore)
    (goesOn : ¬ EndsEarly surroundings call) {lease : RedisLease}
    (isLease : call.lease surroundings = .ok lease) (start : SharedStore) :
    ((sharedRun surroundings between start call).2.acquired = false ∧
        ((∀ count shared, between count shared = shared) →
          (lease.acquire start.1 start.2).1 = false)) ∨
      ∃ context startedAt state,
        state.acquired = true ∧ state.releaseFailed = false ∧
          lease.Owns state.now state.store ∧
          sharedRun surroundings between start call =
            (useLease call context startedAt lease).run
              (sharedHandler surroundings between) state := by
  simp only [EndsEarly, not_or, not_exists] at goesOn
  rcases goesOn with ⟨accepted, _, answers⟩
  cases isContext :
    runContext call.sourceId surroundings.crawlRunId call.taskId with
  | error error => exact absurd isContext (accepted error)
  | ok context =>
      cases replies : surroundings.acquires with
      | error error => exact absurd replies (answers error)
      | ok reply =>
          rcases sharedRun_of_lease start isContext isLease with
            ⟨startedAt, state, _, unreleased, kept, ran⟩
          rw [Program.run_bind, run_acquire_shared, replies] at ran
          dsimp only at ran
          cases acquired :
            (lease.acquire (state.next between).now
              (state.next between).store).1 with
          | false =>
              refine Or.inl ⟨?_, fun same => ?_⟩
              · rw [ran, acquired]
                exact keepsAcquired_skipOverlap context startedAt _
              · have isStart := kept same
                have isNext :
                    between state.commands (state.now, state.store) =
                      start := (same _ _).trans isStart
                rw [SharedState.next, isNext] at acquired
                exact acquired
          | true =>
              rw [acquired] at ran
              refine Or.inr ⟨context, startedAt, _, ?_, ?_, ?_, ran⟩
              · rfl
              · exact unreleased
              · exact owns_acquire acquired

/-- A call which ends early keeps no lease. -/
theorem givenBack_of_endsEarly (early : EndsEarly surroundings call) :
    GivenBack surroundings call := by
  intro start between lease _ final acquired
  have unheld : final.acquired = false := acquired_of_endsEarly early start
  cases unheld.symm.trans acquired

/-- A lease whose heartbeat starts is given back. -/
theorem givenBack_of_starts
    (starts : HeartbeatStarts surroundings call) :
    GivenBack surroundings call := by
  by_cases early : EndsEarly surroundings call
  · exact givenBack_of_endsEarly early
  intro start between lease isLease final acquired released
  rcases sharedRun_cases between early isLease start with
    ⟨unheld, _⟩ | ⟨context, startedAt, state, _, _, _, ran⟩
  · cases unheld.symm.trans acquired
  · rcases starts with ⟨⟨interval, isInterval⟩, started⟩
    rw [useLease, isInterval, Program.run_bind, Program.run_ofOutcome] at ran
    dsimp only at ran
    rw [Program.run_bind, run_startHeartbeat_shared, started] at ran
    dsimp only at ran
    have isFinal := congrArg Prod.snd ran
    rw [Program.run_tryFinally_snd] at isFinal
    rcases run_giveBack_store lease _ with failed | unowned
    · rw [← isFinal] at failed
      cases released.symm.trans failed
    · rw [← isFinal] at unowned
      exact unowned

/-- A lease whose heartbeat does not start is kept. -/
theorem not_givenBack_of_refused
    (refused : ¬ HeartbeatStarts surroundings call)
    (goesOn : ¬ EndsEarly surroundings call) :
    ¬ GivenBack surroundings call := by
  intro givenBack
  cases isLease : call.lease surroundings with
  | error error => exact goesOn (Or.inr (Or.inl ⟨error, isLease⟩))
  | ok lease =>
      rcases sharedRun_cases (fun _ shared => shared) goesOn isLease
          (0, fun _ => none) with
        ⟨_, taken⟩ | ⟨context, startedAt, state, held, unreleased, owns, ran⟩
      · cases taken fun _ _ => rfl
      · -- nothing is asked of the store after the acquisition
        have stays :
            (sharedRun surroundings (fun _ shared => shared)
                (0, fun _ => none) call).2 = state ∨
              (sharedRun surroundings (fun _ shared => shared)
                (0, fun _ => none) call).2 =
                state.next fun _ shared => shared := by
          rw [ran, useLease, Program.run_bind, Program.run_ofOutcome]
          cases isInterval : call.heartbeat with
          | error error => exact Or.inl rfl
          | ok interval =>
              dsimp only
              rw [Program.run_bind, run_startHeartbeat_shared]
              cases starts : surroundings.startsHeartbeat with
              | error error => exact Or.inr rfl
              | ok reply =>
                  exact absurd ⟨⟨interval, isInterval⟩, starts⟩ refused
        have kept := givenBack (0, fun _ => none) (fun _ shared => shared)
          lease isLease
        rcases stays with isFinal | isFinal <;> rw [isFinal] at kept <;>
          exact kept held unreleased owns

end Steps

/-- A lease is given back just if its heartbeat starts or none is acquired. -/
theorem givenBack_iff {Value : Type} (surroundings : Surroundings Value)
    (call : LeasedCall) :
    GivenBack surroundings call ↔
      HeartbeatStarts surroundings call ∨ EndsEarly surroundings call := by
  constructor
  · intro givenBack
    by_contra neither
    rw [not_or] at neither
    exact not_givenBack_of_refused neither.1 neither.2 givenBack
  · rintro (starts | early)
    · exact givenBack_of_starts starts
    · exact givenBack_of_endsEarly early

/-- A call which asks for renewals without a pause. -/
def hastyCall : LeasedCall := { demoCall with
  renewIntervalSeconds := some (.finite 0) }

/-- The heartbeat is refused when the lease has been acquired. -/
theorem not_givenBack_hastyCall :
    ¬ GivenBack (returning fun _ => .ok ()) hastyCall := by
  apply not_givenBack_of_refused
  · rintro ⟨⟨interval, isInterval⟩, _⟩
    have refused :
        hastyCall.heartbeat =
          .error (.value "interval_seconds must be positive") := by
      decide +kernel
    cases refused.symm.trans isInterval
  · rintro (⟨error, refused⟩ | ⟨error, refused⟩ | ⟨error, raises⟩)
    · have accepted :
          (runContext hastyCall.sourceId 0 hastyCall.taskId).toBool =
            true := by decide +kernel
      have raises :
          runContext hastyCall.sourceId 0 hastyCall.taskId =
            .error error := refused
      rw [raises] at accepted
      cases accepted
    · cases refused
    · cases raises

end MultisiteCrawler.Tasks
