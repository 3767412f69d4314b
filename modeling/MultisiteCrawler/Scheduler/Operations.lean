import MultisiteCrawler.Scheduler.Service

/-!
# Operations of the scheduler service

The operations as data, and what each of them does to the store: which text it
writes, which source it dispatches, and what it returns.
-/

namespace MultisiteCrawler.Scheduler

open Foundation.AwareTime
open Foundation.CivilTime
open Foundation.Interaction
open Foundation.JsonText
open Foundation.PythonErrors

/-! ## Operations -/

/--
An operation of the scheduler service.  No process of the crawler calls
`register` but through `register_if_missing`, so that it is not one of them by
itself.
-/
inductive Operation where
  | registerIfMissing (sourceId : String) (intervalSeconds : ℤ)
      (current : NaiveDateTime)
  | pause (sourceId : String) (paused : Bool)
  | tick (sourceId : String) (current : NaiveDateTime)
  | manualTrigger (sourceId : String)
  | nextRun (sourceId : String)
deriving DecidableEq

/-- What an operation returns. -/
inductive OperationResult where
  | nothing
  | flag (value : Bool)
  | time (value : DateTime)
deriving DecidableEq

/-- The source an operation is about. -/
def Operation.sourceId : Operation → String
  | .registerIfMissing sourceId _ _ => sourceId
  | .pause sourceId _ => sourceId
  | .tick sourceId _ => sourceId
  | .manualTrigger sourceId => sourceId
  | .nextRun sourceId => sourceId

/-- The program of an operation. -/
def Operation.program : Operation → SchedulerProgram OperationResult
  | .registerIfMissing sourceId intervalSeconds current => do
      let created ← Scheduler.registerIfMissing sourceId intervalSeconds current
      pure (.flag created)
  | .pause sourceId paused => do
      Scheduler.pause sourceId paused
      pure .nothing
  | .tick sourceId current => do
      let dispatched ← Scheduler.tick sourceId current
      pure (.flag dispatched)
  | .manualTrigger sourceId => do
      Scheduler.manualTrigger sourceId
      pure .nothing
  | .nextRun sourceId => do
      let next ← Scheduler.nextRun sourceId
      pure (.time next)

/-- The scheduler store and the dispatches so far. -/
abbrev SchedulerStore := StoreState String String String

/-- How the dispatch callback answers, given the earlier dispatches. -/
abbrev DispatchCallback := List String → String → Except PyError Unit

/-- The dispatches between two states of a run. -/
def emitted (before after : SchedulerStore) : List String :=
  after.events.drop before.events.length

variable (answer : DispatchCallback)

/-- Run one operation. -/
def runOperation (operation : Operation) (store : SchedulerStore) :
    Except PyError OperationResult × SchedulerStore :=
  operation.program.run (storeHandler answer) store

/-! ## What each operation does -/

/-- The store with the document of a source replaced. -/
def SchedulerStore.write (store : SchedulerStore) (sourceId : String)
    (state : StateDocument) : SchedulerStore :=
  { store with
    values :=
      Function.update store.values (stateKey sourceId)
        (some (stateText state)) }

/-- The store after a dispatch. -/
def SchedulerStore.emit (store : SchedulerStore) (sourceId : String) :
    SchedulerStore :=
  { store with events := store.events ++ [sourceId] }

theorem runOperation_registerIfMissing
    (sourceId : String) (interval : ℤ) (current : NaiveDateTime)
    (store : SchedulerStore) :
    runOperation answer (.registerIfMissing sourceId interval current)
        store =
      match store.values (stateKey sourceId) with
      | some _ => (.ok (.flag false), store)
      | none =>
          match nextRunAt current interval with
          | .error error => (.error error, store)
          | .ok _ =>
              (.ok (.flag true),
                SchedulerStore.write store sourceId
                  (registeredState interval current)) := by
  simp only [runOperation, Operation.program, registerIfMissing,
    StoreProgram.bind_get, Program.bind_perform, Program.run_perform,
    storeHandler_get]
  cases store.values (stateKey sourceId) with
  | some text => rfl
  | none =>
      simp only [register]
      cases nextRunAt current interval <;> rfl

theorem runOperation_pause
    (sourceId : String) (paused : Bool) (store : SchedulerStore) :
    runOperation answer (.pause sourceId paused) store =
      match parseState sourceId (store.values (stateKey sourceId)) with
      | .error error => (.error error, store)
      | .ok state =>
          (.ok .nothing,
            SchedulerStore.write store sourceId
              (assign "paused" (.bool paused) state)) := by
  simp only [runOperation, Operation.program, pause, load,
    StoreProgram.bind_get, Program.bind_perform, Program.run_perform,
    storeHandler_get]
  cases parseState sourceId (store.values (stateKey sourceId)) <;> rfl

theorem runOperation_tick
    (sourceId : String) (current : NaiveDateTime) (store : SchedulerStore) :
    runOperation answer (.tick sourceId current) store =
      match
        tickDecision sourceId current (store.values (stateKey sourceId))
      with
      | .error error => (.error error, store)
      | .ok none => (.ok (.flag false), store)
      | .ok (some state) =>
          ((answer store.events sourceId).map fun _ => .flag true,
            SchedulerStore.emit
              (SchedulerStore.write store sourceId state) sourceId) := by
  simp only [runOperation, Operation.program, tick_eq,
    Program.bind_perform, Program.run_perform, storeHandler_get]
  cases tickDecision sourceId current
      (store.values (stateKey sourceId)) with
  | error error => rfl
  | ok decision =>
      cases decision with
      | none => rfl
      | some state =>
          simp only [Program.bind_perform, Program.run_perform,
            storeHandler_set, storeHandler_emit]
          cases answer store.events sourceId <;> rfl

theorem runOperation_manualTrigger
    (sourceId : String) (store : SchedulerStore) :
    runOperation answer (.manualTrigger sourceId) store =
      ((answer store.events sourceId).map fun _ => .nothing,
        SchedulerStore.emit store sourceId) := by
  simp only [runOperation, Operation.program, manualTrigger, dispatch,
    StoreProgram.bind_emit, Program.bind_perform, Program.run_perform,
    storeHandler_emit]
  cases answer store.events sourceId <;> rfl

theorem runOperation_nextRun
    (sourceId : String) (store : SchedulerStore) :
    runOperation answer (.nextRun sourceId) store =
      ((parseState sourceId (store.values (stateKey sourceId)) >>=
          readNext).map .time,
        store) := by
  simp only [runOperation, Operation.program, nextRun, load,
    StoreProgram.bind_get, Program.bind_perform, Program.run_perform,
    storeHandler_get]
  cases parseState sourceId (store.values (stateKey sourceId)) with
  | error error => rfl
  | ok state =>
      simp only [attempt_ok, Program.bind_done, ok_bind]
      cases readNext state <;> rfl

@[simp]
theorem emitted_self (store : SchedulerStore) : emitted store store = [] :=
  List.drop_length

@[simp]
theorem emitted_write
    (store : SchedulerStore) (sourceId : String) (state : StateDocument) :
    emitted store (SchedulerStore.write store sourceId state) = [] :=
  List.drop_length

@[simp]
theorem emitted_emit (store : SchedulerStore) (sourceId : String) :
    emitted store (SchedulerStore.emit store sourceId) = [sourceId] :=
  List.drop_left

@[simp]
theorem emitted_emit_write
    (store : SchedulerStore) (sourceId : String) (state : StateDocument) :
    emitted store
        (SchedulerStore.emit (SchedulerStore.write store sourceId state)
          sourceId) =
      [sourceId] :=
  List.drop_left

@[simp]
theorem write_values_self
    (store : SchedulerStore) (sourceId : String) (state : StateDocument) :
    (SchedulerStore.write store sourceId state).values
        (stateKey sourceId) =
      some (stateText state) :=
  Function.update_self _ _ _

theorem write_values_of_ne
    {sourceId other : String} (different : sourceId ≠ other)
    (store : SchedulerStore) (state : StateDocument) :
    (SchedulerStore.write store sourceId state).values (stateKey other) =
      store.values (stateKey other) :=
  Function.update_of_ne
    (fun equal => different (stateKey_injective equal).symm) _ _

@[simp]
theorem emit_values (store : SchedulerStore) (sourceId : String) :
    (SchedulerStore.emit store sourceId).values = store.values := rfl

/-- An operation on one source neither changes nor dispatches another. -/
theorem runOperation_frame
    (operation : Operation) (store : SchedulerStore) (other : String)
    (different : operation.sourceId ≠ other) :
    (runOperation answer operation store).2.values (stateKey other) =
        store.values (stateKey other) ∧
      other ∉ emitted store (runOperation answer operation store).2 := by
  have notDispatched : other ∉ [operation.sourceId] := by
    rw [List.mem_singleton]
    exact Ne.symm different
  cases operation with
  | registerIfMissing sourceId interval current =>
      rw [runOperation_registerIfMissing]
      split
      · simp
      · split
        · simp
        · rw [emitted_write]
          exact ⟨write_values_of_ne different _ _, List.not_mem_nil⟩
  | pause sourceId paused =>
      rw [runOperation_pause]
      split
      · simp
      · rw [emitted_write]
        exact ⟨write_values_of_ne different _ _, List.not_mem_nil⟩
  | tick sourceId current =>
      rw [runOperation_tick]
      split
      · simp
      · simp
      · rw [emitted_emit_write, emit_values]
        exact ⟨write_values_of_ne different _ _, notDispatched⟩
  | manualTrigger sourceId =>
      rw [runOperation_manualTrigger, emitted_emit]
      exact ⟨rfl, notDispatched⟩
  | nextRun sourceId =>
      rw [runOperation_nextRun, emitted_self]
      exact ⟨rfl, List.not_mem_nil⟩

end MultisiteCrawler.Scheduler
