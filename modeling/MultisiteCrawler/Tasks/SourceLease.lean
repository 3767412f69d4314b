import MultisiteCrawler.Foundation.Lists
import MultisiteCrawler.Locking.TokenSafety

/-!
# Running a source operation under its lease

Calls of `run_with_source_lease` share one store.  A call acquires the lease
of its source, starts a heartbeat which renews it in the background, runs its
operation, stops the heartbeat and releases the lease.  The steps of all calls
and the passing of time interleave freely.  The events and metrics a call
reports touch neither the store nor another call and are left out.

Nothing tells the operation that a renewal failed or came too late.  So the
operation of a call runs on after its lease has expired, and another call may
then start its own.  `guarded_iff_timely` says that this is the only way in
which two operations of a source can overlap.
-/

namespace MultisiteCrawler.Tasks

open Foundation.ExpiringStore
open Foundation.Lists (forall_split_cons forall_split_nil)
open MultisiteCrawler.Locking

/-- How far a call has come. -/
inductive CallPhase where
  | idle
  | skippedOverlap
  | acquired
  | executing
  | operationEnded
  | heartbeatStopped
  | finished
deriving DecidableEq, Repr

/-- The heartbeat thread of a call. -/
inductive HeartbeatPhase where
  | notStarted
  | beating
  | lostOwnership
  | raised
  | stopped
deriving DecidableEq, Repr

/-- A call: its source and the lease it takes on it. -/
structure SourceCall where
  sourceId : String
  lease : RedisLease
  lease_key : lease.key = sourceLockKey sourceId

/-- The shared store and the progress of every call. -/
structure WorkerState (Index Time : Type) where
  lease : LeaseState Index Time
  phase : Index → CallPhase
  heartbeat : Index → HeartbeatPhase

/--
A step of one call, or the passing of time.  A renewal whose reply is lost
raises in the heartbeat, whether or not the store has performed it.
-/
inductive WorkerAction (Index Time : Type) where
  | acquire (index : Index)
  | startHeartbeat (index : Index)
  | beginOperation (index : Index)
  | renew (index : Index)
  | renewRaises (index : Index) (performed : Bool)
  | endOperation (index : Index)
  | stopHeartbeat (index : Index)
  | release (index : Index)
  | wait (later : Time)
deriving DecidableEq, Repr

variable {Index Time : Type} [CommRing Time] [LinearOrder Time]

section Steps

variable [DecidableEq Index] (calls : Index → SourceCall)

/-- The leases of the calls. -/
def callLease (index : Index) : RedisLease :=
  (calls index).lease

/-- The state after one action; an action whose turn it is not does nothing. -/
def workerStep (state : WorkerState Index Time) :
    WorkerAction Index Time → WorkerState Index Time
  | .acquire index =>
      if state.phase index = .idle then
        { state with
          lease := leaseStep (callLease calls) state.lease (.acquire index)
          phase :=
            Function.update state.phase index
              (if ((callLease calls index).acquire state.lease.now
                  state.lease.store).1 then .acquired
              else .skippedOverlap) }
      else state
  | .startHeartbeat index =>
      if state.phase index = .acquired ∧
          state.heartbeat index = .notStarted then
        { state with
          heartbeat := Function.update state.heartbeat index .beating }
      else state
  | .beginOperation index =>
      if state.phase index = .acquired ∧
          state.heartbeat index ≠ .notStarted then
        { state with phase := Function.update state.phase index .executing }
      else state
  | .renew index =>
      if state.heartbeat index = .beating then
        { state with
          lease := leaseStep (callLease calls) state.lease (.renew index)
          heartbeat :=
            Function.update state.heartbeat index
              (if ((callLease calls index).renew state.lease.now
                  state.lease.store).1 then .beating
              else .lostOwnership) }
      else state
  | .renewRaises index performed =>
      if state.heartbeat index = .beating then
        { state with
          lease :=
            if performed then
              leaseStep (callLease calls) state.lease (.renew index)
            else state.lease
          heartbeat := Function.update state.heartbeat index .raised }
      else state
  | .endOperation index =>
      if state.phase index = .executing then
        { state with
          phase := Function.update state.phase index .operationEnded }
      else state
  | .stopHeartbeat index =>
      if state.phase index = .operationEnded then
        { state with
          phase := Function.update state.phase index .heartbeatStopped
          heartbeat := Function.update state.heartbeat index .stopped }
      else state
  | .release index =>
      if state.phase index = .heartbeatStopped then
        { state with
          lease := leaseStep (callLease calls) state.lease (.release index)
          phase := Function.update state.phase index .finished }
      else state
  | .wait later =>
      { state with
        lease := leaseStep (callLease calls) state.lease (.wait later) }

/-- The state after a sequence of actions. -/
def workerRun (state : WorkerState Index Time)
    (actions : List (WorkerAction Index Time)) : WorkerState Index Time :=
  actions.foldl (workerStep calls) state

theorem workerRun_concat
    (state : WorkerState Index Time)
    (actions : List (WorkerAction Index Time))
    (action : WorkerAction Index Time) :
    workerRun calls state (actions ++ [action]) =
      workerStep calls (workerRun calls state actions) action := by
  simp [workerRun]

/--
What a step does to the leases: nothing, or one operation, which is a release
only if the call has stopped its heartbeat.
-/
theorem workerStep_lease
    (state : WorkerState Index Time) (action : WorkerAction Index Time) :
    (workerStep calls state action).lease = state.lease ∨
      ∃ operation,
        (workerStep calls state action).lease =
            leaseStep (callLease calls) state.lease operation ∧
          (∀ index, operation = .release index →
            state.phase index = .heartbeatStopped) ∧
          ∀ later, operation = .wait later → action = .wait later := by
  cases action with
  | acquire index =>
      simp only [workerStep]
      split_ifs
      · exact Or.inr ⟨.acquire index, rfl, by simp, by simp⟩
      · exact Or.inr ⟨.acquire index, rfl, by simp, by simp⟩
      · exact Or.inl rfl
  | startHeartbeat index =>
      simp only [workerStep]
      split_ifs <;> exact Or.inl rfl
  | beginOperation index =>
      simp only [workerStep]
      split_ifs <;> exact Or.inl rfl
  | renew index =>
      simp only [workerStep]
      split_ifs
      · exact Or.inr ⟨.renew index, rfl, by simp, by simp⟩
      · exact Or.inr ⟨.renew index, rfl, by simp, by simp⟩
      · exact Or.inl rfl
  | renewRaises index performed =>
      simp only [workerStep]
      split_ifs
      · exact Or.inr ⟨.renew index, rfl, by simp, by simp⟩
      · exact Or.inl rfl
      · exact Or.inl rfl
  | endOperation index =>
      simp only [workerStep]
      split_ifs <;> exact Or.inl rfl
  | stopHeartbeat index =>
      simp only [workerStep]
      split_ifs <;> exact Or.inl rfl
  | release index =>
      simp only [workerStep]
      split_ifs with stopped
      · refine Or.inr ⟨.release index, rfl, ?_, by simp⟩
        rintro other ⟨⟩
        exact stopped
      · exact Or.inl rfl
  | wait later =>
      exact Or.inr ⟨.wait later, rfl, by simp, by simp⟩

/-- A call executes only if it did before or begins its operation now. -/
theorem executing_of_workerStep
    {state : WorkerState Index Time} {action : WorkerAction Index Time}
    {index : Index}
    (executing :
      (workerStep calls state action).phase index = .executing) :
    state.phase index = .executing ∨
      (action = .beginOperation index ∧ state.phase index = .acquired ∧
        state.heartbeat index ≠ .notStarted) := by
  have unchanged :
      ∀ (other : Index) (phase : CallPhase), phase ≠ .executing →
        Function.update state.phase other phase index = .executing →
          state.phase index = .executing := by
    intro other phase notExecuting updated
    by_cases same : index = other
    · subst same
      rw [Function.update_self] at updated
      exact absurd updated notExecuting
    · rwa [Function.update_of_ne same] at updated
  cases action with
  | acquire other =>
      simp only [workerStep] at executing
      split_ifs at executing
      · exact Or.inl (unchanged other _ (by decide) executing)
      · exact Or.inl (unchanged other _ (by decide) executing)
      · exact Or.inl executing
  | startHeartbeat other =>
      simp only [workerStep] at executing
      split_ifs at executing <;> exact Or.inl executing
  | beginOperation other =>
      simp only [workerStep] at executing
      split_ifs at executing with ready
      · dsimp only at executing
        by_cases same : index = other
        · subst same
          exact Or.inr ⟨rfl, ready⟩
        · rw [Function.update_of_ne same] at executing
          exact Or.inl executing
      · exact Or.inl executing
  | renew other =>
      simp only [workerStep] at executing
      split_ifs at executing <;> exact Or.inl executing
  | renewRaises other performed =>
      simp only [workerStep] at executing
      split_ifs at executing <;> exact Or.inl executing
  | endOperation other =>
      simp only [workerStep] at executing
      split_ifs at executing
      · exact Or.inl (unchanged other _ (by decide) executing)
      · exact Or.inl executing
  | stopHeartbeat other =>
      simp only [workerStep] at executing
      split_ifs at executing
      · exact Or.inl (unchanged other _ (by decide) executing)
      · exact Or.inl executing
  | release other =>
      simp only [workerStep] at executing
      split_ifs at executing
      · exact Or.inl (unchanged other _ (by decide) executing)
      · exact Or.inl executing
  | wait later => exact Or.inl executing

end Steps

/-- No call has started and no lease has been acquired. -/
structure Start (calls : Index → SourceCall)
    (state : WorkerState Index Time) : Prop where
  fresh : Fresh (callLease calls) state.lease
  idle : ∀ index, state.phase index = .idle
  notStarted : ∀ index, state.heartbeat index = .notStarted

/--
The lease key of an executing call holds its token, and no two operations of
one source execute at once.
-/
structure Guarded (calls : Index → SourceCall)
    (state : WorkerState Index Time) : Prop where
  holdsToken : ∀ index,
    state.phase index = .executing →
      read state.lease.now (sourceLockKey (calls index).sourceId)
          state.lease.store =
        some (calls index).lease.token
  exclusive : ∀ first second,
    state.phase first = .executing →
      state.phase second = .executing →
        (calls first).sourceId = (calls second).sourceId → first = second

/--
A step which is in time.  An operation begins less than the lifetime of its
lease after the call last acquired or renewed it, and the clock does not move
beyond that while the operation executes.
-/
def TimelyStep (calls : Index → SourceCall)
    (state : WorkerState Index Time) :
    WorkerAction Index Time → Prop
  | .beginOperation index =>
      state.phase index = .acquired →
        state.heartbeat index ≠ .notStarted →
          Current (callLease calls) state.lease index
  | .wait later =>
      ∀ index,
        state.phase index = .executing →
          Current (callLease calls)
            { state.lease with now := max state.lease.now later } index
  | _ => True

/-- The lease of every executing call is current. -/
def AllCurrent (calls : Index → SourceCall)
    (state : WorkerState Index Time) : Prop :=
  ∀ index,
    state.phase index = .executing →
      Current (callLease calls) state.lease index

variable {calls : Index → SourceCall}

omit [CommRing Time] in
theorem owns_iff (index : Index) (lease : LeaseState Index Time) :
    (callLease calls index).Owns lease.now lease.store ↔
      read lease.now (sourceLockKey (calls index).sourceId) lease.store =
        some (calls index).lease.token := by
  unfold RedisLease.Owns callLease
  rw [(calls index).lease_key]

/-- Where store and beliefs agree, a state is guarded if leases are current. -/
theorem guarded_iff_allCurrent
    (distinct : Function.Injective fun index => (calls index).lease.token)
    {state : WorkerState Index Time}
    (owned : Owned (callLease calls) state.lease) :
    Guarded calls state ↔ AllCurrent calls state := by
  constructor
  · intro guarded index executing
    exact owned.current index
      ((owns_iff index state.lease).mpr
        (guarded.holdsToken index executing))
  · intro current
    constructor
    · intro index executing
      exact (owns_iff index state.lease).mp
        (owned.owns (current index executing))
    · intro first second firstExecutes secondExecutes sameSource
      have sameKey :
          (callLease calls first).key = (callLease calls second).key := by
        rw [callLease, callLease, (calls first).lease_key,
          (calls second).lease_key, sameSource]
      exact index_eq_of_owns distinct sameKey
        (owned.owns (current first firstExecutes))
        (owned.owns (current second secondExecutes))

variable [DecidableEq Index] [IsStrictOrderedRing Time]

/-- In every run the store and the beliefs stay in step. -/
theorem workerRun_owned
    (distinct : Function.Injective fun index => (calls index).lease.token)
    {state : WorkerState Index Time}
    (owned : Owned (callLease calls) state.lease)
    (actions : List (WorkerAction Index Time)) :
    Owned (callLease calls) (workerRun calls state actions).lease := by
  induction actions using List.reverseRecOn with
  | nil => exact owned
  | append_singleton actions action induction =>
      rw [workerRun_concat]
      rcases workerStep_lease calls (workerRun calls state actions) action
        with same | ⟨operation, performed, _⟩
      · rw [same]
        exact induction
      · rw [performed]
        exact leaseStep_owned _ distinct induction operation

/-- A timely step keeps the leases of executing calls current. -/
theorem AllCurrent.step
    {state : WorkerState Index Time} {action : WorkerAction Index Time}
    (current : AllCurrent calls state)
    (timely : TimelyStep calls state action) :
    AllCurrent calls (workerStep calls state action) := by
  intro index executing
  rcases executing_of_workerStep calls executing with
    executed | ⟨rfl, acquired, started⟩
  · rcases workerStep_lease calls state action with
      same | ⟨operation, performed, releases, waits⟩
    · rw [same]
      exact current index executed
    · rw [performed]
      cases operation with
      | acquire other =>
          exact (current index executed).acquire other
      | renew other => exact (current index executed).renew other
      | release other =>
          refine (current index executed).release other ?_
          rintro rfl
          rw [releases index rfl] at executed
          cases executed
      | wait later =>
          rcases waits later rfl with rfl
          exact timely index executed
  · have same :
        (workerStep calls state (.beginOperation index)).lease =
          state.lease := by
      simp only [workerStep]
      split_ifs <;> rfl
    rw [same]
    exact timely acquired started

omit [IsStrictOrderedRing Time] in
/-- A step into a state of current leases was timely. -/
theorem timelyStep_of_allCurrent
    {state : WorkerState Index Time} {action : WorkerAction Index Time}
    (current : AllCurrent calls (workerStep calls state action)) :
    TimelyStep calls state action := by
  cases action with
  | beginOperation index =>
      intro acquired started
      have begun :
          workerStep calls state (.beginOperation index) =
            { state with
              phase := Function.update state.phase index .executing } :=
        if_pos ⟨acquired, started⟩
      rw [begun] at current
      exact current index (Function.update_self _ _ _)
  | wait later => exact current
  | _ => trivial

/--
In every state of a run the executing calls hold their leases, so that no two
operations of a source overlap, just when every step of the run is timely.
-/
theorem guarded_iff_timely
    (distinct : Function.Injective fun index => (calls index).lease.token)
    (state : WorkerState Index Time) (start : Start calls state)
    (actions : List (WorkerAction Index Time)) :
    (∀ before after, actions = before ++ after →
        Guarded calls (workerRun calls state before)) ↔
      ∀ before action after, actions = before ++ action :: after →
        TimelyStep calls (workerRun calls state before) action := by
  have guarded :
      ∀ before,
        Guarded calls (workerRun calls state before) ↔
          AllCurrent calls (workerRun calls state before) := fun before =>
    guarded_iff_allCurrent distinct
      (workerRun_owned distinct start.fresh.owned before)
  constructor
  · intro allGuarded before action after split
    apply timelyStep_of_allCurrent
    rw [← workerRun_concat, ← guarded]
    exact allGuarded (before ++ [action]) after (by simp [split])
  · intro timely before after split
    rw [guarded]
    induction before using List.reverseRecOn generalizing after with
    | nil =>
        intro index executing
        rw [workerRun, List.foldl_nil, start.idle index] at executing
        cases executing
    | append_singleton before action induction =>
        rw [List.append_assoc] at split
        rw [workerRun_concat]
        exact (induction _ split).step (timely before action after split)

/-- Two calls for one source. -/
def rivalCalls (second : Bool) : SourceCall :=
  ⟨"demo", rivals second, rfl⟩

/-- Both calls before they start, at time zero. -/
def rivalStart : WorkerState Bool ℤ :=
  ⟨.empty 0, fun _ => .idle, fun _ => .notStarted⟩

theorem rivalStart_start : Start rivalCalls rivalStart :=
  ⟨fresh_empty _ _, fun _ => rfl, fun _ => rfl⟩

/--
The heartbeat of the first call renews its lease three times while its
operation runs for longer than the lifetime.  The second call tries to start
and finds the source taken.
-/
def renewedActions : List (WorkerAction Bool ℤ) :=
  [.acquire false, .startHeartbeat false, .beginOperation false,
    .wait 30, .renew false, .wait 60, .renew false, .wait 90, .renew false,
    .wait 120, .acquire true]

theorem renewedActions_timely :
    ∀ before action after, renewedActions = before ++ action :: after →
      TimelyStep rivalCalls (workerRun rivalCalls rivalStart before)
        action := by
  simp only [renewedActions, forall_split_cons, forall_split_nil, and_true]
  refine
    ⟨trivial, trivial, fun _ _ => ⟨0, by decide, by decide⟩, ?_, trivial,
      ?_, trivial, ?_, trivial, ?_, trivial⟩
  · exact fun index executing => ⟨0, by decide +revert, by decide +revert⟩
  · exact fun index executing => ⟨30, by decide +revert, by decide +revert⟩
  · exact fun index executing => ⟨60, by decide +revert, by decide +revert⟩
  · exact fun index executing => ⟨90, by decide +revert, by decide +revert⟩

/--
After two minutes the first call still executes, its lease of 90 seconds is
still its own, and the second call has been turned away.
-/
theorem guarded_through_renewals :
    let final := workerRun rivalCalls rivalStart renewedActions
    final.phase false = .executing ∧
      final.phase true = .skippedOverlap ∧ Guarded rivalCalls final :=
  ⟨rfl, rfl,
    (guarded_iff_timely rivals_token_injective rivalStart rivalStart_start
      renewedActions).mpr renewedActions_timely _ [] (List.append_nil _).symm⟩

/--
The heartbeat of the first call is late, its lease expires while its operation
runs, and the second call starts its own operation.
-/
theorem not_guarded_late_heartbeat :
    ¬ Guarded rivalCalls
      (workerRun rivalCalls rivalStart
        [.acquire false, .startHeartbeat false, .beginOperation false,
          .wait 90, .acquire true, .startHeartbeat true,
          .beginOperation true]) := by
  intro guarded
  have both := guarded.exclusive false true (by decide) (by decide) rfl
  cases both

end MultisiteCrawler.Tasks
