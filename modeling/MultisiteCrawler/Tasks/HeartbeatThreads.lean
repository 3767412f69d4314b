import MultisiteCrawler.Foundation.SimulatedRuns
import MultisiteCrawler.Tasks.SourceLease

/-!
# The threads of a heartbeat

A call of `run_with_source_lease` and the thread of its `LeaseHeartbeat`, with
the event which stops the thread and the join which waits for it.  A wait that
timed out, a renewal and its reply are steps of their own, and the steps of
all threads of all calls interleave freely.

`threads_refine_calls` says that in every interleaving the calls do what they
do as whole calls share a store, so what holds of these holds of the threads.
`heartbeat_safe` says what stopping comes to: at most one more renewal, none
once it has returned, and a lease key which never again holds the token of the
call which has released it.
-/

namespace MultisiteCrawler.Tasks

open Foundation.ExpiringStore
open Foundation.SimulatedRuns
open MultisiteCrawler.Locking

/-! ## Threads -/

/-- How far the thread which makes the call has come. -/
inductive OwnerPhase where
  | idle
  | skippedOverlap
  | acquired
  | executing
  | operationEnded
  | stopping
  | joined
  | finished
deriving DecidableEq, Repr

/-- Why the thread of the heartbeat has ended. -/
inductive ThreadEnd where
  | stopRequested
  | lostOwnership
  /-- `renew` raised, perhaps after the store had answered. -/
  | raised (answer : Option Bool)
deriving DecidableEq, Repr

/-- The thread of the heartbeat. -/
inductive ThreadPhase where
  | notStarted
  /-- In `_stop_event.wait`. -/
  | waiting
  /-- The wait has timed out. -/
  | renewing
  /-- The store has answered. -/
  | answered (renewed : Bool)
  | ended (cause : ThreadEnd)
deriving DecidableEq, Repr

/-- The thread has ended. -/
def ThreadPhase.isEnded : ThreadPhase → Bool
  | .ended _ => true
  | _ => false

/-- A call, its heartbeat, and how often this has asked the store to renew. -/
structure CallThreads where
  owner : OwnerPhase := .idle
  stopEvent : Bool := false
  thread : ThreadPhase := .notStarted
  renewals : ℕ := 0
deriving DecidableEq, Repr

/-- A step of the thread which makes the call. -/
inductive OwnerStep where
  | acquire
  /-- `_thread.start()`. -/
  | start
  | beginOperation
  | endOperation
  /-- `_stop_event.set()`. -/
  | setStopEvent
  /-- `_thread.join()`. -/
  | join
  | release
deriving DecidableEq, Repr

/-- A step of the thread of the heartbeat. -/
inductive HeartbeatStep where
  | timesOut
  | noticesStop
  | renew
  | raises
  | handleReply
deriving DecidableEq, Repr

/-- What a step asks of the store. -/
inductive LeaseOperation where
  | acquire
  | renew
  | release
deriving DecidableEq, Repr

/-- A step of the call, if it is its turn, and what it asks of the store. -/
def CallThreads.ownerStep (granted : Bool) (call : CallThreads) :
    OwnerStep → Option (CallThreads × Option LeaseOperation)
  | .acquire =>
      if call.owner = .idle then
        some
          ({ call with
              owner := if granted then .acquired else .skippedOverlap },
            some .acquire)
      else none
  | .start =>
      if call.owner = .acquired ∧ call.thread = .notStarted then
        some ({ call with thread := .waiting }, none)
      else none
  | .beginOperation =>
      if call.owner = .acquired ∧ call.thread ≠ .notStarted then
        some ({ call with owner := .executing }, none)
      else none
  | .endOperation =>
      if call.owner = .executing then
        some ({ call with owner := .operationEnded }, none)
      else none
  | .setStopEvent =>
      if call.owner = .operationEnded then
        some ({ call with owner := .stopping, stopEvent := true }, none)
      else none
  | .join =>
      if call.owner = .stopping ∧ call.thread.isEnded = true then
        some ({ call with owner := .joined }, none)
      else none
  | .release =>
      if call.owner = .joined then
        some ({ call with owner := .finished }, some .release)
      else none

/--
A step of `_run`, if it is its turn.  A wait may time out just before the
event is set, and then goes on to the renewal.
-/
def CallThreads.heartbeatStep (renewed : Bool) (call : CallThreads) :
    HeartbeatStep → Option (CallThreads × Option LeaseOperation)
  | .timesOut =>
      if call.thread = .waiting ∧ call.stopEvent = false then
        some ({ call with thread := .renewing }, none)
      else none
  | .noticesStop =>
      if call.thread = .waiting ∧ call.stopEvent = true then
        some ({ call with thread := .ended .stopRequested }, none)
      else none
  | .renew =>
      if call.thread = .renewing then
        some
          ({ call with
              thread := .answered renewed
              renewals := call.renewals + 1 },
            some .renew)
      else none
  | .raises =>
      match call.thread with
      | .renewing =>
          some ({ call with thread := .ended (.raised none) }, none)
      | .answered answer =>
          some ({ call with thread := .ended (.raised (some answer)) }, none)
      | _ => none
  | .handleReply =>
      match call.thread with
      | .answered true => some ({ call with thread := .waiting }, none)
      | .answered false =>
          some ({ call with thread := .ended .lostOwnership }, none)
      | _ => none

/-! ## All threads -/

/-- The shared store and the threads of every call. -/
structure ThreadsState (Index Time : Type) where
  lease : LeaseState Index Time
  call : Index → CallThreads

/-- A step of a thread, or the passing of time. -/
inductive ThreadsAction (Index Time : Type) where
  | owner (index : Index) (step : OwnerStep)
  | heartbeat (index : Index) (step : HeartbeatStep)
  | wait (later : Time)
deriving DecidableEq, Repr

variable {Index Time : Type} [CommRing Time] [LinearOrder Time]

/-- The action on the leases. -/
def LeaseOperation.action (index : Index) :
    LeaseOperation → LeaseAction Index Time
  | .acquire => .acquire index
  | .renew => .renew index
  | .release => .release index

section Steps

variable [DecidableEq Index] (calls : Index → SourceCall)

/-- What the store answers to an acquisition. -/
def granted (state : ThreadsState Index Time) (index : Index) : Bool :=
  ((callLease calls index).acquire state.lease.now state.lease.store).1

/-- What the store answers to a renewal. -/
def renewed (state : ThreadsState Index Time) (index : Index) : Bool :=
  ((callLease calls index).renew state.lease.now state.lease.store).1

/-- The leases after what a step asks of the store. -/
def performed (lease : LeaseState Index Time) (index : Index) :
    Option LeaseOperation → LeaseState Index Time
  | some operation => leaseStep (callLease calls) lease (operation.action index)
  | none => lease

/-- The state after a step of a call, if it is its turn. -/
def takeStep (state : ThreadsState Index Time) (index : Index) :
    Option (CallThreads × Option LeaseOperation) → ThreadsState Index Time
  | some (call, operation) =>
      ⟨performed calls state.lease index operation,
        Function.update state.call index call⟩
  | none => state

/-- The state after one action; an action whose turn it is not does nothing. -/
def threadsStep (state : ThreadsState Index Time) :
    ThreadsAction Index Time → ThreadsState Index Time
  | .owner index step =>
      takeStep calls state index
        ((state.call index).ownerStep (granted calls state index) step)
  | .heartbeat index step =>
      takeStep calls state index
        ((state.call index).heartbeatStep (renewed calls state index) step)
  | .wait later =>
      { state with
        lease := leaseStep (callLease calls) state.lease (.wait later) }

/-- The state after a sequence of actions. -/
def threadsRun (state : ThreadsState Index Time)
    (actions : List (ThreadsAction Index Time)) : ThreadsState Index Time :=
  actions.foldl (threadsStep calls) state

end Steps

/-! ## The calls as a whole -/

/-- The phase of the call as a whole. -/
def OwnerPhase.phase : OwnerPhase → CallPhase
  | .idle => .idle
  | .skippedOverlap => .skippedOverlap
  | .acquired => .acquired
  | .executing => .executing
  | .operationEnded => .operationEnded
  | .stopping => .operationEnded
  | .joined => .heartbeatStopped
  | .finished => .finished

/-- The heartbeat as a whole, until the call has joined it. -/
def ThreadPhase.beat : ThreadPhase → HeartbeatPhase
  | .notStarted => .notStarted
  | .waiting => .beating
  | .renewing => .beating
  | .answered true => .beating
  | .answered false => .lostOwnership
  | .ended .stopRequested => .beating
  | .ended .lostOwnership => .lostOwnership
  | .ended (.raised (some false)) => .lostOwnership
  | .ended (.raised _) => .raised

/-- The heartbeat is to stop. -/
def OwnerPhase.hasStopped : OwnerPhase → Bool
  | .stopping => true
  | .joined => true
  | .finished => true
  | _ => false

/-- The call has joined the heartbeat. -/
def OwnerPhase.hasJoined : OwnerPhase → Bool
  | .joined => true
  | .finished => true
  | _ => false

/-- The call has begun its operation. -/
def OwnerPhase.hasBegun : OwnerPhase → Bool
  | .executing => true
  | .operationEnded => true
  | phase => phase.hasStopped

/-- The heartbeat as a whole. -/
def CallThreads.beat (call : CallThreads) : HeartbeatPhase :=
  if call.owner.hasJoined then .stopped else call.thread.beat

/-- What the threads of a call agree on. -/
structure CallThreads.Settled (call : CallThreads) : Prop where
  event : call.stopEvent = call.owner.hasStopped
  started : call.owner.hasBegun = true → call.thread ≠ .notStarted
  joined : call.owner.hasJoined = true → call.thread.isEnded = true

theorem CallThreads.Settled.ownerStep
    {granted : Bool} {call after : CallThreads} {step : OwnerStep}
    {operation : Option LeaseOperation} (settled : call.Settled)
    (taken : call.ownerStep granted step = some (after, operation)) :
    after.Settled := by
  rcases settled with ⟨event, started, joined⟩
  cases step with
  | acquire =>
      rw [CallThreads.ownerStep] at taken
      split_ifs at taken with isIdle
      · cases taken
        rw [isIdle] at event
        exact ⟨event, nofun, nofun⟩
      · cases taken
        rw [isIdle] at event
        exact ⟨event, nofun, nofun⟩
  | start =>
      rw [CallThreads.ownerStep] at taken
      split_ifs at taken with ready
      cases taken
      exact ⟨event, fun _ => nofun, by rw [ready.1]; nofun⟩
  | beginOperation =>
      rw [CallThreads.ownerStep] at taken
      split_ifs at taken with ready
      cases taken
      rw [ready.1] at event
      exact ⟨event, fun _ => ready.2, nofun⟩
  | endOperation =>
      rw [CallThreads.ownerStep] at taken
      split_ifs at taken with executing
      cases taken
      rw [executing] at event started
      exact ⟨event, started, nofun⟩
  | setStopEvent =>
      rw [CallThreads.ownerStep] at taken
      split_ifs at taken with isEnded
      cases taken
      rw [isEnded] at started
      exact ⟨rfl, started, nofun⟩
  | join =>
      rw [CallThreads.ownerStep] at taken
      split_ifs at taken with ready
      cases taken
      rw [ready.1] at event started
      exact ⟨event, started, fun _ => ready.2⟩
  | release =>
      rw [CallThreads.ownerStep] at taken
      split_ifs at taken with isJoined
      cases taken
      rw [isJoined] at event started joined
      exact ⟨event, started, joined⟩

/-- A thread which takes a step has not ended, and has started. -/
theorem CallThreads.heartbeatStep_eq_some
    {renewed : Bool} {call after : CallThreads} {step : HeartbeatStep}
    {operation : Option LeaseOperation}
    (taken : call.heartbeatStep renewed step = some (after, operation)) :
    call.thread.isEnded = false ∧ after.thread ≠ .notStarted ∧
      after.owner = call.owner ∧ after.stopEvent = call.stopEvent := by
  cases step with
  | timesOut =>
      rw [heartbeatStep] at taken
      split_ifs at taken with ready
      cases taken
      exact ⟨by rw [ready.1]; rfl, nofun, rfl, rfl⟩
  | noticesStop =>
      rw [heartbeatStep] at taken
      split_ifs at taken with ready
      cases taken
      exact ⟨by rw [ready.1]; rfl, nofun, rfl, rfl⟩
  | renew =>
      rw [heartbeatStep] at taken
      split_ifs at taken with ready
      cases taken
      exact ⟨by rw [ready]; rfl, nofun, rfl, rfl⟩
  | raises =>
      rw [heartbeatStep] at taken
      split at taken <;> cases taken
      · exact ⟨by simp only [*]; rfl, nofun, rfl, rfl⟩
      · exact ⟨by simp only [*]; rfl, nofun, rfl, rfl⟩
  | handleReply =>
      rw [heartbeatStep] at taken
      split at taken <;> cases taken
      · exact ⟨by simp only [*]; rfl, nofun, rfl, rfl⟩
      · exact ⟨by simp only [*]; rfl, nofun, rfl, rfl⟩

theorem CallThreads.Settled.heartbeatStep
    {renewed : Bool} {call after : CallThreads} {step : HeartbeatStep}
    {operation : Option LeaseOperation} (settled : call.Settled)
    (taken : call.heartbeatStep renewed step = some (after, operation)) :
    after.Settled := by
  rcases CallThreads.heartbeatStep_eq_some taken with
    ⟨notEnded, started, sameOwner, sameEvent⟩
  constructor
  · rw [sameEvent, sameOwner]
    exact settled.event
  · exact fun _ => started
  · intro hasJoined
    rw [sameOwner] at hasJoined
    rw [settled.joined hasJoined] at notEnded
    cases notEnded

/-! ## Threads refine calls -/

section Refinement

/-- The calls as a whole. -/
def ThreadsState.view (state : ThreadsState Index Time) :
    WorkerState Index Time where
  lease := state.lease
  phase index := (state.call index).owner.phase
  heartbeat index := (state.call index).beat

/-- The step of the call as a whole, if it takes one. -/
def OwnerStep.label (index : Index) :
    OwnerStep → Option (WorkerAction Index Time)
  | .acquire => some (.acquire index)
  | .start => some (.startHeartbeat index)
  | .beginOperation => some (.beginOperation index)
  | .endOperation => some (.endOperation index)
  | .setStopEvent => none
  | .join => some (.stopHeartbeat index)
  | .release => some (.release index)

/-- The step of the heartbeat as a whole, if it takes one. -/
def HeartbeatStep.label (index : Index) (thread : ThreadPhase) :
    HeartbeatStep → Option (WorkerAction Index Time)
  | .renew => some (.renew index)
  | .raises =>
      if thread = .answered false then none
      else some (.renewRaises index false)
  | _ => none

variable [DecidableEq Index] (calls : Index → SourceCall)

/-- The action of the calls as a whole, if an action is its turn. -/
def label (state : ThreadsState Index Time) :
    ThreadsAction Index Time → Option (WorkerAction Index Time)
  | .owner index step =>
      ((state.call index).ownerStep (granted calls state index) step).bind
        fun _ => step.label index
  | .heartbeat index step =>
      ((state.call index).heartbeatStep (renewed calls state index) step).bind
        fun _ => step.label index (state.call index).thread
  | .wait later => some (.wait later)

/-- The calls as a whole after a step of one of them. -/
theorem view_takeStep
    (state : ThreadsState Index Time) (index : Index) (after : CallThreads)
    (operation : Option LeaseOperation) :
    (takeStep calls state index (some (after, operation))).view =
      ⟨performed calls state.lease index operation,
        Function.update state.view.phase index after.owner.phase,
        Function.update state.view.heartbeat index after.beat⟩ := by
  rw [takeStep, ThreadsState.view, ThreadsState.view]
  congr 1
  · funext other
    exact Function.apply_update
      (fun _ (call : CallThreads) => call.owner.phase) state.call index after
      other
  · funext other
    exact Function.apply_update
      (fun _ (call : CallThreads) => call.beat) state.call index after other

/-- A step which leaves the heartbeat as a whole as it is. -/
theorem view_takeStep_of_beat
    (state : ThreadsState Index Time) {index : Index} {after : CallThreads}
    (operation : Option LeaseOperation)
    (same : after.beat = (state.call index).beat) :
    (takeStep calls state index (some (after, operation))).view =
      ⟨performed calls state.lease index operation,
        Function.update state.view.phase index after.owner.phase,
        state.view.heartbeat⟩ := by
  have unchanged :
      Function.update state.view.heartbeat index after.beat =
        state.view.heartbeat := by
    rw [same]
    exact Function.update_eq_self index state.view.heartbeat
  rw [view_takeStep, unchanged]

/-- A step which leaves the phase of the call as a whole as it is. -/
theorem view_takeStep_of_phase
    (state : ThreadsState Index Time) {index : Index} {after : CallThreads}
    (operation : Option LeaseOperation)
    (same : after.owner.phase = (state.call index).owner.phase) :
    (takeStep calls state index (some (after, operation))).view =
      ⟨performed calls state.lease index operation, state.view.phase,
        Function.update state.view.heartbeat index after.beat⟩ := by
  have unchanged :
      Function.update state.view.phase index after.owner.phase =
        state.view.phase := by
    rw [same]
    exact Function.update_eq_self index state.view.phase
  rw [view_takeStep, unchanged]

/-- A step which changes nothing of the calls as a whole. -/
theorem view_takeStep_of_silent
    (state : ThreadsState Index Time) {index : Index} {after : CallThreads}
    (phase : after.owner.phase = (state.call index).owner.phase)
    (beat : after.beat = (state.call index).beat) :
    (takeStep calls state index (some (after, none))).view = state.view := by
  have unchanged :
      Function.update state.view.heartbeat index after.beat =
        state.view.heartbeat := by
    rw [beat]
    exact Function.update_eq_self index state.view.heartbeat
  rw [view_takeStep_of_phase calls state none phase, unchanged]
  rfl

theorem ThreadPhase.beat_eq_notStarted_iff (thread : ThreadPhase) :
    thread.beat = .notStarted ↔ thread = .notStarted := by
  constructor
  · intro isBeat
    cases thread with
    | notStarted => rfl
    | waiting => cases isBeat
    | renewing => cases isBeat
    | answered renewed => cases renewed <;> cases isBeat
    | ended cause =>
        rcases cause with _ | _ | _ | _ | _ <;> cases isBeat
  · rintro rfl
    rfl

theorem CallThreads.beat_of_not_joined
    {call : CallThreads} (notJoined : call.owner.hasJoined = false) :
    call.beat = call.thread.beat := by
  rw [beat, notJoined]
  rfl

/-- A step of a call is a step of the call as a whole, or none. -/
theorem view_ownerStep
    (state : ThreadsState Index Time) {index : Index} {step : OwnerStep}
    {after : CallThreads} {operation : Option LeaseOperation}
    (taken : (state.call index).ownerStep (granted calls state index) step =
      some (after, operation)) :
    (takeStep calls state index (some (after, operation))).view =
      ((step.label index).map (workerStep calls state.view)).getD
        state.view := by
  have isPhase (owner : OwnerPhase)
      (isOwner : (state.call index).owner = owner) :
      state.view.phase index = owner.phase := by
    rw [← isOwner]
    rfl
  have isBeat (notJoined : (state.call index).owner.hasJoined = false) :
      state.view.heartbeat index = (state.call index).thread.beat :=
    CallThreads.beat_of_not_joined notJoined
  have sameBeat (before after : CallThreads)
      (notJoined : before.owner.hasJoined = false)
      (stillNotJoined : after.owner.hasJoined = false)
      (sameThread : after.thread = before.thread) :
      after.beat = before.beat := by
    rw [CallThreads.beat_of_not_joined notJoined,
      CallThreads.beat_of_not_joined stillNotJoined, sameThread]
  cases step with
  | acquire =>
      rw [CallThreads.ownerStep] at taken
      split_ifs at taken with isIdle isGranted
      · cases taken
        refine (view_takeStep_of_beat calls state _ ?_).trans ?_
        · exact sameBeat _ _ (by rw [isIdle]; rfl) rfl rfl
        · have answer :
              ((callLease calls index).acquire state.view.lease.now
                state.view.lease.store).1 = true := isGranted
          refine Eq.trans ?_ (if_pos (isPhase _ isIdle)).symm
          rw [answer]
          rfl
      · cases taken
        refine (view_takeStep_of_beat calls state _ ?_).trans ?_
        · exact sameBeat _ _ (by rw [isIdle]; rfl) rfl rfl
        · have answer :
              ((callLease calls index).acquire state.view.lease.now
                state.view.lease.store).1 = false :=
            Bool.not_eq_true _ ▸ isGranted
          refine Eq.trans ?_ (if_pos (isPhase _ isIdle)).symm
          rw [answer]
          rfl
  | start =>
      rw [CallThreads.ownerStep] at taken
      split_ifs at taken with ready
      cases taken
      have notJoined : (state.call index).owner.hasJoined = false := by
        rw [ready.1]
        rfl
      have turn :
          state.view.phase index = .acquired ∧
            state.view.heartbeat index = .notStarted := by
        rw [isPhase _ ready.1, isBeat notJoined, ready.2]
        exact ⟨rfl, rfl⟩
      refine (view_takeStep_of_phase calls state _ ?_).trans ?_
      · rfl
      · have beats :
            CallThreads.beat { state.call index with thread := .waiting } =
              .beating :=
          CallThreads.beat_of_not_joined notJoined
        rw [beats]
        exact (if_pos turn).symm
  | beginOperation =>
      rw [CallThreads.ownerStep] at taken
      split_ifs at taken with ready
      cases taken
      have notJoined : (state.call index).owner.hasJoined = false := by
        rw [ready.1]
        rfl
      have turn :
          state.view.phase index = .acquired ∧
            state.view.heartbeat index ≠ .notStarted := by
        rw [isPhase _ ready.1, isBeat notJoined, Ne,
          ThreadPhase.beat_eq_notStarted_iff]
        exact ⟨rfl, ready.2⟩
      refine (view_takeStep_of_beat calls state _ ?_).trans ?_
      · exact sameBeat _ _ notJoined rfl rfl
      · exact (if_pos turn).symm
  | endOperation =>
      rw [CallThreads.ownerStep] at taken
      split_ifs at taken with executing
      cases taken
      refine (view_takeStep_of_beat calls state _ ?_).trans ?_
      · exact sameBeat _ _ (by rw [executing]; rfl) rfl rfl
      · exact (if_pos (isPhase _ executing)).symm
  | setStopEvent =>
      rw [CallThreads.ownerStep] at taken
      split_ifs at taken with isEnded
      cases taken
      apply view_takeStep_of_silent
      · rw [isEnded]
        rfl
      · exact sameBeat _ _ (by rw [isEnded]; rfl) rfl rfl
  | join =>
      rw [CallThreads.ownerStep] at taken
      split_ifs at taken with ready
      cases taken
      rw [view_takeStep]
      exact (if_pos (isPhase _ ready.1)).symm
  | release =>
      rw [CallThreads.ownerStep] at taken
      split_ifs at taken with isJoined
      cases taken
      refine (view_takeStep_of_beat calls state _ ?_).trans ?_
      · rw [CallThreads.beat, CallThreads.beat, isJoined]
        rfl
      · exact (if_pos (isPhase _ isJoined)).symm

/-- A step of the heartbeat is a step of the heartbeat as a whole, or none. -/
theorem view_heartbeatStep
    (state : ThreadsState Index Time) {index : Index} {step : HeartbeatStep}
    {after : CallThreads} {operation : Option LeaseOperation}
    (settled : (state.call index).Settled)
    (taken : (state.call index).heartbeatStep (renewed calls state index)
      step = some (after, operation)) :
    (takeStep calls state index (some (after, operation))).view =
      ((step.label index (state.call index).thread).map
        (workerStep calls state.view)).getD state.view := by
  rcases CallThreads.heartbeatStep_eq_some taken with
    ⟨notEnded, _, sameOwner, _⟩
  have notJoined : (state.call index).owner.hasJoined = false := by
    rw [← Bool.not_eq_true]
    intro hasJoined
    rw [settled.joined hasJoined] at notEnded
    cases notEnded
  have isBeat :
      state.view.heartbeat index = (state.call index).thread.beat :=
    CallThreads.beat_of_not_joined notJoined
  have isAfter : after.beat = after.thread.beat := by
    apply CallThreads.beat_of_not_joined
    rw [sameOwner]
    exact notJoined
  have silent (sameBeat : after.thread.beat = (state.call index).thread.beat) :
      (takeStep calls state index (some (after, none))).view = state.view := by
    apply view_takeStep_of_silent
    · rw [sameOwner]
    · rw [isAfter, CallThreads.beat_of_not_joined notJoined, sameBeat]
  have viewed :=
    view_takeStep_of_phase calls state operation
      (congrArg OwnerPhase.phase sameOwner)
  rw [isAfter] at viewed
  cases step with
  | timesOut =>
      rw [CallThreads.heartbeatStep] at taken
      split_ifs at taken with ready
      cases taken
      apply silent
      rw [ready.1]
      rfl
  | noticesStop =>
      rw [CallThreads.heartbeatStep] at taken
      split_ifs at taken with ready
      cases taken
      apply silent
      rw [ready.1]
      rfl
  | renew =>
      rw [CallThreads.heartbeatStep] at taken
      split_ifs at taken with ready
      cases taken
      rw [ready] at isBeat
      have answer :
          ((callLease calls index).renew state.view.lease.now
            state.view.lease.store).1 = renewed calls state index := rfl
      refine viewed.trans (Eq.trans ?_ (if_pos isBeat).symm)
      rw [answer]
      cases renewed calls state index <;> rfl
  | raises =>
      rw [CallThreads.heartbeatStep] at taken
      split at taken
      · rename_i isRenewing
        cases taken
        rw [isRenewing] at isBeat ⊢
        exact viewed.trans (if_pos isBeat).symm
      · rename_i answer isAnswered
        cases taken
        rw [isAnswered] at isBeat ⊢
        cases answer with
        | true => exact viewed.trans (if_pos isBeat).symm
        | false =>
            apply silent
            rw [isAnswered]
            rfl
      · cases taken
  | handleReply =>
      rw [CallThreads.heartbeatStep] at taken
      split at taken
      · rename_i isAnswered
        cases taken
        apply silent
        rw [isAnswered]
        rfl
      · rename_i isAnswered
        cases taken
        apply silent
        rw [isAnswered]
        rfl
      · cases taken

/-- The threads of every call agree. -/
def ThreadsState.Settled (state : ThreadsState Index Time) : Prop :=
  ∀ index, (state.call index).Settled

theorem settled_takeStep
    {state : ThreadsState Index Time} (settled : state.Settled)
    {index : Index} {taken : Option (CallThreads × Option LeaseOperation)}
    (kept : ∀ after operation, taken = some (after, operation) →
      after.Settled) :
    (takeStep calls state index taken).Settled := by
  rcases taken with _ | ⟨after, operation⟩
  · exact settled
  · intro other
    show (Function.update state.call index after other).Settled
    by_cases same : other = index
    · subst same
      rw [Function.update_self]
      exact kept after operation rfl
    · rw [Function.update_of_ne same]
      exact settled other

theorem settled_threadsStep
    (state : ThreadsState Index Time) (action : ThreadsAction Index Time)
    (settled : state.Settled) : (threadsStep calls state action).Settled := by
  cases action with
  | owner index step =>
      apply settled_takeStep calls settled
      intro after operation taken
      exact (settled index).ownerStep taken
  | heartbeat index step =>
      apply settled_takeStep calls settled
      intro after operation taken
      exact (settled index).heartbeatStep taken
  | wait later => exact settled

/-- The calls as a whole take the steps of their threads. -/
def threadsSimulation :
    Simulation (@threadsStep Index Time _ _ _ calls)
      (@workerStep Index Time _ _ _ calls) where
  view := ThreadsState.view
  label := label calls
  Invariant := ThreadsState.Settled
  invariant_step := settled_threadsStep calls
  view_step state action settled := by
    cases action with
    | owner index step =>
        rw [threadsStep, label]
        cases taken : (state.call index).ownerStep
            (granted calls state index) step with
        | none => rfl
        | some found => exact view_ownerStep calls state taken
    | heartbeat index step =>
        rw [threadsStep, label]
        cases taken : (state.call index).heartbeatStep
            (renewed calls state index) step with
        | none => rfl
        | some found =>
            exact view_heartbeatStep calls state (settled index) taken
    | wait later => rfl

/-- No call has started and no lease has been acquired. -/
structure ThreadsStart (state : ThreadsState Index Time) : Prop where
  fresh : Fresh (callLease calls) state.lease
  idle : ∀ index, state.call index = {}

variable {calls}

omit [CommRing Time] [DecidableEq Index] in
theorem ThreadsStart.settled {state : ThreadsState Index Time}
    (start : ThreadsStart calls state) : state.Settled := by
  intro index
  rw [start.idle index]
  exact ⟨rfl, nofun, nofun⟩

omit [CommRing Time] [DecidableEq Index] in
theorem ThreadsStart.view {state : ThreadsState Index Time}
    (start : ThreadsStart calls state) : Start calls state.view where
  fresh := start.fresh
  idle index := by
    show (state.call index).owner.phase = .idle
    rw [start.idle index]
    rfl
  notStarted index := by
    show (state.call index).beat = .notStarted
    rw [start.idle index]
    rfl

/--
In every interleaving of their threads the calls as a whole make a run: it
begins where the threads begin, and every state the threads come to shows the
calls in a state of that run, with the same store.
-/
theorem threads_refine_calls
    (state : ThreadsState Index Time) (start : ThreadsStart calls state)
    (actions : List (ThreadsAction Index Time)) :
    Start calls state.view ∧
      ∃ labels : List (WorkerAction Index Time),
        (threadsRun calls state actions).view =
            workerRun calls state.view labels ∧
          ∀ earlier later, actions = earlier ++ later →
            ∃ before after, labels = before ++ after ∧
              (threadsRun calls state earlier).view =
                workerRun calls state.view before := by
  refine ⟨start.view, (threadsSimulation calls).labels state actions, ?_, ?_⟩
  · exact (threadsSimulation calls).view_run actions start.settled
  · rintro earlier later rfl
    refine ⟨_, _, (threadsSimulation calls).labels_append _ _ _, ?_⟩
    exact (threadsSimulation calls).view_run earlier start.settled

end Refinement

/-- Both calls before their threads start, at time zero. -/
def rivalThreads : ThreadsState Bool ℤ :=
  ⟨.empty 0, fun _ => {}⟩

theorem rivalThreads_start : ThreadsStart rivalCalls rivalThreads :=
  ⟨fresh_empty _ _, fun _ => rfl⟩

/-- A heartbeat which renews in the background, as calls as a whole. -/
theorem threads_refine_calls_renewing :
    Start rivalCalls rivalThreads.view ∧
      ∃ labels : List (WorkerAction Bool ℤ),
        (threadsRun rivalCalls rivalThreads
            [.owner false .acquire, .owner false .start,
              .heartbeat false .timesOut, .heartbeat false .renew]).view =
          workerRun rivalCalls rivalThreads.view labels := by
  rcases threads_refine_calls rivalThreads rivalThreads_start
      [.owner false .acquire, .owner false .start,
        .heartbeat false .timesOut, .heartbeat false .renew] with
    ⟨started, labels, viewed, _⟩
  exact ⟨started, labels, viewed⟩

/-! ## Stopping a heartbeat -/

/-- A renewal which the thread has decided on. -/
def CallThreads.pending (call : CallThreads) : ℕ :=
  if call.thread = .renewing then 1 else 0

/-- How many steps the thread has left once the event is set. -/
def ThreadPhase.stepsLeft : ThreadPhase → ℕ
  | .notStarted => 0
  | .waiting => 1
  | .renewing => 3
  | .answered true => 2
  | .answered false => 1
  | .ended _ => 0

theorem ThreadPhase.stepsLeft_le (thread : ThreadPhase) :
    thread.stepsLeft ≤ 3 := by
  cases thread with
  | answered renewed => cases renewed <;> decide
  | ended cause => exact Nat.zero_le 3
  | _ => decide

section Steps

variable {granted renewed : Bool} {call after : CallThreads}
variable {operation : Option LeaseOperation}

/-- Once the event is set the call does not touch the thread. -/
theorem CallThreads.ownerStep_of_stopped
    {step : OwnerStep} (settled : call.Settled)
    (stopped : call.stopEvent = true)
    (taken : call.ownerStep granted step = some (after, operation)) :
    after.stopEvent = true ∧ after.thread = call.thread ∧
      after.renewals = call.renewals := by
  have hasStopped : call.owner.hasStopped = true :=
    settled.event.symm.trans stopped
  cases step with
  | start =>
      rw [ownerStep] at taken
      split_ifs at taken with ready
      rw [ready.1] at hasStopped
      cases hasStopped
  | acquire =>
      rw [ownerStep] at taken
      split_ifs at taken with isIdle
      all_goals
        rw [isIdle] at hasStopped
        cases hasStopped
  | beginOperation =>
      rw [ownerStep] at taken
      split_ifs at taken
      cases taken
      exact ⟨stopped, rfl, rfl⟩
  | endOperation =>
      rw [ownerStep] at taken
      split_ifs at taken
      cases taken
      exact ⟨stopped, rfl, rfl⟩
  | setStopEvent =>
      rw [ownerStep] at taken
      split_ifs at taken
      cases taken
      exact ⟨rfl, rfl, rfl⟩
  | join =>
      rw [ownerStep] at taken
      split_ifs at taken
      cases taken
      exact ⟨stopped, rfl, rfl⟩
  | release =>
      rw [ownerStep] at taken
      split_ifs at taken
      cases taken
      exact ⟨stopped, rfl, rfl⟩

/-- Once the event is set every step of the thread brings it to its end. -/
theorem CallThreads.heartbeatStep_of_stopped
    {step : HeartbeatStep} (stopped : call.stopEvent = true)
    (taken : call.heartbeatStep renewed step = some (after, operation)) :
    after.thread.stepsLeft < call.thread.stepsLeft ∧
      after.renewals + after.pending ≤ call.renewals + call.pending := by
  cases step with
  | timesOut =>
      rw [heartbeatStep] at taken
      split_ifs at taken with ready
      rw [stopped] at ready
      cases ready.2
  | noticesStop =>
      rw [heartbeatStep] at taken
      split_ifs at taken with ready
      cases taken
      rw [pending, pending, ready.1]
      exact ⟨Nat.zero_lt_one, le_rfl⟩
  | renew =>
      rw [heartbeatStep] at taken
      split_ifs at taken with ready
      cases taken
      rw [pending, pending, ready]
      cases renewed
      · exact ⟨(by decide : 1 < 3), le_rfl⟩
      · exact ⟨(by decide : 2 < 3), le_rfl⟩
  | raises =>
      rw [heartbeatStep] at taken
      split at taken
      · rename_i isRenewing
        cases taken
        rw [pending, pending, isRenewing]
        exact ⟨(by decide : 0 < 3), Nat.le_succ _⟩
      · rename_i answer isAnswered
        cases taken
        rw [pending, pending, isAnswered]
        cases answer
        · exact ⟨(by decide : 0 < 1), le_rfl⟩
        · exact ⟨(by decide : 0 < 2), le_rfl⟩
      · cases taken
  | handleReply =>
      rw [heartbeatStep] at taken
      split at taken
      · rename_i isAnswered
        cases taken
        rw [pending, pending, isAnswered]
        exact ⟨(by decide : 1 < 2), le_rfl⟩
      · rename_i isAnswered
        cases taken
        rw [pending, pending, isAnswered]
        exact ⟨(by decide : 0 < 1), le_rfl⟩
      · cases taken

/-- A thread which has started and not ended can go on. -/
theorem CallThreads.exists_heartbeatStep
    (started : call.thread ≠ .notStarted)
    (notEnded : call.thread.isEnded = false) :
    ∃ step, (call.heartbeatStep renewed step).isSome = true := by
  cases isThread : call.thread with
  | notStarted => exact absurd isThread started
  | waiting =>
      cases isEvent : call.stopEvent with
      | false =>
          refine ⟨.timesOut, ?_⟩
          rw [heartbeatStep, if_pos ⟨isThread, isEvent⟩]
          rfl
      | true =>
          refine ⟨.noticesStop, ?_⟩
          rw [heartbeatStep, if_pos ⟨isThread, isEvent⟩]
          rfl
  | renewing =>
      refine ⟨.renew, ?_⟩
      rw [heartbeatStep, if_pos isThread]
      rfl
  | answered answer =>
      refine ⟨.raises, ?_⟩
      rw [heartbeatStep, isThread]
      rfl
  | ended cause =>
      rw [isThread] at notEnded
      cases notEnded

/-- A thread whose renewal was refused, or which has ended. -/
def ThreadPhase.renewsNoMore : ThreadPhase → Bool
  | .answered false => true
  | .ended _ => true
  | _ => false

theorem CallThreads.ownerStep_of_renewsNoMore
    {step : OwnerStep} (noMore : call.thread.renewsNoMore = true)
    (taken : call.ownerStep granted step = some (after, operation)) :
    after.thread.renewsNoMore = true ∧ after.renewals = call.renewals := by
  cases step with
  | start =>
      rw [ownerStep] at taken
      split_ifs at taken with ready
      rw [ready.2] at noMore
      cases noMore
  | _ =>
      rw [ownerStep] at taken
      split_ifs at taken
      all_goals
        cases taken
        exact ⟨noMore, rfl⟩

theorem CallThreads.heartbeatStep_of_renewsNoMore
    {step : HeartbeatStep} (noMore : call.thread.renewsNoMore = true)
    (taken : call.heartbeatStep renewed step = some (after, operation)) :
    after.thread.renewsNoMore = true ∧ after.renewals = call.renewals := by
  cases step with
  | timesOut =>
      rw [heartbeatStep] at taken
      split_ifs at taken with ready
      rw [ready.1] at noMore
      cases noMore
  | noticesStop =>
      rw [heartbeatStep] at taken
      split_ifs at taken
      cases taken
      exact ⟨rfl, rfl⟩
  | renew =>
      rw [heartbeatStep] at taken
      split_ifs at taken with ready
      rw [ready] at noMore
      cases noMore
  | raises =>
      rw [heartbeatStep] at taken
      split at taken
      · cases taken
        exact ⟨rfl, rfl⟩
      · cases taken
        exact ⟨rfl, rfl⟩
      · cases taken
  | handleReply =>
      rw [heartbeatStep] at taken
      split at taken
      · rename_i isAnswered
        rw [isAnswered] at noMore
        cases noMore
      · cases taken
        exact ⟨rfl, rfl⟩
      · cases taken

end Steps

/-! ### Runs -/

section Runs

variable [DecidableEq Index] (calls : Index → SourceCall) (index : Index)

/-- A step of the thread of one heartbeat. -/
def isTurn (state : ThreadsState Index Time) :
    ThreadsAction Index Time → Bool
  | .heartbeat other step =>
      decide (other = index) &&
        ((state.call other).heartbeatStep (renewed calls state other)
          step).isSome
  | _ => false

/-- How many steps the thread of one heartbeat takes in a run. -/
def turns : ThreadsState Index Time → List (ThreadsAction Index Time) → ℕ
  | _, [] => 0
  | state, action :: rest =>
      (if isTurn calls index state action then 1 else 0) +
        turns (threadsStep calls state action) rest

theorem call_takeStep_self
    (state : ThreadsState Index Time) (after : CallThreads)
    (operation : Option LeaseOperation) :
    (takeStep calls state index (some (after, operation))).call index =
      after := by
  show Function.update state.call index after index = after
  rw [Function.update_self]

theorem call_takeStep_of_ne
    (state : ThreadsState Index Time) {other : Index} (ne : index ≠ other)
    (taken : Option (CallThreads × Option LeaseOperation)) :
    (takeStep calls state other taken).call index = state.call index := by
  cases taken with
  | none => rfl
  | some found => exact Function.update_of_ne ne found.1 state.call

/--
What one call knows of a step: nothing happens to its threads, or one of them
takes a step.
-/
theorem call_threadsStep
    (state : ThreadsState Index Time) (action : ThreadsAction Index Time) :
    (isTurn calls index state action = false ∧
      ((threadsStep calls state action).call index = state.call index ∨
        ∃ step operation,
          (state.call index).ownerStep (granted calls state index) step =
            some ((threadsStep calls state action).call index, operation))) ∨
      (isTurn calls index state action = true ∧
        ∃ step operation,
          (state.call index).heartbeatStep (renewed calls state index) step =
            some ((threadsStep calls state action).call index, operation)) := by
  cases action with
  | owner other step =>
      refine Or.inl ⟨rfl, ?_⟩
      rw [threadsStep]
      by_cases same : index = other
      · subst same
        cases taken : (state.call index).ownerStep
            (granted calls state index) step with
        | none => exact Or.inl rfl
        | some found =>
            rcases found with ⟨after, operation⟩
            refine Or.inr ⟨step, operation, ?_⟩
            rw [taken, call_takeStep_self]
      · exact Or.inl (call_takeStep_of_ne calls index state same _)
  | heartbeat other step =>
      rw [isTurn, threadsStep]
      by_cases same : index = other
      · subst same
        rw [decide_eq_true rfl]
        cases taken : (state.call index).heartbeatStep
            (renewed calls state index) step with
        | none => exact Or.inl ⟨rfl, Or.inl rfl⟩
        | some found =>
            rcases found with ⟨after, operation⟩
            refine Or.inr ⟨rfl, step, operation, ?_⟩
            rw [taken, call_takeStep_self]
      · rw [decide_eq_false (Ne.symm same)]
        exact Or.inl
          ⟨rfl, Or.inl (call_takeStep_of_ne calls index state same _)⟩
  | wait later => exact Or.inl ⟨rfl, Or.inl rfl⟩

/-- The event is set, and what the thread may still do. -/
structure Stopping (bound : ℕ) (state : ThreadsState Index Time) : Prop where
  settled : state.Settled
  stopped : (state.call index).stopEvent = true
  renewals :
    (state.call index).renewals + (state.call index).pending ≤ bound

variable {index}

/-- A step after the event is set keeps the bounds. -/
theorem Stopping.step
    {bound : ℕ} {state : ThreadsState Index Time}
    (stopping : Stopping index bound state)
    (action : ThreadsAction Index Time) :
    Stopping index bound (threadsStep calls state action) ∧
      (if isTurn calls index state action then 1 else 0) +
          ((threadsStep calls state action).call index).thread.stepsLeft ≤
        (state.call index).thread.stepsLeft := by
  have settled := settled_threadsStep calls state action stopping.settled
  rcases call_threadsStep calls index state action with
    ⟨notTurn, same | ⟨step, operation, taken⟩⟩ |
    ⟨isTurn, step, operation, taken⟩
  · rw [notTurn, same]
    refine ⟨⟨settled, ?_, ?_⟩, (Nat.zero_add _).le⟩
    · rw [same]
      exact stopping.stopped
    · rw [same]
      exact stopping.renewals
  · rcases CallThreads.ownerStep_of_stopped (stopping.settled index)
      stopping.stopped taken with ⟨stopped, sameThread, sameRenewals⟩
    rw [notTurn, sameThread]
    refine ⟨⟨settled, stopped, ?_⟩, (Nat.zero_add _).le⟩
    rw [CallThreads.pending, sameThread, sameRenewals]
    exact stopping.renewals
  · rcases CallThreads.heartbeatStep_of_stopped stopping.stopped taken with
      ⟨fewer, renewals⟩
    rcases CallThreads.heartbeatStep_eq_some taken with
      ⟨_, _, _, sameEvent⟩
    rw [isTurn]
    refine ⟨⟨settled, ?_, renewals.trans stopping.renewals⟩, ?_⟩
    · rw [sameEvent]
      exact stopping.stopped
    · rw [if_pos rfl, Nat.add_comm]
      exact fewer

/-- A run after the event is set keeps the bounds. -/
theorem Stopping.run
    {bound : ℕ} {state : ThreadsState Index Time}
    (stopping : Stopping index bound state)
    (actions : List (ThreadsAction Index Time)) :
    Stopping index bound (threadsRun calls state actions) ∧
      turns calls index state actions ≤
        (state.call index).thread.stepsLeft := by
  induction actions generalizing state with
  | nil => exact ⟨stopping, Nat.zero_le _⟩
  | cons action rest induction =>
      rcases stopping.step calls action with ⟨next, fewer⟩
      rcases induction next with ⟨last, turnsLeft⟩
      exact ⟨last, (Nat.add_le_add_left turnsLeft _).trans fewer⟩

/-- A thread whose renewal was refused, or which has ended, renews no more. -/
theorem renewals_of_renewsNoMore
    {state : ThreadsState Index Time}
    (noMore : (state.call index).thread.renewsNoMore = true)
    (actions : List (ThreadsAction Index Time)) :
    ((threadsRun calls state actions).call index).renewals =
      (state.call index).renewals := by
  have kept :
      ((threadsRun calls state actions).call index).thread.renewsNoMore =
          true ∧
        ((threadsRun calls state actions).call index).renewals =
          (state.call index).renewals := by
    refine @run_invariant _ _ (threadsStep calls)
      (fun reached =>
        (reached.call index).thread.renewsNoMore = true ∧
          (reached.call index).renewals = (state.call index).renewals)
      ?_ actions state ⟨noMore, rfl⟩
    rintro reached action ⟨still, same⟩
    rcases call_threadsStep calls index reached action with
      ⟨_, unchanged | ⟨step, operation, taken⟩⟩ |
      ⟨_, step, operation, taken⟩
    · rw [unchanged]
      exact ⟨still, same⟩
    · rcases CallThreads.ownerStep_of_renewsNoMore still taken with
        ⟨noMore, renewals⟩
      exact ⟨noMore, renewals.trans same⟩
    · rcases CallThreads.heartbeatStep_of_renewsNoMore still taken with
        ⟨noMore, renewals⟩
      exact ⟨noMore, renewals.trans same⟩
  exact kept.2

/-! ### The lease after the call -/

/-- An operation of another lease does not touch this one. -/
theorem touched_leaseStep_of_ne
    (lease : LeaseState Index Time) {other : Index} (ne : index ≠ other)
    (operation : LeaseOperation) :
    (leaseStep (callLease calls) lease (operation.action other)).touched
        index =
      lease.touched index := by
  cases operation with
  | acquire =>
      rw [LeaseOperation.action, leaseStep]
      split
      · exact Function.update_of_ne ne _ _
      · rfl
  | renew =>
      rw [LeaseOperation.action, leaseStep]
      split
      · exact Function.update_of_ne ne _ _
      · rfl
  | release => exact Function.update_of_ne ne _ _

/-- A call which has finished has given its lease back. -/
structure Released (index : Index) (state : ThreadsState Index Time) :
    Prop where
  settled : state.Settled
  untouched : (state.call index).owner = .finished →
    state.lease.touched index = none

/-- Only the release of a lease is a step which comes to the end of a call. -/
theorem CallThreads.untouched_of_ownerStep
    {granted : Bool} {call after : CallThreads} {step : OwnerStep}
    {operation : Option LeaseOperation}
    (taken : call.ownerStep granted step = some (after, operation))
    (finished : after.owner = .finished) :
    operation = some .release ∨
      (operation = none ∧ call.owner = .finished) := by
  cases step with
  | release =>
      rw [ownerStep] at taken
      split_ifs at taken
      cases taken
      exact Or.inl rfl
  | start =>
      rw [ownerStep] at taken
      split_ifs at taken
      cases taken
      exact Or.inr ⟨rfl, finished⟩
  | _ =>
      rw [ownerStep] at taken
      split_ifs at taken
      all_goals
        cases taken
        cases finished

theorem Released.step
    {state : ThreadsState Index Time} (released : Released index state)
    (action : ThreadsAction Index Time) :
    Released index (threadsStep calls state action) := by
  refine ⟨settled_threadsStep calls state action released.settled, ?_⟩
  intro finished
  cases action with
  | owner other step =>
      rw [threadsStep] at finished ⊢
      cases taken : (state.call other).ownerStep
          (granted calls state other) step with
      | none =>
          rw [taken] at finished
          exact released.untouched finished
      | some found =>
          rcases found with ⟨after, operation⟩
          rw [taken] at finished
          by_cases same : index = other
          · subst same
            rw [call_takeStep_self] at finished
            rcases CallThreads.untouched_of_ownerStep taken finished with
              rfl | ⟨rfl, before⟩
            · exact Function.update_self _ _ _
            · exact released.untouched before
          · rw [call_takeStep_of_ne calls index state same] at finished
            cases operation with
            | none => exact released.untouched finished
            | some operation =>
                exact
                  (touched_leaseStep_of_ne calls state.lease same
                    operation).trans
                    (released.untouched finished)
  | heartbeat other step =>
      rw [threadsStep] at finished ⊢
      cases taken : (state.call other).heartbeatStep
          (renewed calls state other) step with
      | none =>
          rw [taken] at finished
          exact released.untouched finished
      | some found =>
          rcases found with ⟨after, operation⟩
          rw [taken] at finished
          by_cases same : index = other
          · subst same
            rw [call_takeStep_self] at finished
            rcases CallThreads.heartbeatStep_eq_some taken with
              ⟨notEnded, _, sameOwner, _⟩
            rw [sameOwner] at finished
            have isEnded :=
              (released.settled index).joined (by rw [finished]; rfl)
            rw [isEnded] at notEnded
            cases notEnded
          · rw [call_takeStep_of_ne calls index state same] at finished
            cases operation with
            | none => exact released.untouched finished
            | some operation =>
                exact
                  (touched_leaseStep_of_ne calls state.lease same
                    operation).trans
                    (released.untouched finished)
  | wait later => exact released.untouched finished

/-- A call which has finished stays as it is. -/
theorem finished_step
    (state : ThreadsState Index Time) (action : ThreadsAction Index Time)
    (finished : (state.call index).owner = .finished) :
    ((threadsStep calls state action).call index).owner = .finished := by
  rcases call_threadsStep calls index state action with
    ⟨_, unchanged | ⟨step, operation, taken⟩⟩ | ⟨_, step, operation, taken⟩
  · rw [unchanged]
    exact finished
  · cases step with
    | _ =>
        rw [CallThreads.ownerStep, finished] at taken
        simp only [reduceCtorEq, false_and, if_false] at taken
  · rcases CallThreads.heartbeatStep_eq_some taken with ⟨_, _, sameOwner, _⟩
    exact sameOwner.trans finished

end Runs

section Safety

variable [DecidableEq Index] [IsStrictOrderedRing Time]
variable {calls : Index → SourceCall}

/--
What stopping the heartbeat of a call comes to, from one state of a run to a
later one and the steps in between.
-/
structure HeartbeatSafe (calls : Index → SourceCall) (index : Index)
    (before : ThreadsState Index Time)
    (between : List (ThreadsAction Index Time)) : Prop where
  /-- Once it is to stop, it renews at most once more. -/
  renewsOnce : (before.call index).stopEvent = true →
    ((threadsRun calls before between).call index).renewals ≤
      (before.call index).renewals + 1
  /-- Once it is to stop, it takes at most three steps, and does not wait. -/
  ends : (before.call index).stopEvent = true →
    turns calls index before between ≤ 3 ∧
      ((before.call index).thread.isEnded = true ∨
        ∃ step, isTurn calls index before (.heartbeat index step) = true)
  /-- Once it was refused or has ended, it renews no more. -/
  renewsNoMore : (before.call index).thread.renewsNoMore = true →
    ((threadsRun calls before between).call index).renewals =
      (before.call index).renewals
  /-- Once it has stopped, it has ended. -/
  joined : (before.call index).owner.hasJoined = true →
    (before.call index).thread.isEnded = true
  /-- Once the call has ended, its lease key never holds its token. -/
  released : (before.call index).owner = .finished →
    ¬ (callLease calls index).Owns (threadsRun calls before between).lease.now
      (threadsRun calls before between).lease.store

omit [IsStrictOrderedRing Time] in
theorem settled_threadsRun
    {state : ThreadsState Index Time} (settled : state.Settled)
    (actions : List (ThreadsAction Index Time)) :
    (threadsRun calls state actions).Settled :=
  run_invariant (settled_threadsStep calls) actions settled

omit [IsStrictOrderedRing Time] in
theorem threadsRun_append
    (state : ThreadsState Index Time)
    (earlier later : List (ThreadsAction Index Time)) :
    threadsRun calls state (earlier ++ later) =
      threadsRun calls (threadsRun calls state earlier) later :=
  List.foldl_append

omit [IsStrictOrderedRing Time] in
/-- A thread which is to stop has ended, or can go on. -/
theorem isEnded_or_isTurn
    {state : ThreadsState Index Time} {index : Index}
    (settled : (state.call index).Settled)
    (stopped : (state.call index).stopEvent = true) :
    (state.call index).thread.isEnded = true ∨
      ∃ step, isTurn calls index state (.heartbeat index step) = true := by
  cases isEnded : (state.call index).thread.isEnded with
  | true => exact Or.inl rfl
  | false =>
      have hasBegun : (state.call index).owner.hasBegun = true := by
        rw [settled.event] at stopped
        cases isOwner : (state.call index).owner with
        | executing => rfl
        | operationEnded => rfl
        | _ =>
            rw [isOwner] at stopped
            exact stopped
      rcases @CallThreads.exists_heartbeatStep
          (renewed calls state index) _ (settled.started hasBegun) isEnded
        with ⟨step, turn⟩
      refine Or.inr ⟨step, ?_⟩
      rw [isTurn, turn, decide_eq_true rfl]
      rfl

/-- In every interleaving the store and the beliefs stay in step. -/
theorem threadsRun_owned
    (distinct : Function.Injective fun index => (calls index).lease.token)
    {state : ThreadsState Index Time} (start : ThreadsStart calls state)
    (actions : List (ThreadsAction Index Time)) :
    Owned (callLease calls) (threadsRun calls state actions).lease := by
  have viewed :
      (threadsRun calls state actions).view =
        workerRun calls state.view
          ((threadsSimulation calls).labels state actions) :=
    (threadsSimulation calls).view_run actions start.settled
  have owned :=
    workerRun_owned distinct start.view.fresh.owned
      ((threadsSimulation calls).labels state actions)
  rw [← viewed] at owned
  exact owned

/--
In every interleaving stopping a heartbeat is safe: it renews at most once
more, ends within three steps and then never renews, and no key holds the
token of a call which has ended.
-/
theorem heartbeat_safe
    (distinct : Function.Injective fun index => (calls index).lease.token)
    (state : ThreadsState Index Time) (start : ThreadsStart calls state)
    (actions between : List (ThreadsAction Index Time)) (index : Index) :
    HeartbeatSafe calls index (threadsRun calls state actions) between := by
  have settled : (threadsRun calls state actions).Settled :=
    settled_threadsRun start.settled actions
  have stopping
      (stopped : ((threadsRun calls state actions).call index).stopEvent =
        true) :
      Stopping index _ (threadsRun calls state actions) :=
    ⟨settled, stopped, le_rfl⟩
  constructor
  · intro stopped
    rcases (stopping stopped).run calls between with ⟨⟨_, _, bounded⟩, _⟩
    have pending :
        ((threadsRun calls state actions).call index).pending ≤ 1 := by
      rw [CallThreads.pending]
      split_ifs <;> decide
    exact (Nat.le_add_right _ _).trans (bounded.trans
      (Nat.add_le_add_left pending _))
  · intro stopped
    rcases (stopping stopped).run calls between with ⟨_, few⟩
    refine ⟨few.trans (ThreadPhase.stepsLeft_le _), ?_⟩
    exact isEnded_or_isTurn (settled index) stopped
  · intro noMore
    exact renewals_of_renewsNoMore calls noMore between
  · exact (settled index).joined
  · intro finished
    have released :
        Released index
          (threadsRun calls (threadsRun calls state actions) between) := by
      have initially : Released index state := by
        refine ⟨start.settled, fun isFinished => ?_⟩
        rw [start.idle index] at isFinished
        cases isFinished
      rw [← threadsRun_append]
      exact run_invariant (fun _ action reached => reached.step calls action)
        (actions ++ between) initially
    have stillFinished :
        ((threadsRun calls (threadsRun calls state actions)
          between).call index).owner = .finished :=
      @run_invariant _ _ (threadsStep calls)
        (fun reached => (reached.call index).owner = .finished)
        (finished_step calls) between _ finished
    have owned := threadsRun_owned distinct start (actions ++ between)
    rw [threadsRun_append] at owned
    intro owns
    rcases owned.current index owns with ⟨touched, isTouched, _⟩
    rw [released.untouched stillFinished] at isTouched
    cases isTouched

/--
The first heartbeat times out before it is to stop, renews once more, and then
ends; the release comes last.
-/
theorem heartbeat_safe_late_renewal :
    HeartbeatSafe rivalCalls false
      (threadsRun rivalCalls rivalThreads
        [.owner false .acquire, .owner false .start,
          .owner false .beginOperation, .wait 30, .heartbeat false .timesOut,
          .owner false .endOperation, .owner false .setStopEvent])
      [.heartbeat false .renew, .heartbeat false .handleReply,
        .heartbeat false .noticesStop, .owner false .join,
        .owner false .release] :=
  heartbeat_safe rivals_token_injective rivalThreads rivalThreads_start _ _ _

end Safety

end MultisiteCrawler.Tasks
