import MultisiteCrawler.Tasks.SourceLease
import MultisiteCrawler.Tasks.TerminalOutcome

/-!
# The timing of the heartbeat

One call among the workers has an ideal heartbeat: every wait lasts exactly
the interval, a renewal takes no time and does not raise, and the operation
lasts as long as it is said to.  The other calls and their heartbeats do what
they like.

Seen from the call, the store is a lifetime which a renewal starts again.  The
lease is held from its acquisition to its release if the interval is shorter
than the lifetime, or the operation is.  The default interval is a third of
the lifetime but at least one second, so that it is no shorter than a lifetime
of one second.
-/

namespace MultisiteCrawler.Tasks

open Foundation.ExpiringStore
open Foundation.PythonErrors
open Foundation.PythonFloats
open MultisiteCrawler.Locking

/-! ## The default interval -/

/-- `max(1, ttl_seconds / 3)`. -/
def defaultRenewInterval (ttlSeconds : ℤ) : ℚ :=
  max 1 (ttlSeconds / 3)

theorem one_le_defaultRenewInterval (ttlSeconds : ℤ) :
    1 ≤ defaultRenewInterval ttlSeconds :=
  le_max_left _ _

/-- A call without an interval of its own takes the default one. -/
theorem heartbeatInterval_of_default
    (call : LeasedCall) (default : call.renewIntervalSeconds = none)
    (representable : |(call.ttlSeconds : ℚ) / 3| < floatLimit) :
    call.heartbeatInterval =
      .ok (.finite (defaultRenewInterval call.ttlSeconds)) := by
  have third :
      doubleArithmetic.trueDivide call.ttlSeconds 3 =
        .ok (.finite ((call.ttlSeconds : ℚ) / 3)) := by
    have nearest :
        doubleArithmetic.nearest ((call.ttlSeconds : ℚ) / 3) =
          some (.finite ((call.ttlSeconds : ℚ) / 3)) := by
      simp [doubleArithmetic, boundedArithmetic, representable]
    rw [FloatArithmetic.trueDivide, if_neg (by decide)]
    exact (doubleArithmetic.rounded_eq_ok_iff _ _).mpr nearest
  rw [LeasedCall.heartbeatInterval, default]
  simp only [third, bind, Except.bind, PyNumber.atMost, decide_eq_true_eq]
  rw [defaultRenewInterval]
  split_ifs with short
  · rw [max_eq_left short]
  · rw [max_eq_right (not_le.mp short).le]

/-- The default interval is shorter than every lifetime but the shortest. -/
theorem defaultRenewInterval_lt_iff
    {ttlSeconds : ℤ} (positive : 0 < ttlSeconds) :
    defaultRenewInterval ttlSeconds < ttlSeconds ↔ 2 ≤ ttlSeconds := by
  have lifetime : (0 : ℚ) < ttlSeconds := Int.cast_pos.mpr positive
  rw [defaultRenewInterval, max_lt_iff]
  constructor
  · rintro ⟨long, _⟩
    exact_mod_cast long
  · intro long
    refine ⟨by exact_mod_cast long, ?_⟩
    linarith

/-! ## A call with a timetable -/

/-- The lease of a call is acquired and not yet released. -/
def CallPhase.Holding (phase : CallPhase) : Prop :=
  phase ≠ .idle ∧ phase ≠ .skippedOverlap ∧ phase ≠ .finished

theorem CallPhase.holding_of_executing
    {phase : CallPhase} (executing : phase = .executing) :
    phase.Holding := by
  subst executing
  exact ⟨by decide, by decide, by decide⟩

/-- The workers, and when one call beats next and ends its operation. -/
structure TimedState (Index : Type) where
  worker : WorkerState Index ℚ
  nextBeat : ℚ
  endsAt : ℚ

/--
The steps which keep to the timetable of a call.  It renews its lease when its
heartbeat has waited, ends its operation when it is over, and nothing else of
it takes time.
-/
def Punctual {Index : Type} (own : Index) (state : TimedState Index) :
    WorkerAction Index ℚ → Prop
  | .renew index =>
      index = own →
        state.worker.heartbeat own = .beating ∧
          state.worker.lease.now = state.nextBeat
  | .renewRaises index _ => index ≠ own
  | .endOperation index =>
      index = own → state.worker.lease.now = state.endsAt
  | .wait later =>
      state.worker.phase own = .finished ∨
        (state.worker.phase own = .executing ∧ later ≤ state.endsAt ∧
          (state.worker.heartbeat own = .beating →
            later ≤ state.nextBeat))
  | _ => True

variable {Index : Type} [DecidableEq Index]

instance (own : Index) (state : TimedState Index)
    (action : WorkerAction Index ℚ) :
    Decidable (Punctual own state action) := by
  cases action <;> unfold Punctual <;> infer_instance

section Steps

variable (calls : Index → SourceCall) (own : Index) (interval : ℚ)

/-- The state after a step; one which is not punctual does nothing. -/
def timedStep (state : TimedState Index) (action : WorkerAction Index ℚ) :
    TimedState Index :=
  if Punctual own state action then
    { state with
      worker := workerStep calls state.worker action
      nextBeat :=
        if action = .renew own then state.worker.lease.now + interval
        else state.nextBeat }
  else state

/-- The state after a sequence of steps. -/
def timedRun (state : TimedState Index)
    (actions : List (WorkerAction Index ℚ)) : TimedState Index :=
  actions.foldl (timedStep calls own interval) state

/-- The call attempts to acquire its lease, and its timetable begins. -/
def attempted (duration : ℚ) (state : WorkerState Index ℚ) :
    TimedState Index where
  worker := workerStep calls state (.acquire own)
  nextBeat := state.lease.now + interval
  endsAt := state.lease.now + duration

/--
From its acquisition to its release the lease of the call holds its token,
whatever the others do.
-/
def HeldThroughout (duration : ℚ) (state : WorkerState Index ℚ) : Prop :=
  ∀ actions,
    let final :=
      timedRun calls own interval (attempted calls own interval duration state)
        actions
    (final.worker.phase own).Holding →
      (callLease calls own).Owns final.worker.lease.now
        final.worker.lease.store

/-- A state in which the call acquires its lease. -/
structure Acquires (state : WorkerState Index ℚ) : Prop where
  owned : Owned (callLease calls) state.lease
  idle : state.phase own = .idle
  notStarted : state.heartbeat own = .notStarted
  succeeds :
    ((callLease calls own).acquire state.lease.now state.lease.store).1 =
      true

end Steps

/-! ## The call by itself -/

/-- What a call knows of the workers. -/
structure CallView where
  now : ℚ
  phase : CallPhase
  heartbeat : HeartbeatPhase
  touched : Option ℚ
  nextBeat : ℚ

/-- The workers as a call sees them. -/
def TimedState.view (own : Index) (state : TimedState Index) : CallView where
  now := state.worker.lease.now
  phase := state.worker.phase own
  heartbeat := state.worker.heartbeat own
  touched := state.worker.lease.touched own
  nextBeat := state.nextBeat

/-- The lifetime of the lease has not passed since it was last touched. -/
def CallView.Live (ttl : ℚ) (view : CallView) : Prop :=
  ∃ touched, view.touched = some touched ∧ view.now < touched + ttl

/-- How a call goes on. -/
inductive CallStep (ttl interval endsAt : ℚ) :
    CallView → CallView → Prop where
  | unchanged (view) : CallStep ttl interval endsAt view view
  | started (view) (acquired : view.phase = .acquired) :
      CallStep ttl interval endsAt view { view with heartbeat := .beating }
  | begun (view) (acquired : view.phase = .acquired)
      (started : view.heartbeat ≠ .notStarted) :
      CallStep ttl interval endsAt view { view with phase := .executing }
  | renewed (view) (beating : view.heartbeat = .beating)
      (due : view.now = view.nextBeat) (live : view.Live ttl) :
      CallStep ttl interval endsAt view
        { view with
          touched := some view.now
          nextBeat := view.now + interval }
  | lost (view) (beating : view.heartbeat = .beating)
      (due : view.now = view.nextBeat) (expired : ¬ view.Live ttl) :
      CallStep ttl interval endsAt view
        { view with
          heartbeat := .lostOwnership
          nextBeat := view.now + interval }
  | waited (view) (later : ℚ) (executing : view.phase = .executing)
      (unfinished : later ≤ endsAt)
      (undue : view.heartbeat = .beating → later ≤ view.nextBeat) :
      CallStep ttl interval endsAt view { view with now := max view.now later }
  | ended (view) (executing : view.phase = .executing) :
      CallStep ttl interval endsAt view
        { view with phase := .operationEnded }
  | stopped (view) (ended : view.phase = .operationEnded) :
      CallStep ttl interval endsAt view
        { view with phase := .heartbeatStopped, heartbeat := .stopped }
  | released (view after) (stopped : view.phase = .heartbeatStopped)
      (finished : after.phase = .finished) :
      CallStep ttl interval endsAt view after
  | afterwards (view after) (finished : view.phase = .finished)
      (still : after.phase = .finished) :
      CallStep ttl interval endsAt view after

/-! ### The other calls -/

/-- The call which performs an action, unless it is the clock. -/
def WorkerAction.caller : WorkerAction Index ℚ → Option Index
  | .acquire index | .startHeartbeat index | .beginOperation index
  | .renew index | .renewRaises index _ | .endOperation index
  | .stopHeartbeat index | .release index => some index
  | .wait _ => none

/-- An operation of one lease changes no other and takes no time. -/
theorem leaseStep_of_ne
    (leases : Index → RedisLease) (lease : LeaseState Index ℚ)
    {own index : Index} (other : own ≠ index)
    {action : LeaseAction Index ℚ}
    (performs :
      action = .acquire index ∨ action = .renew index ∨
        action = .release index) :
    (leaseStep leases lease action).now = lease.now ∧
      (leaseStep leases lease action).touched own = lease.touched own := by
  rcases performs with rfl | rfl | rfl
  · rcases attempt : (leases index).acquire lease.now lease.store with
      ⟨success, store⟩
    cases success <;>
      simp [leaseStep, attempt, Function.update_of_ne other]
  · rcases attempt : (leases index).renew lease.now lease.store with
      ⟨success, store⟩
    cases success <;>
      simp [leaseStep, attempt, Function.update_of_ne other]
  · simp [leaseStep, Function.update_of_ne other]

variable {calls : Index → SourceCall} {own : Index} {interval : ℚ}

/-- What other calls do is not seen by a call. -/
theorem view_timedStep_of_other
    (state : TimedState Index) {action : WorkerAction Index ℚ}
    {index : Index} (performs : action.caller = some index)
    (other : own ≠ index) :
    (timedStep calls own interval state action).view own =
      state.view own := by
  have acquires :=
    leaseStep_of_ne (callLease calls) state.worker.lease other (Or.inl rfl)
  have renews :=
    leaseStep_of_ne (callLease calls) state.worker.lease other
      (Or.inr (Or.inl rfl))
  have releases :=
    leaseStep_of_ne (callLease calls) state.worker.lease other
      (Or.inr (Or.inr rfl))
  unfold timedStep
  cases action with
  | wait later => cases performs
  | _ =>
      cases performs
      simp only [workerStep]
      split_ifs <;> simp_all [TimedState.view, Ne.symm other]

/-- A punctual step which is no renewal keeps the timetable. -/
theorem timedStep_of_ne_renew
    {state : TimedState Index} {action : WorkerAction Index ℚ}
    (punctual : Punctual own state action) (noRenewal : action ≠ .renew own) :
    timedStep calls own interval state action =
      { state with worker := workerStep calls state.worker action } := by
  rw [timedStep, if_pos punctual, if_neg noRenewal]

theorem view_startHeartbeat
    {state : TimedState Index}
    (acquired : state.worker.phase own = .acquired)
    (notStarted : state.worker.heartbeat own = .notStarted) :
    (timedStep calls own interval state (.startHeartbeat own)).view own =
      { state.view own with heartbeat := .beating } := by
  have ready :
      workerStep calls state.worker (.startHeartbeat own) =
        { state.worker with
          heartbeat :=
            Function.update state.worker.heartbeat own .beating } :=
    if_pos ⟨acquired, notStarted⟩
  have punctual : Punctual own state (.startHeartbeat own) := trivial
  rw [timedStep_of_ne_renew punctual (by simp), ready]
  simp [TimedState.view]

theorem view_beginOperation
    {state : TimedState Index}
    (acquired : state.worker.phase own = .acquired)
    (started : state.worker.heartbeat own ≠ .notStarted) :
    (timedStep calls own interval state (.beginOperation own)).view own =
      { state.view own with phase := .executing } := by
  have ready :
      workerStep calls state.worker (.beginOperation own) =
        { state.worker with
          phase := Function.update state.worker.phase own .executing } :=
    if_pos ⟨acquired, started⟩
  have punctual : Punctual own state (.beginOperation own) := trivial
  rw [timedStep_of_ne_renew punctual (by simp), ready]
  simp [TimedState.view]

theorem view_wait
    {state : TimedState Index} {later : ℚ}
    (punctual : Punctual own state (.wait later)) :
    (timedStep calls own interval state (.wait later)).view own =
      { state.view own with now := max (state.view own).now later } := by
  rw [timedStep_of_ne_renew punctual (by simp)]
  rfl

/-- The outcome of a renewal is decided by the lifetime. -/
theorem view_renew
    {state : TimedState Index}
    (owned : Owned (callLease calls) state.worker.lease)
    (beating : state.worker.heartbeat own = .beating)
    (due : state.worker.lease.now = state.nextBeat) :
    CallStep (callLease calls own).ttlSeconds interval state.endsAt
      (state.view own)
      ((timedStep calls own interval state (.renew own)).view own) := by
  have punctual : Punctual own state (.renew own) := fun _ => ⟨beating, due⟩
  have renewing :
      workerStep calls state.worker (.renew own) =
        { state.worker with
          lease :=
            leaseStep (callLease calls) state.worker.lease (.renew own)
          heartbeat :=
            Function.update state.worker.heartbeat own
              (if ((callLease calls own).renew state.worker.lease.now
                  state.worker.lease.store).1 then .beating
              else .lostOwnership) } := if_pos beating
  rw [timedStep, if_pos punctual, if_pos rfl, renewing]
  by_cases owns :
      (callLease calls own).Owns state.worker.lease.now
        state.worker.lease.store
  · rcases owned.current own owns with ⟨touched, isTouched, live⟩
    have renewed :
        (callLease calls own).renew state.worker.lease.now
            state.worker.lease.store =
          (true, _) := if_pos owns
    have view :
        CallStep (callLease calls own).ttlSeconds interval state.endsAt
          (state.view own) _ :=
      .renewed _ beating due ⟨touched, isTouched, live⟩
    simpa [TimedState.view, leaseStep, renewed, isTouched, beating] using view
  · have refused :
        (callLease calls own).renew state.worker.lease.now
            state.worker.lease.store =
          (false, _) := compareExpire_of_ne owns _
    have expired :
        ¬ (state.view own).Live (callLease calls own).ttlSeconds := by
      rintro ⟨touched, isTouched, live⟩
      exact owns (owned.owns ⟨touched, isTouched, live⟩)
    have view :
        CallStep (callLease calls own).ttlSeconds interval state.endsAt
          (state.view own) _ :=
      .lost _ beating due expired
    simpa [TimedState.view, leaseStep, refused] using view

/-- A call goes on as its own view says. -/
theorem callStep_timedStep
    {state : TimedState Index}
    (owned : Owned (callLease calls) state.worker.lease)
    (begun : state.worker.phase own ≠ .idle)
    (action : WorkerAction Index ℚ) :
    CallStep (callLease calls own).ttlSeconds interval state.endsAt
      (state.view own)
      ((timedStep calls own interval state action).view own) := by
  by_cases performs : ∃ index, action.caller = some index ∧ own ≠ index
  · rcases performs with ⟨index, performs, other⟩
    rw [view_timedStep_of_other state performs other]
    exact .unchanged _
  push Not at performs
  by_cases punctual : Punctual own state action
  swap
  · rw [timedStep, if_neg punctual]
    exact .unchanged _
  cases action with
  | acquire index =>
      rcases performs index rfl with rfl
      rw [timedStep_of_ne_renew punctual (by simp), workerStep, if_neg begun]
      exact .unchanged _
  | startHeartbeat index =>
      rcases performs index rfl with rfl
      by_cases ready :
          state.worker.phase own = .acquired ∧
            state.worker.heartbeat own = .notStarted
      · rw [view_startHeartbeat ready.1 ready.2]
        exact .started _ ready.1
      · rw [timedStep_of_ne_renew punctual (by simp), workerStep,
          if_neg ready]
        exact .unchanged _
  | beginOperation index =>
      rcases performs index rfl with rfl
      by_cases ready :
          state.worker.phase own = .acquired ∧
            state.worker.heartbeat own ≠ .notStarted
      · rw [view_beginOperation ready.1 ready.2]
        exact .begun _ ready.1 ready.2
      · rw [timedStep_of_ne_renew punctual (by simp), workerStep,
          if_neg ready]
        exact .unchanged _
  | renew index =>
      rcases performs index rfl with rfl
      rcases punctual rfl with ⟨beating, due⟩
      exact view_renew owned beating due
  | renewRaises index performed =>
      exact absurd (performs index rfl).symm punctual
  | endOperation index =>
      rcases performs index rfl with rfl
      rw [timedStep_of_ne_renew punctual (by simp), workerStep]
      split_ifs with executing
      · have view :
            CallStep (callLease calls own).ttlSeconds interval state.endsAt
              (state.view own) _ := .ended _ executing
        simpa [TimedState.view] using view
      · exact .unchanged _
  | stopHeartbeat index =>
      rcases performs index rfl with rfl
      rw [timedStep_of_ne_renew punctual (by simp), workerStep]
      split_ifs with ended
      · have view :
            CallStep (callLease calls own).ttlSeconds interval state.endsAt
              (state.view own) _ := .stopped _ ended
        simpa [TimedState.view] using view
      · exact .unchanged _
  | release index =>
      rcases performs index rfl with rfl
      rw [timedStep_of_ne_renew punctual (by simp), workerStep]
      split_ifs with stopped
      · exact .released _ _ stopped (Function.update_self _ _ _)
      · exact .unchanged _
  | wait later =>
      rw [view_wait punctual]
      rcases punctual with finished | ⟨executing, unfinished, undue⟩
      · exact .afterwards _ _ finished finished
      · exact .waited _ later executing unfinished undue

/-! ## Runs -/

/-- Every step keeps the store and the beliefs in step. -/
theorem timedStep_owned
    (distinct : Function.Injective fun index => (calls index).lease.token)
    {state : TimedState Index}
    (owned : Owned (callLease calls) state.worker.lease)
    (action : WorkerAction Index ℚ) :
    Owned (callLease calls)
      (timedStep calls own interval state action).worker.lease := by
  by_cases punctual : Punctual own state action
  · rw [timedStep, if_pos punctual]
    exact workerRun_owned distinct owned [action]
  · rw [timedStep, if_neg punctual]
    exact owned

theorem timedRun_owned
    (distinct : Function.Injective fun index => (calls index).lease.token)
    {state : TimedState Index}
    (owned : Owned (callLease calls) state.worker.lease)
    (actions : List (WorkerAction Index ℚ)) :
    Owned (callLease calls)
      (timedRun calls own interval state actions).worker.lease := by
  induction actions generalizing state with
  | nil => exact owned
  | cons action rest induction =>
      exact induction (timedStep_owned distinct owned action)

theorem attempted_owned
    (distinct : Function.Injective fun index => (calls index).lease.token)
    {state : WorkerState Index ℚ} (acquires : Acquires calls own state)
    (duration : ℚ) :
    Owned (callLease calls)
      (attempted calls own interval duration state).worker.lease :=
  workerRun_owned distinct acquires.owned [.acquire own]

/--
What every step of the call by itself keeps holds of it after every run, if it
held before.
-/
theorem timedRun_keeps
    (distinct : Function.Injective fun index => (calls index).lease.token)
    {invariant : CallView → Prop} {endsAt : ℚ}
    (begun : ∀ view, invariant view → view.phase ≠ .idle)
    (keeps :
      ∀ view after, invariant view →
        CallStep (callLease calls own).ttlSeconds interval endsAt view
          after →
        invariant after)
    {state : TimedState Index} (ends : state.endsAt = endsAt)
    (owned : Owned (callLease calls) state.worker.lease)
    (holds : invariant (state.view own))
    (actions : List (WorkerAction Index ℚ)) :
    invariant ((timedRun calls own interval state actions).view own) := by
  induction actions generalizing state with
  | nil => exact holds
  | cons action rest induction =>
      refine induction ?_ (timedStep_owned distinct owned action) ?_
      · rw [timedStep]
        split_ifs <;> exact ends
      · subst ends
        exact keeps _ _ holds (callStep_timedStep owned (begun _ holds) action)

omit [DecidableEq Index] in
/-- A live lease is held. -/
theorem owns_of_live
    {state : TimedState Index}
    (owned : Owned (callLease calls) state.worker.lease)
    (live : (state.view own).Live (callLease calls own).ttlSeconds) :
    (callLease calls own).Owns state.worker.lease.now
      state.worker.lease.store := by
  rcases live with ⟨touched, isTouched, live⟩
  exact owned.owns ⟨touched, isTouched, live⟩

/-- The call after it has acquired its lease. -/
theorem view_attempted
    {state : WorkerState Index ℚ} (acquires : Acquires calls own state)
    (duration : ℚ) :
    (attempted calls own interval duration state).view own =
      { now := state.lease.now
        phase := .acquired
        heartbeat := .notStarted
        touched := some state.lease.now
        nextBeat := state.lease.now + interval } := by
  rcases attempt :
      (callLease calls own).acquire state.lease.now state.lease.store with
    ⟨success, store⟩
  have succeeds := acquires.succeeds
  rw [attempt] at succeeds
  obtain rfl : success = true := succeeds
  simp [TimedState.view, attempted, workerStep, leaseStep, attempt,
    acquires.idle, acquires.notStarted]

/-! ### A heartbeat which is faster than the lifetime -/

/-- The next beat is an interval after the last touch and not overdue. -/
def CallView.Paced (interval : ℚ) (view : CallView) : Prop :=
  ∃ touched,
    view.touched = some touched ∧ view.nextBeat = touched + interval ∧
      view.now ≤ view.nextBeat

/-- The heartbeat of a call beats until it is stopped. -/
def CallView.Beats (interval : ℚ) (view : CallView) : Prop :=
  match view.phase with
  | .idle | .skippedOverlap => False
  | .acquired =>
      (view.heartbeat = .notStarted ∨ view.heartbeat = .beating) ∧
        view.Paced interval
  | .executing | .operationEnded =>
      view.heartbeat = .beating ∧ view.Paced interval
  | .heartbeatStopped => view.Paced interval
  | .finished => True

/-- A paced lease with a shorter interval is live. -/
theorem CallView.Paced.live
    {ttl : ℚ} {view : CallView} (paced : view.Paced interval)
    (shorter : interval < ttl) : view.Live ttl := by
  rcases paced with ⟨touched, isTouched, next, undue⟩
  refine ⟨touched, isTouched, ?_⟩
  calc
    view.now ≤ touched + interval := next ▸ undue
    _ < touched + ttl := by linarith

theorem CallView.Beats.paced
    {view : CallView} (beats : view.Beats interval)
    (holding : view.phase.Holding) : view.Paced interval := by
  rcases view with ⟨now, phase, heartbeat, touched, nextBeat⟩
  cases phase with
  | idle => exact absurd rfl holding.1
  | skippedOverlap => exact absurd rfl holding.2.1
  | acquired => exact beats.2
  | executing => exact beats.2
  | operationEnded => exact beats.2
  | heartbeatStopped => exact beats
  | finished => exact absurd rfl holding.2.2

/-- A renewal paces the lease again. -/
theorem CallView.Beats.renew
    {view : CallView} (beats : view.Beats interval)
    (positive : 0 < interval) :
    CallView.Beats interval
      { view with
        touched := some view.now
        nextBeat := view.now + interval } := by
  have paced :
      CallView.Paced interval
        { view with
          touched := some view.now
          nextBeat := view.now + interval } :=
    ⟨view.now, rfl, rfl, (lt_add_of_pos_right _ positive).le⟩
  rcases view with ⟨now, phase, heartbeat, touched, nextBeat⟩
  cases phase with
  | idle => exact beats
  | skippedOverlap => exact beats
  | acquired => exact ⟨beats.1, paced⟩
  | executing => exact ⟨beats.1, paced⟩
  | operationEnded => exact ⟨beats.1, paced⟩
  | heartbeatStopped => exact paced
  | finished => trivial

/-- A heartbeat which is faster than the lifetime never finds it over. -/
theorem CallView.Beats.step
    {ttl endsAt : ℚ} {view after : CallView}
    (beats : view.Beats interval) (positive : 0 < interval)
    (shorter : interval < ttl)
    (step : CallStep ttl interval endsAt view after) :
    after.Beats interval := by
  cases step with
  | unchanged => exact beats
  | started acquired =>
      simp only [Beats, acquired] at beats ⊢
      exact ⟨Or.inr trivial, beats.2⟩
  | begun acquired started =>
      simp only [Beats, acquired] at beats ⊢
      exact ⟨beats.1.resolve_left started, beats.2⟩
  | renewed beating due live => exact beats.renew positive
  | lost beating due expired =>
      by_cases finished : view.phase = .finished
      · simp [Beats, finished]
      · have holding : view.phase.Holding := by
          refine ⟨?_, ?_, finished⟩ <;>
          · intro phase
            simp [Beats, phase] at beats
        exact absurd ((beats.paced holding).live shorter) expired
  | waited later executing unfinished undue =>
      simp only [Beats, executing] at beats ⊢
      rcases beats with ⟨beating, touched, isTouched, next, now⟩
      exact ⟨beating, touched, isTouched, next, max_le now (undue beating)⟩
  | ended executing =>
      simp only [Beats, executing] at beats ⊢
      exact beats
  | stopped ended =>
      simp only [Beats, ended] at beats ⊢
      exact beats.2
  | released _ stopped finished => simp [Beats, finished]
  | afterwards _ finished still => simp [Beats, still]

/-! ### An operation which is shorter than the lifetime -/

/-- The lease was touched since the start, and the end has not passed. -/
def CallView.Brief (start endsAt : ℚ) (view : CallView) : Prop :=
  view.phase = .finished ∨
    (view.phase ≠ .idle ∧ view.phase ≠ .skippedOverlap ∧
      start ≤ view.now ∧ view.now ≤ endsAt ∧
      ∃ touched, view.touched = some touched ∧ start ≤ touched)

/-- Whatever the heartbeat does, the operation ends on time. -/
theorem CallView.Brief.step
    {ttl start endsAt : ℚ} {view after : CallView}
    (brief : view.Brief start endsAt)
    (step : CallStep ttl interval endsAt view after) :
    after.Brief start endsAt := by
  cases step with
  | unchanged => exact brief
  | started acquired => exact brief
  | begun acquired started =>
      rcases brief with finished | ⟨_, _, rest⟩
      · rw [acquired] at finished
        cases finished
      · exact Or.inr ⟨by simp, by simp, rest⟩
  | renewed beating due live =>
      rcases brief with finished | ⟨begun, leased, started, undue, _⟩
      · exact Or.inl finished
      · exact Or.inr
          ⟨begun, leased, started, undue, view.now, rfl, started⟩
  | lost beating due expired => exact brief
  | waited later executing unfinished undue =>
      rcases brief with finished | ⟨begun, leased, started, now, touched⟩
      · exact Or.inl finished
      · exact Or.inr
          ⟨begun, leased, le_max_of_le_left started, max_le now unfinished,
            touched⟩
  | ended executing =>
      rcases brief with finished | ⟨_, _, rest⟩
      · rw [executing] at finished
        cases finished
      · exact Or.inr ⟨by simp, by simp, rest⟩
  | stopped ended =>
      rcases brief with finished | ⟨_, _, rest⟩
      · rw [ended] at finished
        cases finished
      · exact Or.inr ⟨by simp, by simp, rest⟩
  | released _ stopped finished => exact Or.inl finished
  | afterwards _ finished still => exact Or.inl still

/-- An operation shorter than the lifetime does not outlast it. -/
theorem CallView.Brief.live
    {ttl start duration : ℚ} {view : CallView}
    (brief : view.Brief start (start + duration))
    (shorter : duration < ttl) (holding : view.phase.Holding) :
    view.Live ttl := by
  rcases brief with finished | ⟨_, _, _, now, touched, isTouched, started⟩
  · exact absurd finished holding.2.2
  · refine ⟨touched, isTouched, ?_⟩
    linarith

/-! ### When the lease is held -/

/--
A lease is held throughout if some invariant of the call by itself keeps it
live.
-/
theorem heldThroughout_of_invariant
    (distinct : Function.Injective fun index => (calls index).lease.token)
    {state : WorkerState Index ℚ} (acquires : Acquires calls own state)
    {duration : ℚ} {invariant : CallView → Prop}
    (begun : ∀ view, invariant view → view.phase ≠ .idle)
    (keeps :
      ∀ view after, invariant view →
        CallStep (callLease calls own).ttlSeconds interval
          (state.lease.now + duration) view after →
        invariant after)
    (live :
      ∀ view, invariant view → view.phase.Holding →
        view.Live (callLease calls own).ttlSeconds)
    (holds :
      invariant ((attempted calls own interval duration state).view own)) :
    HeldThroughout calls own interval duration state := by
  intro actions final holding
  have start :
      Owned (callLease calls)
        (attempted calls own interval duration state).worker.lease :=
    attempted_owned distinct acquires duration
  have kept : invariant (final.view own) :=
    timedRun_keeps distinct begun keeps rfl start holds actions
  exact
    owns_of_live (timedRun_owned distinct start actions)
      (live _ kept holding)

theorem heldThroughout_of_interval_lt
    (distinct : Function.Injective fun index => (calls index).lease.token)
    {state : WorkerState Index ℚ} (acquires : Acquires calls own state)
    (positive : 0 < interval) (duration : ℚ)
    (shorter : interval < (callLease calls own).ttlSeconds) :
    HeldThroughout calls own interval duration state := by
  refine
    heldThroughout_of_invariant distinct acquires
      (fun view (beats : view.Beats interval) phase => ?_)
      (fun view after beats step =>
        CallView.Beats.step beats positive shorter step)
      (fun view beats holding =>
        (CallView.Beats.paced beats holding).live shorter) ?_
  · simp [CallView.Beats, phase] at beats
  · rw [view_attempted acquires]
    exact ⟨Or.inl rfl, state.lease.now, rfl, rfl,
      (lt_add_of_pos_right _ positive).le⟩

theorem heldThroughout_of_duration_lt
    (distinct : Function.Injective fun index => (calls index).lease.token)
    {state : WorkerState Index ℚ} (acquires : Acquires calls own state)
    {duration : ℚ} (nonneg : 0 ≤ duration)
    (shorter : duration < (callLease calls own).ttlSeconds) :
    HeldThroughout calls own interval duration state := by
  refine
    heldThroughout_of_invariant distinct acquires
      (fun view
        (brief : view.Brief state.lease.now (state.lease.now + duration))
        phase => ?_)
      (fun view after brief step => CallView.Brief.step brief step)
      (fun view brief holding => CallView.Brief.live brief shorter holding) ?_
  · simp [CallView.Brief, phase] at brief
  · rw [view_attempted acquires]
    exact Or.inr
      ⟨by simp, by simp, le_rfl, le_add_of_nonneg_right nonneg,
        state.lease.now, rfl, le_rfl⟩

/-- A call which executes until some moment before its next beat. -/
theorem view_executing_until
    {state : WorkerState Index ℚ} (acquires : Acquires calls own state)
    {duration later : ℚ} (future : state.lease.now ≤ later)
    (undue : later ≤ state.lease.now + interval)
    (unfinished : later ≤ state.lease.now + duration) :
    (timedRun calls own interval (attempted calls own interval duration state)
        [.startHeartbeat own, .beginOperation own, .wait later]).view own =
      { now := later
        phase := .executing
        heartbeat := .beating
        touched := some state.lease.now
        nextBeat := state.lease.now + interval } := by
  let start := attempted calls own interval duration state
  let started := timedStep calls own interval start (.startHeartbeat own)
  let begun := timedStep calls own interval started (.beginOperation own)
  have startView : start.view own = _ := view_attempted acquires duration
  have startedView :
      started.view own = { start.view own with heartbeat := .beating } :=
    view_startHeartbeat (congrArg CallView.phase startView)
      (congrArg CallView.heartbeat startView)
  have beats : started.worker.heartbeat own = .beating :=
    congrArg CallView.heartbeat startedView
  have begunView :
      begun.view own = { started.view own with phase := .executing } := by
    refine view_beginOperation ?_ ?_
    · exact (congrArg CallView.phase startedView).trans
        (congrArg CallView.phase startView)
    · rw [beats]
      decide
  rw [startedView, startView] at begunView
  have punctual : Punctual own begun (.wait later) := by
    refine Or.inr ⟨congrArg CallView.phase begunView, unfinished, ?_⟩
    intro _
    exact undue.trans_eq (congrArg CallView.nextBeat begunView).symm
  have waitedView :
      (timedStep calls own interval begun (.wait later)).view own = _ :=
    view_wait punctual
  rw [begunView] at waitedView
  rw [timedRun, List.foldl_cons, List.foldl_cons, List.foldl_cons,
    List.foldl_nil, waitedView]
  simp [max_eq_right future]

/--
When the clock reaches the end of the lifetime before the heartbeat beats and
while the operation executes, the lease is gone.
-/
theorem not_heldThroughout
    (distinct : Function.Injective fun index => (calls index).lease.token)
    {state : WorkerState Index ℚ} (acquires : Acquires calls own state)
    {duration : ℚ}
    (lateBeat : (callLease calls own).ttlSeconds ≤ interval)
    (lateEnd : (callLease calls own).ttlSeconds ≤ duration) :
    ¬ HeldThroughout calls own interval duration state := by
  intro held
  have view :
      (timedRun calls own interval
          (attempted calls own interval duration state)
          [.startHeartbeat own, .beginOperation own,
            .wait (expiry (callLease calls own) state.lease.now)]).view
        own = _ :=
    view_executing_until acquires (lt_expiry _ _).le
      (add_le_add_right lateBeat _) (add_le_add_right lateEnd _)
  have executing := congrArg CallView.phase view
  have now := congrArg CallView.now view
  have touched := congrArg CallView.touched view
  have start :
      Owned (callLease calls)
        (attempted calls own interval duration state).worker.lease :=
    attempted_owned distinct acquires duration
  have owns :=
    held
      [.startHeartbeat own, .beginOperation own,
        .wait (expiry (callLease calls own) state.lease.now)]
      (CallPhase.holding_of_executing executing)
  rcases (timedRun_owned distinct start _).current own owns with
    ⟨time, isTouched, live⟩
  obtain rfl : state.lease.now = time :=
    Option.some.inj (touched.symm.trans isTouched)
  exact lt_irrefl _ (now.symm.trans_lt live)

/--
The lease of a call is held from its acquisition to its release just if its
heartbeat or its operation is shorter than the lifetime.
-/
theorem heldThroughout_iff
    (distinct : Function.Injective fun index => (calls index).lease.token)
    {state : WorkerState Index ℚ} (acquires : Acquires calls own state)
    (positive : 0 < interval) {duration : ℚ} (nonneg : 0 ≤ duration) :
    HeldThroughout calls own interval duration state ↔
      interval < (callLease calls own).ttlSeconds ∨
        duration < (callLease calls own).ttlSeconds := by
  constructor
  · intro held
    by_contra late
    push Not at late
    exact not_heldThroughout distinct acquires late.1 late.2 held
  · rintro (shorter | shorter)
    · exact
        heldThroughout_of_interval_lt distinct acquires positive duration
          shorter
    · exact
        heldThroughout_of_duration_lt distinct acquires nonneg shorter

/--
With the default interval the lease of a call is held from its acquisition to
its release just if its lifetime is at least two seconds or its operation is
shorter than a second.
-/
theorem heldThroughout_default_iff
    (distinct : Function.Injective fun index => (calls index).lease.token)
    {state : WorkerState Index ℚ} (acquires : Acquires calls own state)
    {duration : ℚ} (nonneg : 0 ≤ duration) :
    HeldThroughout calls own
        (defaultRenewInterval (callLease calls own).ttlSeconds) duration
        state ↔
      2 ≤ (callLease calls own).ttlSeconds ∨ duration < 1 := by
  have positive := (callLease calls own).ttlSeconds_pos
  have interval :=
    zero_lt_one.trans_le
      (one_le_defaultRenewInterval (callLease calls own).ttlSeconds)
  rw [heldThroughout_iff distinct acquires interval nonneg,
    defaultRenewInterval_lt_iff positive]
  by_cases long : 2 ≤ (callLease calls own).ttlSeconds
  · exact iff_of_true (Or.inl long) (Or.inl long)
  · have second : (callLease calls own).ttlSeconds = 1 := by omega
    rw [or_iff_right long, or_iff_right long, second, Int.cast_one]

/-- Two calls for one source before they start, at time zero. -/
def rivalQuietStart : WorkerState Bool ℚ :=
  ⟨.empty 0, fun _ => .idle, fun _ => .notStarted⟩

theorem rivalQuietStart_acquires :
    Acquires rivalCalls false rivalQuietStart where
  owned := (fresh_empty _ _).owned
  idle := rfl
  notStarted := rfl
  succeeds := rfl

/--
A lease of 90 seconds is held through an operation of 200, whatever the second
call does meanwhile.
-/
theorem heldThroughout_two_lifetimes :
    HeldThroughout rivalCalls false (defaultRenewInterval 90) 200
      rivalQuietStart :=
  (heldThroughout_default_iff rivals_token_injective rivalQuietStart_acquires
    (by norm_num)).mpr (Or.inl (by decide))

/-- A lease of one second and a call which takes it. -/
def briefCalls (_ : Unit) : SourceCall where
  sourceId := "demo"
  lease := ⟨sourceLockKey "demo", 1, "first", by decide⟩
  lease_key := rfl

/-- The call before it starts, at time zero. -/
def briefStart : WorkerState Unit ℚ :=
  ⟨.empty 0, fun _ => .idle, fun _ => .notStarted⟩

theorem briefStart_acquires : Acquires briefCalls () briefStart where
  owned := (fresh_empty _ _).owned
  idle := rfl
  notStarted := rfl
  succeeds := rfl

/--
The heartbeat of a lease of one second beats after a second, when the lease
has expired.
-/
theorem not_heldThroughout_second :
    ¬ HeldThroughout briefCalls () (defaultRenewInterval 1) 1 briefStart := by
  refine not_heldThroughout (fun _ _ _ => rfl) briefStart_acquires ?_ ?_
  · exact one_le_defaultRenewInterval 1
  · exact le_rfl

end MultisiteCrawler.Tasks
