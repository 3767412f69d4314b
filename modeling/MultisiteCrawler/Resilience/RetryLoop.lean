import MultisiteCrawler.Foundation.Interaction
import MultisiteCrawler.Foundation.PythonFloats
import MultisiteCrawler.Resilience.RetryPolicy

/-!
# Running an operation with retries

The loop of `run_with_retry` against a stream of outcomes, compared with what
the policy asks for: stop at the first outcome which is not retryable, or at
the last attempt, and sleep after every other one.

The number of a `Retry-After` header is converted to a float before it is
slept.  A number beyond the range of floats raises there, and this is the only
way in which the loop departs from its policy.
-/

namespace MultisiteCrawler.Resilience

open Foundation.Interaction
open Foundation.Interaction.Program (Handler)
open Foundation.PythonErrors
open Foundation.PythonFloats
open Foundation.PythonText

/-! ## The loop -/

/-- An exception, as the handlers of the loop tell it. -/
inductive RetryError where
  | response (failure : ResponseFailure)
  | connection (error : PyError)
  | other (error : PyError)
deriving DecidableEq, Repr

/-- What the loop asks of its surroundings. -/
inductive RetryCommand (Number : Type) where
  | operation
  | sleepSeconds (seconds : Number)
  | randomValue

/-- What they reply, or raise. -/
abbrev RetryCommand.Reply (Value : Type) {Number : Type} :
    RetryCommand Number → Type
  | .operation => Except RetryError Value
  | .sleepSeconds _ => Unit
  | .randomValue => Number

/-- Programs of the loop. -/
abbrev RetryProgram (Value Number : Type) :=
  Program (RetryCommand Number) (RetryCommand.Reply Value) RetryError

/-- The functions of the policy which are taken as given, and floats. -/
structure RetryRules (Number : Type) where
  unicode : UnicodeRules
  floats : FloatArithmetic Number
  /-- `RetryPolicy.retry_after_seconds`. -/
  retryAfterSeconds : Option String → Option ℤ
  /-- `RetryPolicy.delay_seconds`. -/
  delaySeconds : RetryPolicy Number → ℕ → Number → Number

section Loop

variable {Value Number : Type} (rules : RetryRules Number)
variable (policy : RetryPolicy Number)

namespace RetryProgram

/-- `operation()`. -/
def operation : RetryProgram Value Number Value :=
  .perform .operation Program.ofOutcome

/-- `sleep_seconds`. -/
def sleepSeconds (seconds : Number) : RetryProgram Value Number Unit :=
  .perform (.sleepSeconds seconds) .done

/-- `random_value()`. -/
def randomValue : RetryProgram Value Number Number :=
  .perform .randomValue .done

end RetryProgram

/-- Sleep for the delay of an attempt. -/
def sleepDelay (attempt : ℕ) : RetryProgram Value Number Unit := do
  let random ← RetryProgram.randomValue
  RetryProgram.sleepSeconds (rules.delaySeconds policy attempt random)

/-- Sleep as the header asks for, or else for the delay of the attempt. -/
def sleepAfter (attempt : ℕ) (retryAfter : Option String) :
    RetryProgram Value Number Unit :=
  match rules.retryAfterSeconds retryAfter with
  | some delay => do
      let seconds ←
        Program.ofOutcome ((rules.floats.float delay).mapError .other)
      RetryProgram.sleepSeconds seconds
  | none => sleepDelay rules policy attempt

/-- The loop from an attempt on, with the number of attempts which are left. -/
def retryFrom : ℕ → ℕ → RetryProgram Value Number Value
  | 0, _ =>
      .fail (.other ⟨.runtimeError, some "retry loop exhausted"⟩)
  | remaining + 1, attempt =>
      RetryProgram.operation.tryCatch fun error =>
        match error with
        | .response failure =>
            if shouldRequestHumanReview rules.unicode failure.body ||
                !shouldRetry (some failure.statusCode) false then
              .fail error
            else if attempt = policy.maxAttempts then .fail error
            else do
              sleepAfter rules policy attempt failure.retryAfter
              retryFrom remaining (attempt + 1)
        | .connection _ =>
            if attempt = policy.maxAttempts then .fail error
            else do
              sleepDelay rules policy attempt
              retryFrom remaining (attempt + 1)
        | .other _ => .fail error

/-- `run_with_retry`. -/
def runWithRetry : RetryProgram Value Number Value :=
  retryFrom rules policy policy.maxAttempts.toNat 1

end Loop

/-! ## Its surroundings -/

/-- The outcomes of the attempts, counted from one, and the random values. -/
structure RetryStream (Value Number : Type) where
  outcomes : ℕ → Except RetryError Value
  randomValues : ℕ → Number

/-- What the loop does, as its surroundings see it. -/
inductive RetryEvent (Number : Type) where
  | called
  | slept (seconds : Number)

/-- What the loop has done so far. -/
structure RetryState (Number : Type) where
  calls : ℕ := 0
  draws : ℕ := 0
  trace : List (RetryEvent Number) := []

section Runs

variable {Value Number : Type} (rules : RetryRules Number)
variable (policy : RetryPolicy Number) (stream : RetryStream Value Number)

/-- The surroundings answer and note what was done. -/
def retryHandler :
    Handler (RetryCommand Number) (RetryCommand.Reply Value)
      (RetryState Number)
  | .operation, state =>
      (stream.outcomes (state.calls + 1),
        { state with
          calls := state.calls + 1
          trace := state.trace ++ [.called] })
  | .sleepSeconds seconds, state =>
      ((), { state with trace := state.trace ++ [.slept seconds] })
  | .randomValue, state =>
      (stream.randomValues state.draws, { state with draws := state.draws + 1 })

/-- A call from its beginning: how it ends and what it has done. -/
def retryRun : Except RetryError Value × RetryState Number :=
  (runWithRetry rules policy).run (retryHandler stream) {}

/-! ## The policy -/

/-- An outcome which is retried, if an attempt is left. -/
def retryable : Except RetryError Value → Bool
  | .error (.response failure) =>
      !shouldRequestHumanReview rules.unicode failure.body &&
        [429, 502, 503].contains failure.statusCode
  | .error (.connection _) => true
  | .error (.other _) => false
  | .ok _ => false

/-- An access denial, or a page which asks for human review. -/
def isDenied : Except RetryError Value → Bool
  | .error (.response failure) =>
      shouldRequestHumanReview rules.unicode failure.body ||
        [401, 403].contains failure.statusCode
  | _ => false

/-- The number of the header of an outcome. -/
def headerSeconds : Except RetryError Value → Option ℤ
  | .error (.response failure) =>
      rules.retryAfterSeconds failure.retryAfter
  | _ => none

/--
The first of some attempts whose outcome is not retryable, the last attempt of
all if there is none.
-/
def stopAmong (attempts : List ℕ) : ℕ :=
  (attempts.find? fun attempt =>
    !retryable rules (stream.outcomes attempt)).getD
      policy.maxAttempts.toNat

/-- The attempt at which the policy stops. -/
def stopAttempt : ℕ :=
  stopAmong rules policy stream (List.range' 1 policy.maxAttempts.toNat)

/-- How many random values are used before an attempt. -/
def drawsBefore (attempt : ℕ) : ℕ :=
  (List.range' 1 (attempt - 1)).countP fun earlier =>
    (headerSeconds rules (stream.outcomes earlier)).isNone

/-- How long the policy sleeps after an attempt. -/
def expectedSleep (attempt : ℕ) : Except PyError Number :=
  match headerSeconds rules (stream.outcomes attempt) with
  | some delay => rules.floats.float delay
  | none =>
      .ok
        (rules.delaySeconds policy attempt
          (stream.randomValues (drawsBefore rules stream attempt)))

/-- A retried attempt: one call, and then one sleep. -/
def retriedTrace (attempt : ℕ) : List (Except PyError (RetryEvent Number)) :=
  [.ok .called, (expectedSleep rules policy stream attempt).map .slept]

/-- A call does what its policy asks for. -/
structure MatchesPolicy : Prop where
  calls : (retryRun rules policy stream).2.calls =
    stopAttempt rules policy stream
  result : (retryRun rules policy stream).1 =
    stream.outcomes (stopAttempt rules policy stream)
  trace : (retryRun rules policy stream).2.trace.map .ok =
    (List.range' 1 (stopAttempt rules policy stream - 1)).flatMap
        (retriedTrace rules policy stream) ++
      [.ok .called]
  draws : (retryRun rules policy stream).2.draws =
    drawsBefore rules stream (stopAttempt rules policy stream)
  denied : ∀ attempt, 1 ≤ attempt →
    attempt ≤ (retryRun rules policy stream).2.calls →
      isDenied rules (stream.outcomes attempt) = true →
        attempt = (retryRun rules policy stream).2.calls

/-- The headers of some attempts have numbers in the range of floats. -/
def HeadersInRange (first last : ℕ) : Prop :=
  ∀ attempt, first ≤ attempt → attempt < last →
    ∀ delay, headerSeconds rules (stream.outcomes attempt) = some delay →
      ∃ seconds, rules.floats.float delay = .ok seconds

/-! ## Steps -/

/-- The state after the operation has been called. -/
def RetryState.called (state : RetryState Number) : RetryState Number :=
  { state with
    calls := state.calls + 1
    trace := state.trace ++ [.called] }

/-- The state after a sleep, for which random values may have been used. -/
def RetryState.slept (state : RetryState Number) (draws : ℕ)
    (seconds : Number) : RetryState Number :=
  { state with
    draws := state.draws + draws
    trace := state.trace ++ [.slept seconds] }

/-- The state after the sleep for an attempt with this header. -/
def sleepOf (state : RetryState Number) (attempt : ℕ)
    (header : Option ℤ) : Except PyError (RetryState Number) :=
  match header with
  | some delay => (rules.floats.float delay).map (state.slept 0)
  | none =>
      .ok
        (state.slept 1
          (rules.delaySeconds policy attempt
            (stream.randomValues state.draws)))

section Steps

variable {rules policy stream}

theorem retryable_response (failure : ResponseFailure) :
    (shouldRequestHumanReview rules.unicode failure.body ||
        !shouldRetry (some failure.statusCode) false) =
      !retryable rules
        (.error (.response failure) : Except RetryError Value) := by
  have retried :
      shouldRetry (some failure.statusCode) false =
        [429, 502, 503].contains failure.statusCode := by
    rw [Bool.eq_iff_iff]
    simp only [shouldRetry, Option.some.injEq, Bool.or_false,
      List.contains_eq_mem, List.mem_cons, List.not_mem_nil, or_false,
      decide_eq_true_eq]
    split_ifs with denied
    · refine iff_of_false id ?_
      rcases denied with same | same <;> rw [same] <;> decide
    · exact decide_eq_true_iff
  rw [retryable, retried, Bool.not_and, Bool.not_not]

/-- A denied outcome is not retried. -/
theorem not_retryable_of_denied
    {outcome : Except RetryError Value}
    (denied : isDenied rules outcome = true) :
    retryable rules outcome = false := by
  cases outcome with
  | ok value => rfl
  | error error =>
      cases error with
      | connection error => cases denied
      | other error => rfl
      | response failure =>
          rw [isDenied, Bool.or_eq_true] at denied
          rw [retryable]
          rcases denied with review | status
          · rw [review]
            rfl
          · rw [Bool.and_eq_false_iff]
            refine Or.inr ?_
            simp only [List.contains_eq_mem, List.mem_cons, List.not_mem_nil,
              or_false, decide_eq_true_eq, decide_eq_false_iff_not]
              at status ⊢
            rcases status with same | same <;> rw [same] <;> decide

theorem run_operation (state : RetryState Number) :
    (RetryProgram.operation : RetryProgram Value Number Value).run
        (retryHandler stream) state =
      (stream.outcomes (state.calls + 1), state.called) :=
  Program.run_ofOutcome _ _ _

theorem run_sleepDelay (attempt : ℕ) (state : RetryState Number) :
    (sleepDelay rules policy attempt : RetryProgram Value Number Unit).run
        (retryHandler stream) state =
      (.ok (),
        state.slept 1
          (rules.delaySeconds policy attempt
            (stream.randomValues state.draws))) := rfl

theorem run_sleepAfter
    (attempt : ℕ) (retryAfter : Option String) (state : RetryState Number) :
    (sleepAfter rules policy attempt retryAfter :
        RetryProgram Value Number Unit).run (retryHandler stream) state =
      match sleepOf rules policy stream state attempt
          (rules.retryAfterSeconds retryAfter) with
      | .ok after => (.ok (), after)
      | .error error => (.error (.other error), state) := by
  unfold sleepAfter sleepOf
  cases rules.retryAfterSeconds retryAfter with
  | none => rfl
  | some delay =>
      dsimp only
      rw [Program.run_bind, Program.run_ofOutcome]
      cases rules.floats.float delay <;> rfl

/-- One attempt, and what comes after it. -/
theorem run_retryFrom_succ
    {state : RetryState Number} {attempt : ℕ}
    (isAttempt : state.calls + 1 = attempt) (remaining : ℕ) :
    (retryFrom rules policy (remaining + 1) attempt :
        RetryProgram Value Number Value).run (retryHandler stream) state =
      if retryable rules (stream.outcomes attempt) = true ∧
          (attempt : ℤ) ≠ policy.maxAttempts then
        match sleepOf rules policy stream state.called attempt
            (headerSeconds rules (stream.outcomes attempt)) with
        | .ok after =>
            (retryFrom rules policy remaining (attempt + 1)).run
              (retryHandler stream) after
        | .error error => (.error (.other error), state.called)
      else (stream.outcomes attempt, state.called) := by
  rw [retryFrom, Program.run_tryCatch, run_operation, isAttempt]
  cases outcome : stream.outcomes attempt with
  | ok value => rfl
  | error error =>
      dsimp only
      cases error with
      | other error => rfl
      | connection error =>
          dsimp only
          by_cases last : (attempt : ℤ) = policy.maxAttempts
          · rw [if_pos last, if_neg fun both => both.2 last]
            rfl
          · rw [if_neg last, if_pos ⟨rfl, last⟩, Program.run_bind,
              run_sleepDelay]
            rfl
      | response failure =>
          have header :
              headerSeconds rules
                  (.error (.response failure) : Except RetryError Value) =
                rules.retryAfterSeconds failure.retryAfter := rfl
          have refused :
              (shouldRequestHumanReview rules.unicode failure.body ||
                  !shouldRetry (some failure.statusCode) false) =
                !retryable rules
                  (.error (.response failure) : Except RetryError Value) :=
            retryable_response failure
          dsimp only
          rw [refused, header]
          cases retryable rules
              (.error (.response failure) : Except RetryError Value) with
          | false => rfl
          | true =>
              simp only [Bool.not_true, Bool.false_eq_true, if_false,
                true_and]
              by_cases last : (attempt : ℤ) = policy.maxAttempts
              · rw [if_pos last, if_neg (not_not.mpr last)]
                rfl
              · rw [if_neg last, if_pos last, Program.run_bind,
                  run_sleepAfter]
                cases sleepOf rules policy stream state.called attempt
                    (rules.retryAfterSeconds failure.retryAfter) <;> rfl

/-! ## Runs -/

variable (rules policy stream) in
/-- All attempts before this one have been made and retried. -/
structure RetriedBefore
    (attempt : ℕ) (state : RetryState Number) : Prop where
  calls : state.calls + 1 = attempt
  draws : state.draws = drawsBefore rules stream attempt
  trace : state.trace.map .ok =
    (List.range' 1 (attempt - 1)).flatMap
      (retriedTrace rules policy stream)

theorem range_to_succ (attempt : ℕ) (positive : 1 ≤ attempt) :
    List.range' 1 (attempt + 1 - 1) =
      List.range' 1 (attempt - 1) ++ [attempt] := by
  rcases Nat.exists_eq_add_of_le' positive with ⟨earlier, rfl⟩
  rw [Nat.add_sub_cancel, Nat.add_sub_cancel, List.range'_concat]
  congr 2
  omega

theorem drawsBefore_succ {attempt : ℕ} (positive : 1 ≤ attempt) :
    drawsBefore rules stream (attempt + 1) =
      drawsBefore rules stream attempt +
        if (headerSeconds rules (stream.outcomes attempt)).isNone then 1
        else 0 := by
  rw [drawsBefore, range_to_succ attempt positive, List.countP_append,
    List.countP_singleton, drawsBefore]

/-- A retried attempt adds its call, its sleep and its random value. -/
theorem RetriedBefore.next
    {attempt : ℕ} {state after : RetryState Number}
    (before : RetriedBefore rules policy stream attempt state)
    (slept :
      sleepOf rules policy stream state.called attempt
          (headerSeconds rules (stream.outcomes attempt)) = .ok after) :
    RetriedBefore rules policy stream (attempt + 1) after := by
  have positive : 1 ≤ attempt := before.calls ▸ Nat.le_add_left 1 _
  have traced : ∀ seconds draws,
      expectedSleep rules policy stream attempt = .ok seconds →
        (state.called.slept draws seconds).trace.map .ok =
          (List.range' 1 (attempt + 1 - 1)).flatMap
            (retriedTrace rules policy stream) := by
    intro seconds draws expected
    rw [range_to_succ attempt positive, List.flatMap_append,
      ← before.trace, List.flatMap_singleton, retriedTrace, expected]
    simp [RetryState.called, RetryState.slept, Except.map]
  unfold sleepOf at slept
  cases header : headerSeconds rules (stream.outcomes attempt) with
  | some delay =>
      rw [header] at slept
      rcases map_eq_ok_iff.mp slept with ⟨seconds, rounded, rfl⟩
      refine ⟨congrArg (· + 1) before.calls, ?_, traced seconds 0 ?_⟩
      · rw [drawsBefore_succ positive, header, ← before.draws]
        rfl
      · rw [expectedSleep, header]
        exact rounded
  | none =>
      rw [header] at slept
      cases slept
      refine ⟨congrArg (· + 1) before.calls, ?_, traced _ 1 ?_⟩
      · rw [drawsBefore_succ positive, header, ← before.draws]
        rfl
      · rw [expectedSleep, header, ← before.draws]
        rfl

theorem stopAmong_succ (attempt remaining : ℕ) :
    stopAmong rules policy stream (List.range' attempt (remaining + 1)) =
      if retryable rules (stream.outcomes attempt) = true then
        stopAmong rules policy stream (List.range' (attempt + 1) remaining)
      else attempt := by
  rw [stopAmong, List.range'_succ, List.find?_cons]
  cases retryable rules (stream.outcomes attempt) <;> rfl

/-- An attempt from which the loop goes on stays behind its last one. -/
theorem le_stopAmong
    {attempt remaining : ℕ}
    (all : attempt + remaining = policy.maxAttempts.toNat) :
    attempt ≤
      stopAmong rules policy stream
        (List.range' attempt (remaining + 1)) := by
  induction remaining generalizing attempt with
  | zero =>
      rw [stopAmong_succ]
      split_ifs
      · exact all.le
      · exact le_rfl
  | succ remaining induction =>
      rw [stopAmong_succ]
      split_ifs
      · exact le_trans (Nat.le_succ attempt) (induction (by omega))
      · exact le_rfl

/-- Every attempt before the last one is retried. -/
theorem retryable_of_lt_stopAmong
    {attempt remaining earlier : ℕ}
    (all : attempt + remaining = policy.maxAttempts.toNat)
    (first : attempt ≤ earlier)
    (before : earlier <
      stopAmong rules policy stream
        (List.range' attempt (remaining + 1))) :
    retryable rules (stream.outcomes earlier) = true := by
  induction remaining generalizing attempt with
  | zero =>
      rw [stopAmong_succ] at before
      split_ifs at before
      · have last : earlier < policy.maxAttempts.toNat := before
        omega
      · omega
  | succ remaining induction =>
      rw [stopAmong_succ] at before
      split_ifs at before with retried
      · rcases first.eq_or_lt with rfl | later
        · exact retried
        · exact induction (by omega) later before
      · omega

/-- The sleep of one attempt, and the headers of those after it. -/
theorem headersInRange_iff_succ {attempt stop : ℕ} (before : attempt < stop) :
    HeadersInRange rules stream attempt stop ↔
      (∀ delay,
        headerSeconds rules (stream.outcomes attempt) = some delay →
          ∃ seconds, rules.floats.float delay = .ok seconds) ∧
        HeadersInRange rules stream (attempt + 1) stop := by
  constructor
  · intro inRange
    exact ⟨inRange attempt le_rfl before,
      fun later order => inRange later (Nat.le_of_succ_le order)⟩
  · rintro ⟨here, rest⟩ later order
    rcases order.eq_or_lt with rfl | order
    · exact fun _ => here
    · exact rest later order

/-- The sleep succeeds exactly if a number in the header is in range. -/
theorem sleepOf_isOk_iff
    (rules : RetryRules Number) (policy : RetryPolicy Number)
    (stream : RetryStream Value Number)
    (state : RetryState Number) (attempt : ℕ) (header : Option ℤ) :
    (∃ after, sleepOf rules policy stream state attempt header = .ok after) ↔
      ∀ delay, header = some delay →
        ∃ seconds, rules.floats.float delay = .ok seconds := by
  cases header with
  | none => exact iff_of_true ⟨_, rfl⟩ fun _ absent => by cases absent
  | some delay =>
      simp only [sleepOf, map_eq_ok_iff, Option.some.injEq, forall_eq']
      exact ⟨fun ⟨_, seconds, rounded, _⟩ => ⟨seconds, rounded⟩,
        fun ⟨seconds, rounded⟩ => ⟨_, seconds, rounded, rfl⟩⟩

/-- How a run ends whose attempts so far have been retried. -/
theorem run_retryFrom
    {attempt remaining : ℕ} {state : RetryState Number}
    (all : attempt + remaining = policy.maxAttempts.toNat)
    (before : RetriedBefore rules policy stream attempt state)
    {stop : ℕ}
    (stops :
      stopAmong rules policy stream (List.range' attempt (remaining + 1)) =
        stop) :
    let final :=
      (retryFrom rules policy (remaining + 1) attempt :
        RetryProgram Value Number Value).run (retryHandler stream) state
    (HeadersInRange rules stream attempt stop ∧
        ∃ last, RetriedBefore rules policy stream stop last ∧
          final = (stream.outcomes stop, last.called)) ∨
      (¬HeadersInRange rules stream attempt stop ∧
        final.2.calls < stop) := by
  induction remaining generalizing attempt state with
  | zero =>
      have last : (attempt : ℤ) = policy.maxAttempts := by
        have isAttempt := before.calls
        omega
      have isStop : attempt = stop := by
        rw [← stops, stopAmong_succ]
        split_ifs
        · exact all
        · rfl
      subst isStop
      rw [run_retryFrom_succ before.calls, if_neg fun both => both.2 last]
      exact Or.inl ⟨fun later first before => by omega, state, before, rfl⟩
  | succ remaining induction =>
      have notLast : (attempt : ℤ) ≠ policy.maxAttempts := by omega
      rw [stopAmong_succ] at stops
      rw [run_retryFrom_succ before.calls]
      split_ifs at stops with retried
      · rw [if_pos ⟨retried, notLast⟩]
        have earlier : attempt < stop :=
          stops ▸ le_stopAmong (by omega)
        rw [headersInRange_iff_succ earlier,
          ← sleepOf_isOk_iff rules policy stream state.called attempt]
        cases slept :
          sleepOf rules policy stream state.called attempt
            (headerSeconds rules (stream.outcomes attempt)) with
        | ok after =>
            simp only [Except.ok.injEq, exists_eq', true_and]
            exact induction (by omega) (before.next slept) stops
        | error error =>
            refine Or.inr ⟨fun both => ?_, before.calls.trans_lt earlier⟩
            rcases both.1 with ⟨_, isOk⟩
            cases isOk
      · subst stops
        rw [if_neg fun both => retried both.1]
        exact Or.inl ⟨fun later first before => by omega, state, before, rfl⟩

end Steps

variable {rules policy stream}

/-- With an attempt at least, a run ends as its policy asks for or early. -/
theorem retryRun_cases
    (rules : RetryRules Number) (stream : RetryStream Value Number)
    (attempts : 1 ≤ policy.maxAttempts) :
    (HeadersInRange rules stream 1 (stopAttempt rules policy stream) ∧
        ∃ last,
          RetriedBefore rules policy stream
              (stopAttempt rules policy stream) last ∧
            retryRun rules policy stream =
              (stream.outcomes (stopAttempt rules policy stream),
                last.called)) ∨
      (¬HeadersInRange rules stream 1 (stopAttempt rules policy stream) ∧
        (retryRun rules policy stream).2.calls <
          stopAttempt rules policy stream) := by
  obtain ⟨remaining, isTotal⟩ :
      ∃ remaining, policy.maxAttempts.toNat = remaining + 1 :=
    ⟨policy.maxAttempts.toNat - 1, by omega⟩
  have start : RetriedBefore rules policy stream 1 {} := ⟨rfl, rfl, rfl⟩
  have stops :
      stopAmong rules policy stream (List.range' 1 (remaining + 1)) =
        stopAttempt rules policy stream := by
    rw [stopAttempt, isTotal]
  have ends := run_retryFrom (by omega) start stops
  rw [retryRun, runWithRetry, isTotal]
  exact ends

/--
A call does what its policy asks for exactly if no `Retry-After` number of an
attempt which is retried exceeds the range of floats.
-/
theorem matchesPolicy_iff
    (rules : RetryRules Number) (policy : RetryPolicy Number)
    (attempts : 1 ≤ policy.maxAttempts) (stream : RetryStream Value Number) :
    MatchesPolicy rules policy stream ↔
      HeadersInRange rules stream 1 (stopAttempt rules policy stream) := by
  rcases retryRun_cases rules stream attempts with
    ⟨inRange, last, before, ends⟩ | ⟨outOfRange, early⟩
  · refine iff_of_true ?_ inRange
    have calls :
        (retryRun rules policy stream).2.calls =
          stopAttempt rules policy stream := by
      rw [ends]
      exact before.calls
    constructor
    case calls => exact calls
    case result => rw [ends]
    case draws =>
      rw [ends]
      exact before.draws
    case trace =>
      rw [ends, ← before.trace]
      exact List.map_append
    case denied =>
      intro attempt first within isDenied
      rw [calls] at within ⊢
      by_contra differs
      have all :
          1 + (policy.maxAttempts.toNat - 1) = policy.maxAttempts.toNat := by
        omega
      have inside :
          attempt <
            stopAmong rules policy stream
              (List.range' 1 (policy.maxAttempts.toNat - 1 + 1)) := by
        rw [Nat.sub_add_cancel (by omega)]
        exact lt_of_le_of_ne within differs
      have retried := retryable_of_lt_stopAmong all first inside
      rw [not_retryable_of_denied isDenied] at retried
      cases retried
  · refine iff_of_false (fun matched => ?_) outOfRange
    exact early.ne matched.calls

end Runs

/-! ## Examples -/

/-- `RetryPolicy.retry_after_seconds` on headers of ASCII. -/
def asciiRetryAfter (value : Option String) : Option ℤ :=
  value.bind fun header =>
    if fullmatch isAsciiDigit header then
      some
        (header.toList.foldl
          (fun number digit => 10 * number + (digit.toNat - 48)) 0 : ℕ)
    else none

/-- Headers and bodies of ASCII, and exact delays in the range of floats. -/
def demoRules : RetryRules ℚ where
  unicode := asciiRules
  floats := boundedArithmetic
  retryAfterSeconds := asciiRetryAfter
  delaySeconds policy attempt random := policy.delaySeconds attempt random

/-- A full service which asks to wait, and answers the next time. -/
def waitingStream (header : String) : RetryStream ℕ ℚ where
  outcomes attempt :=
    if attempt = 1 then .error (.response ⟨429, some header, ""⟩)
    else .ok 7
  randomValues _ := 1 / 2

theorem waitingStream_later
    (header : String) {attempt : ℕ} (later : attempt ≠ 1) :
    (waitingStream header).outcomes attempt = .ok 7 := if_neg later

/-- Three seconds are slept before the second attempt. -/
theorem matchesPolicy_waitingStream :
    MatchesPolicy demoRules RetryPolicy.demoPolicy (waitingStream "3") := by
  apply (matchesPolicy_iff demoRules RetryPolicy.demoPolicy (by decide)
    (waitingStream "3")).mpr
  intro attempt _ _ delay isDelay
  by_cases first : attempt = 1
  · subst first
    have isThree :
        headerSeconds demoRules ((waitingStream "3").outcomes 1) =
          some 3 := by decide
    rw [isThree] at isDelay
    cases isDelay
    exact ⟨3, (boundedArithmetic_float 3).trans (if_pos (by decide +kernel))⟩
  · rw [waitingStream_later "3" first] at isDelay
    cases isDelay

/-- A header of nines. -/
def ninesHeader (count : ℕ) : String := .ofList (List.replicate count '9')

theorem foldl_nines (count number : ℕ) :
    (List.replicate count '9').foldl
        (fun number digit => 10 * number + (digit.toNat - 48)) number + 1 =
      (number + 1) * 10 ^ count := by
  induction count generalizing number with
  | zero => simp
  | succ count induction =>
      rw [List.replicate_succ, List.foldl_cons, induction, pow_succ',
        ← mul_assoc]
      congr 1
      have nine : '9'.toNat = 57 := rfl
      omega

theorem headerSeconds_nines {count : ℕ} (someDigit : count ≠ 0) :
    headerSeconds demoRules ((waitingStream (ninesHeader count)).outcomes 1) =
      some (10 ^ count - 1) := by
  have digits : (ninesHeader count).toList = List.replicate count '9' :=
    String.toList_ofList
  have number : fullmatch isAsciiDigit (ninesHeader count) = true := by
    have nine : isAsciiDigit '9' = true := rfl
    simp [fullmatch, digits, nine, someDigit]
  have header :
      headerSeconds demoRules
          ((waitingStream (ninesHeader count)).outcomes 1) =
        asciiRetryAfter (some (ninesHeader count)) := rfl
  have value := foldl_nines count 0
  rw [zero_add, one_mul] at value
  rw [header, asciiRetryAfter, Option.bind_some, if_pos number, digits]
  refine congrArg some (eq_sub_of_add_eq ?_)
  exact_mod_cast value

theorem floatLimit_le_nines : floatLimit ≤ 10 ^ 400 - 1 := by
  decide +kernel

/-- A header beyond the range of floats raises before the second attempt. -/
theorem not_matchesPolicy_waitingStream :
    ¬MatchesPolicy demoRules RetryPolicy.demoPolicy
      (waitingStream (ninesHeader 400)) := by
  have retried :
      retryable demoRules ((waitingStream (ninesHeader 400)).outcomes 1) =
        true := by decide
  have stops :
      1 < stopAttempt demoRules RetryPolicy.demoPolicy
        (waitingStream (ninesHeader 400)) := by
    have total : RetryPolicy.demoPolicy.maxAttempts.toNat = 2 + 1 := rfl
    rw [stopAttempt, total, stopAmong_succ, if_pos retried]
    exact le_stopAmong rfl
  have raised :
      boundedArithmetic.float (10 ^ 400 - 1) =
        .error (.library .overflowError) := by
    rw [boundedArithmetic_float, if_neg]
    exact not_lt.mpr (floatLimit_le_nines.trans (le_abs_self _))
  have attempts : 1 ≤ RetryPolicy.demoPolicy.maxAttempts := by decide
  intro matched
  rcases retryRun_cases demoRules (waitingStream (ninesHeader 400))
      attempts with ⟨inRange, _⟩ | ⟨_, early⟩
  · have isDelay := headerSeconds_nines (OfNat.ofNat_ne_zero 400)
    rcases inRange 1 le_rfl stops _ isDelay with ⟨seconds, rounded⟩
    cases raised.symm.trans rounded
  · exact early.ne matched.calls

end MultisiteCrawler.Resilience
