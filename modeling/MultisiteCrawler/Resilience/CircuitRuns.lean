import MultisiteCrawler.Foundation.KeyedRuns
import MultisiteCrawler.Resilience.CircuitAgreement

/-!
# The state machine of the circuit breaker in memory

Calls about any sources, one after another.  The circuit of a source is open
when a time is stored in `opened_at`.  Outcomes may be recorded at any time,
also for requests which were allowed before the circuit opened, and no order
of the times is needed.
-/

namespace MultisiteCrawler.Resilience

open Foundation.KeyedRuns

variable {Time : Type} [CommRing Time] [LinearOrder Time]

/-! ## Runs -/

/-- The accepted constructor arguments of the breaker in memory. -/
structure CircuitSettings (Time : Type) [Zero Time] [LT Time] where
  failureThreshold : ℕ
  recoverySeconds : Time
  failureThreshold_pos : 1 ≤ failureThreshold
  recoverySeconds_pos : 0 < recoverySeconds

/-- A breaker without states. -/
def CircuitSettings.breaker (settings : CircuitSettings Time) :
    CircuitBreaker Time :=
  ⟨settings.failureThreshold, settings.recoverySeconds, fun _ => none⟩

/-- What `allow_request` answers; the other calls return nothing. -/
def memoryReply (breaker : CircuitBreaker Time) :
    CircuitCall Time → Option Bool
  | .allowRequest sourceId now => some (breaker.allowRequest sourceId now).1
  | .recordFailure _ _ => none
  | .recordSuccess _ _ => none

/-- A call neither looks at the states of other sources nor changes them. -/
theorem memoryStep_congr
    {breaker same : CircuitBreaker Time} {call : CircuitCall Time}
    (threshold : breaker.failureThreshold = same.failureThreshold)
    (recovery : breaker.recoverySeconds = same.recoverySeconds)
    (state : breaker.state call.sourceId = same.state call.sourceId) :
    memoryReply breaker call = memoryReply same call ∧
      (memoryStep breaker call).state call.sourceId =
        (memoryStep same call).state call.sourceId := by
  cases call with
  | allowRequest sourceId now =>
      simp only [CircuitCall.sourceId] at state
      simp only [memoryReply, memoryStep, CircuitBreaker.allowRequest,
        CircuitCall.sourceId, state, recovery]
      cases (same.state sourceId).openedAt with
      | none => simp
      | some openedAt => dsimp only; split_ifs <;> simp
  | recordFailure sourceId now =>
      simp only [CircuitCall.sourceId] at state
      simp [memoryReply, memoryStep, CircuitBreaker.recordFailure,
        CircuitCall.sourceId, state, threshold]
  | recordSuccess sourceId now =>
      simp [memoryReply, memoryStep, CircuitBreaker.recordSuccess,
        CircuitCall.sourceId]

theorem memoryStep_settings
    (breaker : CircuitBreaker Time) (call : CircuitCall Time) :
    (memoryStep breaker call).failureThreshold =
        breaker.failureThreshold ∧
      (memoryStep breaker call).recoverySeconds =
        breaker.recoverySeconds := by
  cases call with
  | allowRequest sourceId now =>
      rw [memoryStep, CircuitBreaker.allowRequest]
      split
      · exact ⟨rfl, rfl⟩
      · split_ifs <;> exact ⟨rfl, rfl⟩
  | recordFailure sourceId now => exact ⟨rfl, rfl⟩
  | recordSuccess sourceId now => exact ⟨rfl, rfl⟩

/-- The breaker as a machine with a state for every source. -/
def circuitMachine :
    KeyedMachine (CircuitBreaker Time) String (CircuitCall Time)
      (Option Bool) (ℕ × Time × CircuitState Time) where
  key := CircuitCall.sourceId
  step breaker call := (memoryStep breaker call, memoryReply breaker call)
  look breaker sourceId :=
    (breaker.failureThreshold, breaker.recoverySeconds,
      breaker.state sourceId)
  look_step_of_ne breaker call other different := by
    rw [(memoryStep_settings breaker call).1,
      (memoryStep_settings breaker call).2, memoryStep_of_ne different]
  step_congr breaker same call looks := by
    rw [Prod.mk.injEq, Prod.mk.injEq] at looks
    rcases looks with ⟨threshold, recovery, state⟩
    rcases memoryStep_congr threshold recovery state with
      ⟨sameReply, sameState⟩
    refine ⟨sameReply, ?_⟩
    rw [(memoryStep_settings breaker call).1,
      (memoryStep_settings breaker call).2, (memoryStep_settings same call).1,
      (memoryStep_settings same call).2, threshold, recovery, sameState]

/-- The breaker after a sequence of calls. -/
def breakerAfter (settings : CircuitSettings Time)
    (calls : List (CircuitCall Time)) : CircuitBreaker Time :=
  circuitMachine.after settings.breaker calls

/-- The circuit of a source is open. -/
def CircuitBreaker.isOpen (breaker : CircuitBreaker Time)
    (sourceId : String) : Bool :=
  (breaker.state sourceId).openedAt.isSome

/-- A call records an outcome of a source. -/
def CircuitCall.isOutcomeOf {Time : Type} (sourceId : String) :
    CircuitCall Time → Bool
  | .allowRequest _ _ => false
  | .recordFailure source _ => decide (source = sourceId)
  | .recordSuccess source _ => decide (source = sourceId)

/-- How many requests of a source are allowed. -/
def allowedRequests (sourceId : String) (breaker : CircuitBreaker Time)
    (calls : List (CircuitCall Time)) : ℕ :=
  (circuitMachine.answersAt sourceId breaker calls).count (some true)

/-! ## The failures which are counted -/

/-- What the state of a source tells of its failures. -/
structure Describes (settings : CircuitSettings Time)
    (history : FailureHistory Time) (state : CircuitState Time) : Prop where
  failures : state.failures = history.failures.length
  openedAt : state.openedAt =
    if settings.failureThreshold ≤ history.failures.length then
      history.failures.head?
    else none

variable (settings : CircuitSettings Time)

theorem breakerAfter_concat
    (calls : List (CircuitCall Time)) (call : CircuitCall Time) :
    breakerAfter settings (calls ++ [call]) =
      memoryStep (breakerAfter settings calls) call :=
  circuitMachine.after_concat _ calls call

theorem breakerAfter_settings (calls : List (CircuitCall Time)) :
    (breakerAfter settings calls).failureThreshold =
        settings.failureThreshold ∧
      (breakerAfter settings calls).recoverySeconds =
        settings.recoverySeconds := by
  induction calls using List.reverseRecOn with
  | nil => exact ⟨rfl, rfl⟩
  | append_singleton calls call induction =>
      rw [breakerAfter_concat,
        (memoryStep_settings (breakerAfter settings calls) call).1,
        (memoryStep_settings (breakerAfter settings calls) call).2]
      exact induction

/-- A request changes nothing but the flag of the probe. -/
theorem allowRequest_state
    (breaker : CircuitBreaker Time) (sourceId : String) (now : Time) :
    ∃ halfOpen,
      (breaker.allowRequest sourceId now).2.state sourceId =
        { breaker.state sourceId with halfOpen := halfOpen } := by
  rw [CircuitBreaker.allowRequest]
  split
  · exact ⟨_, CircuitBreaker.state_store_self _ _ _⟩
  · split_ifs <;> exact ⟨_, CircuitBreaker.state_store_self _ _ _⟩

variable {settings}

/-- A call about a source keeps its state described. -/
theorem Describes.step
    {breaker : CircuitBreaker Time} {history : FailureHistory Time}
    (threshold : breaker.failureThreshold = settings.failureThreshold)
    (call : CircuitCall Time)
    (describes :
      Describes settings history (breaker.state call.sourceId)) :
    Describes settings (history.after call.sourceId call)
      ((memoryStep breaker call).state call.sourceId) := by
  cases call with
  | allowRequest sourceId now =>
      simp only [CircuitCall.sourceId] at describes ⊢
      rcases allowRequest_state breaker sourceId now with
        ⟨halfOpen, isState⟩
      rw [memoryStep, isState, FailureHistory.after, if_pos rfl]
      exact ⟨describes.failures, describes.openedAt⟩
  | recordFailure sourceId now =>
      simp only [CircuitCall.sourceId] at describes ⊢
      rw [memoryStep, CircuitBreaker.recordFailure,
        CircuitBreaker.state_store_self, FailureHistory.after, if_pos rfl,
        threshold, describes.failures]
      by_cases many :
          settings.failureThreshold ≤ history.failures.length + 1
      · rw [if_pos many]
        exact ⟨rfl, (if_pos many).symm⟩
      · have few :
            ¬ settings.failureThreshold ≤ history.failures.length :=
          fun enough => many (enough.trans (Nat.le_succ _))
        rw [if_neg many]
        refine ⟨rfl, ?_⟩
        rw [describes.openedAt, if_neg few]
        exact (if_neg many).symm
  | recordSuccess sourceId now =>
      simp only [CircuitCall.sourceId]
      rw [memoryStep, CircuitBreaker.recordSuccess,
        CircuitBreaker.state_store_self, FailureHistory.after, if_pos rfl]
      refine ⟨rfl, (if_neg ?_).symm⟩
      exact Nat.not_le.mpr settings.failureThreshold_pos

variable (settings) in
/-- In every run the state of a source tells of its failures. -/
theorem describes_breakerAfter
    (calls : List (CircuitCall Time)) (sourceId : String) :
    Describes settings (historyOf sourceId calls)
      ((breakerAfter settings calls).state sourceId) := by
  induction calls using List.reverseRecOn with
  | nil =>
      refine ⟨rfl, (if_neg ?_).symm⟩
      exact Nat.not_le.mpr settings.failureThreshold_pos
  | append_singleton calls call induction =>
      rw [breakerAfter_concat, historyOf_concat]
      by_cases same : sourceId = call.sourceId
      · subst same
        exact induction.step (breakerAfter_settings settings calls).1 call
      · rw [memoryStep_of_ne same, FailureHistory.after_of_ne same]
        exact induction

/-! ## Probes -/

theorem allowRequest_of_closed
    {breaker : CircuitBreaker Time} {sourceId : String}
    (closed : breaker.isOpen sourceId = false) (now : Time) :
    (breaker.allowRequest sourceId now).1 = true := by
  rw [CircuitBreaker.isOpen, Option.isSome_eq_false_iff,
    Option.isNone_iff_eq_none] at closed
  rw [CircuitBreaker.allowRequest, closed]

theorem allowRequest_of_waiting
    {breaker : CircuitBreaker Time} {sourceId : String} {openedAt now : Time}
    (isOpen : (breaker.state sourceId).openedAt = some openedAt)
    (waiting : now - openedAt < breaker.recoverySeconds) :
    (breaker.allowRequest sourceId now).1 = false := by
  rw [CircuitBreaker.allowRequest, isOpen]
  exact congrArg Prod.fst (if_pos waiting)

/-- A request to an open circuit is refused, or it becomes the probe. -/
theorem allowRequest_of_open
    {breaker : CircuitBreaker Time} {sourceId : String}
    (isOpen : breaker.isOpen sourceId = true) (now : Time) :
    ((breaker.allowRequest sourceId now).1 = false ∧
        (breaker.allowRequest sourceId now).2.state sourceId =
          breaker.state sourceId) ∨
      ((breaker.state sourceId).halfOpen = false ∧
        (breaker.allowRequest sourceId now).2.state sourceId =
          { breaker.state sourceId with halfOpen := true }) := by
  rcases Option.isSome_iff_exists.mp isOpen with ⟨openedAt, isSome⟩
  rw [CircuitBreaker.allowRequest, isSome]
  dsimp only
  split_ifs with waiting probed
  · exact Or.inl ⟨rfl, CircuitBreaker.state_store_self _ _ _⟩
  · exact Or.inl ⟨rfl, CircuitBreaker.state_store_self _ _ _⟩
  · refine Or.inr ⟨eq_false_of_ne_true probed, ?_⟩
    rw [CircuitBreaker.state_store_self, isSome]

theorem allowedRequests_request
    (breaker : CircuitBreaker Time) (sourceId : String) (now : Time)
    (rest : List (CircuitCall Time)) :
    allowedRequests sourceId breaker (.allowRequest sourceId now :: rest) =
      allowedRequests sourceId (breaker.allowRequest sourceId now).2 rest +
        (breaker.allowRequest sourceId now).1.toNat := by
  have answered :
      circuitMachine.answersAt sourceId breaker
          (.allowRequest sourceId now :: rest) =
        some (breaker.allowRequest sourceId now).1 ::
          circuitMachine.answersAt sourceId
            (breaker.allowRequest sourceId now).2 rest :=
    if_pos rfl
  rw [allowedRequests, answered, allowedRequests]
  cases (breaker.allowRequest sourceId now).1 <;> simp

theorem allowedRequests_of_ne
    {sourceId : String} {call : CircuitCall Time}
    (different : call.sourceId ≠ sourceId) (breaker : CircuitBreaker Time)
    (rest : List (CircuitCall Time)) :
    allowedRequests sourceId breaker (call :: rest) =
      allowedRequests sourceId (memoryStep breaker call) rest := by
  rw [allowedRequests, KeyedMachine.answersAt]
  exact congrArg (List.count (some true)) (if_neg different)

/--
Until the next outcome is recorded an open circuit allows one request at most,
and none after the probe.
-/
theorem allowedRequests_le
    {sourceId : String} {later : List (CircuitCall Time)}
    (quiet : ∀ call ∈ later, call.isOutcomeOf sourceId = false)
    {breaker : CircuitBreaker Time}
    (isOpen : breaker.isOpen sourceId = true) :
    allowedRequests sourceId breaker later ≤
      (!(breaker.state sourceId).halfOpen).toNat := by
  induction later generalizing breaker with
  | nil => exact Nat.zero_le _
  | cons call rest induction =>
      have quietRest : ∀ other ∈ rest, other.isOutcomeOf sourceId = false :=
        fun other member => quiet other (List.mem_cons_of_mem _ member)
      have stillOpen
          {later : CircuitBreaker Time}
          (openedAt : (later.state sourceId).openedAt =
            (breaker.state sourceId).openedAt) :
          later.isOpen sourceId = true := by
        rw [CircuitBreaker.isOpen, openedAt]
        exact isOpen
      by_cases isRequest : ∃ now, call = .allowRequest sourceId now
      · rcases isRequest with ⟨now, rfl⟩
        rw [allowedRequests_request]
        rcases allowRequest_of_open isOpen now with
          ⟨refused, isState⟩ | ⟨unprobed, isState⟩
        · rw [refused, ← isState]
          exact induction quietRest (stillOpen (by rw [isState]))
        · have rest := induction quietRest (stillOpen (by rw [isState]))
          rw [isState] at rest
          rw [Nat.le_zero.mp rest, unprobed, zero_add]
          exact Bool.toNat_le _
      · have different : call.sourceId ≠ sourceId := by
          have isQuiet := quiet call List.mem_cons_self
          cases call with
          | allowRequest source now =>
              rintro rfl
              exact isRequest ⟨now, rfl⟩
          | recordFailure source now => exact of_decide_eq_false isQuiet
          | recordSuccess source now => exact of_decide_eq_false isQuiet
        have isState := memoryStep_of_ne (Ne.symm different) breaker
        rw [allowedRequests_of_ne different, ← isState]
        exact induction quietRest (stillOpen (by rw [isState]))

/-! ## The state machine -/

/-- What holds of a source after a sequence of calls. -/
structure ObeysStateMachine (settings : CircuitSettings Time)
    (calls : List (CircuitCall Time)) (sourceId : String) : Prop where
  open_iff : (breakerAfter settings calls).isOpen sourceId = true ↔
    settings.failureThreshold ≤ (historyOf sourceId calls).failures.length
  closed_allows : (breakerAfter settings calls).isOpen sourceId = false →
    ∀ now, ((breakerAfter settings calls).allowRequest sourceId now).1 = true
  open_waits : (breakerAfter settings calls).isOpen sourceId = true →
    ∃ last, (historyOf sourceId calls).failures.head? = some last ∧
      ∀ now, now - last < settings.recoverySeconds →
        ((breakerAfter settings calls).allowRequest sourceId now).1 = false
  one_probe : (breakerAfter settings calls).isOpen sourceId = true →
    ∀ later, (∀ call ∈ later, call.isOutcomeOf sourceId = false) →
      allowedRequests sourceId (breakerAfter settings calls) later ≤ 1
  independent :
    circuitMachine.answersAt sourceId settings.breaker calls =
      circuitMachine.answersAt sourceId settings.breaker
        (calls.filter fun call => decide (call.sourceId = sourceId))

/-- In every run the breaker obeys its state machine for every source. -/
theorem obeysStateMachine
    (settings : CircuitSettings Time) (calls : List (CircuitCall Time))
    (sourceId : String) : ObeysStateMachine settings calls sourceId := by
  have describes := describes_breakerAfter settings calls sourceId
  constructor
  · rw [CircuitBreaker.isOpen, describes.openedAt]
    split_ifs with many
    · refine iff_of_true ?_ many
      rw [List.isSome_head?]
      rw [← List.length_pos_iff]
      exact lt_of_lt_of_le settings.failureThreshold_pos many
    · exact iff_of_false Bool.false_ne_true many
  · exact allowRequest_of_closed
  · intro isOpen
    rcases Option.isSome_iff_exists.mp isOpen with ⟨openedAt, isSome⟩
    refine ⟨openedAt, ?_, ?_⟩
    · have isHead := describes.openedAt
      rw [isSome] at isHead
      split_ifs at isHead
      exact isHead.symm
    · intro now waiting
      apply allowRequest_of_waiting isSome
      rw [(breakerAfter_settings settings calls).2]
      exact waiting
  · intro isOpen later quiet
    exact (allowedRequests_le quiet isOpen).trans (Bool.toNat_le _)
  · exact circuitMachine.answersAt_filter sourceId settings.breaker calls

end MultisiteCrawler.Resilience
