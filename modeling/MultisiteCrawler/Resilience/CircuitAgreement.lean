import MultisiteCrawler.Resilience.CircuitBreaker

/-!
# Agreement of the two circuit breakers

Both breakers depend on a source only through its failures since the last
success and its requests since the last failure.  In memory the failures are
counted however far apart they are, and one request is admitted once the
recovery time has passed.  In Redis every text is gone when the recovery time
has passed: the count starts again after such a gap, and the branch which
would admit a single probe is never reached.

The two answers are computed from the history, and `sameAnswers_iff` says for
which runs they agree.
-/

namespace MultisiteCrawler.Resilience

open Foundation.ExpiringStore
open Foundation.Interaction
open Foundation.JsonText
open Foundation.PythonErrors

/-! ## Histories -/

/--
What happened to a source: its failures since its last success and its
requests since its last failure, latest first.
-/
structure FailureHistory (Time : Type) where
  failures : List Time := []
  requests : List Time := []
deriving DecidableEq, Repr

/-- The history of a source after a call. -/
def FailureHistory.after {Time : Type} (sourceId : String)
    (history : FailureHistory Time) :
    CircuitCall Time → FailureHistory Time
  | .allowRequest source now =>
      if source = sourceId then
        { history with requests := now :: history.requests }
      else history
  | .recordFailure source now =>
      if source = sourceId then ⟨now :: history.failures, []⟩ else history
  | .recordSuccess source _ => if source = sourceId then {} else history

/-- The history of a source over a run. -/
def historyOf {Time : Type} (sourceId : String)
    (calls : List (CircuitCall Time)) : FailureHistory Time :=
  calls.foldl (FailureHistory.after sourceId) {}

theorem historyOf_concat {Time : Type}
    (sourceId : String) (calls : List (CircuitCall Time))
    (call : CircuitCall Time) :
    historyOf sourceId (calls ++ [call]) =
      (historyOf sourceId calls).after sourceId call := by
  simp [historyOf]

theorem FailureHistory.after_of_ne {Time : Type}
    {sourceId : String} {call : CircuitCall Time}
    (different : sourceId ≠ call.sourceId)
    (history : FailureHistory Time) :
    history.after sourceId call = history := by
  cases call <;> exact if_neg (Ne.symm different)

/-! ## Stored documents -/

section Documents

variable {Time : Type} (policy : CircuitPolicy) (codec : TimeCodec Time)

/-- The members of the document stored at a failure. -/
def failureMembers (count : ℕ) (last : Time) : List (String × Json) :=
  if policy.threshold ≤ count then
    [("failures", .int count), ("opened", codec.number last)]
  else [("failures", .int count)]

theorem loads_failureText (count : ℕ) (last : Time) :
    loads (RedisCircuitBreaker.failureText codec policy count last) =
      some (.obj (failureMembers policy codec count last)) := by
  have text :
      RedisCircuitBreaker.failureText codec policy count last =
        dumps {} (.obj (failureMembers policy codec count last)) := by
    unfold RedisCircuitBreaker.failureText failureMembers
    simp only [Nat.cast_le]
  rw [text]
  refine loads_dumps _ _ ?_
  unfold failureMembers
  split_ifs
  · refine ⟨by simp, trivial, ?_, trivial⟩
    rcases codec.isNumber last with ⟨value, equal⟩ | ⟨literal, equal⟩ <;>
    · rw [equal]
      trivial
  · exact ⟨by simp, trivial, trivial⟩

theorem loads_empty : loads "\x7b\x7d" = some (.obj []) :=
  loads_dumps {} (.obj []) ⟨List.nodup_nil, trivial⟩

/-- A text which can be read is not taken for a missing one. -/
theorem orEmpty_of_loads
    {text : String} {value : Json} (loaded : loads text = some value) :
    orEmpty (some text) = text := by
  have notEmpty : text.isEmpty = false := by
    by_contra isEmpty
    rw [Bool.not_eq_false, String.isEmpty_iff] at isEmpty
    subst isEmpty
    cases loaded
  simp only [orEmpty, notEmpty, Bool.false_eq_true, if_false]

end Documents

variable {Time : Type} [CommRing Time] [LinearOrder Time]

/--
How many of the latest failures follow each other within the recovery time.
-/
def closeFailures (recovery : Time) : List Time → ℕ
  | [] => 0
  | [_] => 1
  | later :: earlier :: rest =>
      if later - earlier < recovery then
        closeFailures recovery (earlier :: rest) + 1
      else 1

theorem closeFailures_le_length (recovery : Time) (failures : List Time) :
    closeFailures recovery failures ≤ failures.length := by
  induction failures using closeFailures.induct recovery with
  | case1 => rfl
  | case2 failure => rfl
  | case3 later earlier rest close induction =>
      rw [closeFailures, if_pos close]
      exact Nat.succ_le_succ induction
  | case4 later earlier rest apart =>
      rw [closeFailures, if_neg apart]
      exact Nat.succ_le_succ (Nat.zero_le _)

variable (policy : CircuitPolicy)

/-! ## The breaker in memory -/

/-- A request was made after the recovery time. -/
def probed (history : FailureHistory Time) : Bool :=
  match history.failures with
  | [] => false
  | last :: _ =>
      decide (policy.threshold ≤ history.failures.length) &&
        history.requests.any fun request =>
          decide (policy.recoverySeconds ≤ request - last)

/-- The state the breaker in memory keeps for a history. -/
def memoryState (history : FailureHistory Time) : CircuitState Time where
  failures := history.failures.length
  openedAt :=
    if policy.threshold ≤ history.failures.length then
      history.failures.head?
    else none
  halfOpen := probed policy history

/-- What the breaker in memory answers for a history. -/
def memoryAnswer (history : FailureHistory Time) (now : Time) : Bool :=
  match history.failures with
  | [] => true
  | last :: _ =>
      decide (history.failures.length < policy.threshold) ||
        (decide (policy.recoverySeconds ≤ now - last) &&
          !probed policy history)

theorem memoryAfter_policy (calls : List (CircuitCall Time)) :
    (memoryAfter policy calls).failureThreshold = policy.threshold ∧
      (memoryAfter policy calls).recoverySeconds =
        policy.recoverySeconds := by
  induction calls using List.reverseRecOn with
  | nil => exact ⟨rfl, rfl⟩
  | append_singleton calls call induction =>
      rw [memoryAfter_concat]
      cases call with
      | allowRequest sourceId now =>
          rw [memoryStep, CircuitBreaker.allowRequest]
          split
          · exact induction
          · split_ifs <;> exact induction
      | recordFailure sourceId now => exact induction
      | recordSuccess sourceId now => exact induction

theorem memoryState_of_few
    {failures : List Time} (few : failures.length < policy.threshold)
    (requests : List Time) :
    memoryState policy ⟨failures, requests⟩ =
      ⟨failures.length, none, false⟩ := by
  have closed : ¬ policy.threshold ≤ failures.length := not_le.mpr few
  simp only [memoryState, probed, if_neg closed]
  cases failures with
  | nil => rfl
  | cons last earlier =>
      simp only [decide_eq_false closed, Bool.false_and]

theorem memoryState_of_many
    {last : Time} {earlier : List Time}
    (many : policy.threshold ≤ (last :: earlier).length)
    (requests : List Time) :
    memoryState policy ⟨last :: earlier, requests⟩ =
      ⟨(last :: earlier).length, some last,
        requests.any fun request =>
          decide (policy.recoverySeconds ≤ request - last)⟩ := by
  simp only [memoryState, probed, if_pos many, decide_eq_true many,
    Bool.true_and, List.head?_cons]

/-- What `allow_request` does in a state described by a history. -/
theorem allowRequest_of_memoryState
    {breaker : CircuitBreaker Time} {sourceId : String}
    {history : FailureHistory Time}
    (recovery : breaker.recoverySeconds = policy.recoverySeconds)
    (described : breaker.state sourceId = memoryState policy history)
    (now : Time) :
    breaker.allowRequest sourceId now =
      (memoryAnswer policy history now,
        breaker.store sourceId
          (memoryState policy
            { history with requests := now :: history.requests })) := by
  rcases history with ⟨failures, requests⟩
  rcases Nat.lt_or_ge failures.length policy.threshold with few | many
  · have answer : memoryAnswer policy ⟨failures, requests⟩ now = true := by
      cases failures with
      | nil => rfl
      | cons last earlier =>
          simp only [memoryAnswer, decide_eq_true few, Bool.true_or]
    rw [memoryState_of_few policy few] at described
    simp only [CircuitBreaker.allowRequest, described, answer,
      memoryState_of_few policy few]
  · cases failures with
    | nil => exact absurd many (not_le.mpr policy.threshold_pos)
    | cons last earlier =>
        have count :
            decide ((last :: earlier).length < policy.threshold) = false :=
          decide_eq_false (not_lt.mpr many)
        rw [memoryState_of_many policy many] at described
        simp only [CircuitBreaker.allowRequest, described, recovery,
          memoryState_of_many policy many, memoryAnswer, probed, count,
          decide_eq_true many, Bool.true_and, Bool.false_or,
          List.any_cons]
        by_cases cooling : now - last < policy.recoverySeconds
        · simp [cooling, not_le.mpr cooling]
        · cases asked :
            requests.any fun request =>
              decide (policy.recoverySeconds ≤ request - last) <;>
            simp [cooling, not_lt.mp cooling]

/-- A call leaves the states of other sources alone. -/
theorem memoryStep_of_ne
    {sourceId : String} {call : CircuitCall Time}
    (different : sourceId ≠ call.sourceId)
    (breaker : CircuitBreaker Time) :
    (memoryStep breaker call).state sourceId = breaker.state sourceId := by
  cases call with
  | allowRequest source now =>
      rw [memoryStep, CircuitBreaker.allowRequest]
      split
      · exact CircuitBreaker.state_store_of_ne different _ _
      · split_ifs <;>
          exact CircuitBreaker.state_store_of_ne different _ _
  | recordFailure source now =>
      exact CircuitBreaker.state_store_of_ne different _ _
  | recordSuccess source now =>
      exact CircuitBreaker.state_store_of_ne different _ _

/-- What `record_failure` does in a state described by a history. -/
theorem recordFailure_of_memoryState
    {breaker : CircuitBreaker Time} {sourceId : String}
    {history : FailureHistory Time}
    (threshold : breaker.failureThreshold = policy.threshold)
    (described : breaker.state sourceId = memoryState policy history)
    (now : Time) :
    breaker.recordFailure sourceId now =
      breaker.store sourceId
        (memoryState policy ⟨now :: history.failures, []⟩) := by
  rcases history with ⟨failures, requests⟩
  rw [CircuitBreaker.recordFailure, described, threshold]
  congr 1
  rcases Nat.lt_or_ge (now :: failures).length policy.threshold with
    few | many
  · have before : failures.length < policy.threshold :=
      lt_of_le_of_lt (Nat.le_succ _) few
    rw [memoryState_of_few policy few, memoryState_of_few policy before]
    exact if_neg (not_le.mpr few)
  · rw [memoryState_of_many policy many]
    exact if_pos many

/-- The breaker in memory keeps the state its history describes. -/
theorem memoryAfter_state
    (calls : List (CircuitCall Time)) (sourceId : String) :
    (memoryAfter policy calls).state sourceId =
      memoryState policy (historyOf sourceId calls) := by
  have empty : ([] : List Time).length < policy.threshold :=
    policy.threshold_pos
  have fresh : memoryState policy ({} : FailureHistory Time) = {} :=
    memoryState_of_few policy empty []
  induction calls using List.reverseRecOn with
  | nil => exact fresh.symm
  | append_singleton calls call induction =>
      rw [memoryAfter_concat, historyOf_concat]
      by_cases same : sourceId = call.sourceId
      · subst same
        rcases memoryAfter_policy policy calls with ⟨threshold, recovery⟩
        cases call with
        | allowRequest source now =>
            have answered :=
              allowRequest_of_memoryState policy recovery induction now
            simp only [CircuitCall.sourceId] at answered ⊢
            rw [memoryStep, answered, CircuitBreaker.state_store_self,
              FailureHistory.after, if_pos rfl]
        | recordFailure source now =>
            have recorded :=
              recordFailure_of_memoryState policy threshold induction now
            simp only [CircuitCall.sourceId] at recorded ⊢
            rw [memoryStep, recorded, CircuitBreaker.state_store_self,
              FailureHistory.after, if_pos rfl]
        | recordSuccess source now =>
            simp only [CircuitCall.sourceId]
            rw [memoryStep, CircuitBreaker.recordSuccess,
              CircuitBreaker.state_store_self, FailureHistory.after,
              if_pos rfl]
            exact fresh.symm
      · rw [memoryStep_of_ne same, FailureHistory.after_of_ne same]
        exact induction

/-! ## The breaker in Redis -/

variable (codec : TimeCodec Time)

/-- What the Redis breaker answers for a history. -/
def redisAnswer (history : FailureHistory Time) (now : Time) : Bool :=
  match history.failures with
  | [] => true
  | last :: _ =>
      !(decide (now - last < policy.recoverySeconds) &&
        decide
          (policy.threshold ≤
            closeFailures (policy.recoverySeconds : Time) history.failures))

/-- The entry the Redis breaker keeps for a history. -/
def Represents (history : FailureHistory Time)
    (entry : Option (Entry String Time)) : Prop :=
  match history.failures with
  | [] => entry = none ∨ ∃ deadline, entry = some ⟨"\x7b\x7d", deadline⟩
  | last :: _ =>
      entry =
        some
          ⟨RedisCircuitBreaker.failureText codec policy
              (closeFailures (policy.recoverySeconds : Time)
                history.failures)
              last,
            some (last + policy.recoverySeconds)⟩

/-- The members the Redis breaker finds for a history. -/
def foundMembers (history : FailureHistory Time) (now : Time) :
    List (String × Json) :=
  match history.failures with
  | [] => []
  | last :: _ =>
      if now < last + policy.recoverySeconds then
        failureMembers policy codec
          (closeFailures (policy.recoverySeconds : Time) history.failures)
          last
      else []

/-- The breaker finds the document its history describes. -/
theorem loads_of_represents
    {history : FailureHistory Time} {store : Store String String Time}
    {sourceId : String}
    (represents :
      Represents policy codec history (store (circuitKey sourceId)))
    (now : Time) :
    loads (orEmpty (read now (circuitKey sourceId) store)) =
      some (.obj (foundMembers policy codec history now)) := by
  rcases history with ⟨failures, requests⟩
  cases failures with
  | nil =>
      rcases represents with absent | ⟨deadline, present⟩
      · rw [read_eq_none absent]
        exact loads_empty
      · rw [read_eq_ite present]
        split_ifs
        · rw [orEmpty_of_loads loads_empty]
          exact loads_empty
        · exact loads_empty
  | cons last earlier =>
      have loaded :=
        loads_failureText policy codec
          (closeFailures (policy.recoverySeconds : Time)
            (last :: earlier)) last
      rw [read_eq_ite represents]
      simp only [Entry.live_deadline_iff, foundMembers]
      split_ifs
      · rw [orEmpty_of_loads loaded]
        exact loaded
      · exact loads_empty

theorem run_loadState
    {Result : Type} {store : Store String String Time} {sourceId : String}
    {now : Time} {members : List (String × Json)}
    (loaded :
      loads (orEmpty (read now (circuitKey sourceId) store)) =
        some (.obj members))
    (continuation : List (String × Json) → CircuitProgram Result) :
    (loadState sourceId >>= continuation).run (expiringHandler now) store =
      (continuation members).run (expiringHandler now) store := by
  simp only [loadState, StoreProgram.bind_get, Program.bind_perform,
    Program.run_perform, expiringHandler_get, loaded, Program.pure_eq,
    Program.bind_done]

variable [IsStrictOrderedRing Time]

/--
What `allow_request` does in a store described by a history.  It never writes:
by the time the circuit could be probed the text is gone.
-/
theorem run_allowRequest_of_represents
    {history : FailureHistory Time} {store : Store String String Time}
    {sourceId : String}
    (represents :
      Represents policy codec history (store (circuitKey sourceId)))
    (now : Time) :
    (RedisCircuitBreaker.allowRequest codec policy sourceId now).run
        (expiringHandler now) store =
      (.ok (redisAnswer policy history now), store) := by
  rw [RedisCircuitBreaker.allowRequest,
    run_loadState (loads_of_represents policy codec represents now)]
  rcases history with ⟨failures, requests⟩
  cases failures with
  | nil => rfl
  | cons last earlier =>
      simp only [foundMembers, redisAnswer, failureMembers]
      by_cases live : now < last + policy.recoverySeconds
      · have cooling : now - last < policy.recoverySeconds :=
          sub_lt_iff_lt_add'.mpr live
        by_cases many :
          policy.threshold ≤
            closeFailures (policy.recoverySeconds : Time) (last :: earlier)
        · have readBack := codec.float_number last
          rcases codec.isNumber last with
            ⟨value, equal⟩ | ⟨literal, equal⟩ <;>
          · rw [equal] at readBack ⊢
            simp [live, many, getMember, lookup, readBack, cooling]
        · simp [live, many, getMember, lookup]
      · have cooled : ¬ now - last < policy.recoverySeconds :=
          fun cooling => live (sub_lt_iff_lt_add'.mp cooling)
        simp [live, cooled, getMember, lookup]

/-- What `record_failure` does in a store described by a history. -/
theorem run_recordFailure_of_represents
    {history : FailureHistory Time} {store : Store String String Time}
    {sourceId : String}
    (represents :
      Represents policy codec history (store (circuitKey sourceId)))
    (now : Time) :
    (RedisCircuitBreaker.recordFailure codec policy sourceId now).run
        (expiringHandler now) store =
      (.ok (),
        write (circuitKey sourceId)
          (RedisCircuitBreaker.failureText codec policy
            (closeFailures (policy.recoverySeconds : Time)
              (now :: history.failures))
            now)
          (some (now + policy.recoverySeconds)) store) := by
  rw [RedisCircuitBreaker.recordFailure,
    run_loadState (loads_of_represents policy codec represents now)]
  rcases history with ⟨failures, requests⟩
  cases failures with
  | nil =>
      simp [foundMembers, lookup, readCount, StoreProgram.set,
        closeFailures]
  | cons last earlier =>
      have cooling_iff :
          now - last < policy.recoverySeconds ↔
            now < last + policy.recoverySeconds := sub_lt_iff_lt_add'
      simp only [foundMembers, closeFailures, cooling_iff]
      by_cases live : now < last + policy.recoverySeconds
      · simp only [if_pos live]
        generalize closeFailures (policy.recoverySeconds : Time)
          (last :: earlier) = count
        unfold failureMembers
        split_ifs <;> simp [lookup, readCount, StoreProgram.set]
      · simp [live, lookup, readCount, StoreProgram.set]

/-- The Redis breaker keeps the entry its history describes. -/
theorem redisAfter_represents
    (calls : List (CircuitCall Time)) (sourceId : String) :
    Represents policy codec (historyOf sourceId calls)
      (redisAfter codec policy calls (circuitKey sourceId)) := by
  induction calls using List.reverseRecOn generalizing sourceId with
  | nil => exact Or.inl rfl
  | append_singleton calls call induction =>
      rw [redisAfter_concat, historyOf_concat]
      cases call with
      | allowRequest source now =>
          rw [redisStep, run_allowRequest_of_represents policy codec
            (induction source) now]
          by_cases same : source = sourceId
          · rw [FailureHistory.after, if_pos same]
            exact induction sourceId
          · rw [FailureHistory.after, if_neg same]
            exact induction sourceId
      | recordFailure source now =>
          rw [redisStep, run_recordFailure_of_represents policy codec
            (induction source) now]
          by_cases same : source = sourceId
          · subst same
            rw [FailureHistory.after, if_pos rfl]
            exact write_self _ _ _ _
          · have other : circuitKey sourceId ≠ circuitKey source :=
              fun equal => same (circuitKey_injective equal).symm
            simp only [FailureHistory.after, if_neg same,
              write_of_ne other]
            exact induction sourceId
      | recordSuccess source now =>
          rw [redisStep]
          by_cases same : source = sourceId
          · subst same
            rw [FailureHistory.after, if_pos rfl]
            exact Or.inr ⟨_, write_self _ _ _ _⟩
          · rw [FailureHistory.after, if_neg same]
            have other :
                ((RedisCircuitBreaker.recordSuccess source).run
                    (expiringHandler now)
                    (redisAfter codec policy calls)).2
                    (circuitKey sourceId) =
                  redisAfter codec policy calls (circuitKey sourceId) :=
              write_of_ne
                (fun equal => same (circuitKey_injective equal).symm)
                _ _ _
            rw [other]
            exact induction sourceId

/-! ## Agreement -/

/-- Both breakers give the same answer to every request of a run. -/
def SameAnswers (calls : List (CircuitCall Time)) : Prop :=
  ∀ before sourceId now after,
    calls = before ++ .allowRequest sourceId now :: after →
      ((RedisCircuitBreaker.allowRequest codec policy sourceId now).run
          (expiringHandler now) (redisAfter codec policy before)).1 =
        .ok ((memoryAfter policy before).allowRequest sourceId now).1

/--
A request at which expiry makes no difference.  There were fewer failures than
the threshold; or the last failure is recent and enough of the latest failures
followed each other closely; or the recovery time has passed and this is the
first request since then.
-/
def Unaffected (history : FailureHistory Time) (now : Time) : Prop :=
  match history.failures with
  | [] => True
  | last :: _ =>
      history.failures.length < policy.threshold ∨
        (now - last < policy.recoverySeconds ∧
          policy.threshold ≤
            closeFailures (policy.recoverySeconds : Time)
              history.failures) ∨
        (policy.recoverySeconds ≤ now - last ∧
          ∀ request ∈ history.requests,
            request - last < policy.recoverySeconds)

omit [IsStrictOrderedRing Time] in
/-- The two answers to a history agree just for such requests. -/
theorem redisAnswer_eq_memoryAnswer_iff
    (history : FailureHistory Time) (now : Time) :
    redisAnswer policy history now = memoryAnswer policy history now ↔
      Unaffected policy history now := by
  rcases history with ⟨failures, requests⟩
  cases failures with
  | nil => exact iff_of_true rfl trivial
  | cons last earlier =>
      have close :=
        closeFailures_le_length (policy.recoverySeconds : Time)
          (last :: earlier)
      simp only [redisAnswer, memoryAnswer, Unaffected, probed]
      generalize (last :: earlier).length = count at close ⊢
      generalize closeFailures (policy.recoverySeconds : Time)
        (last :: earlier) = closeCount at close ⊢
      rcases Nat.lt_or_ge count policy.threshold with few | many
      · have fewClose : ¬ policy.threshold ≤ closeCount :=
          not_le.mpr (lt_of_le_of_lt close few)
        simp [few, fewClose]
      · have notFew : ¬ count < policy.threshold := not_lt.mpr many
        by_cases cooling : now - last < policy.recoverySeconds
        · simp [notFew, cooling, not_le.mpr cooling]
        · simp [many, notFew, cooling, not_lt.mp cooling]

/--
The two breakers answer alike in a run just when expiry makes no difference to
any of its requests.
-/
theorem sameAnswers_iff (calls : List (CircuitCall Time)) :
    SameAnswers policy codec calls ↔
      ∀ before sourceId now after,
        calls = before ++ .allowRequest sourceId now :: after →
          Unaffected policy (historyOf sourceId before) now := by
  have answers :
      ∀ before sourceId now,
        ((RedisCircuitBreaker.allowRequest codec policy sourceId now).run
            (expiringHandler now) (redisAfter codec policy before)).1 =
          .ok ((memoryAfter policy before).allowRequest sourceId now).1 ↔
        Unaffected policy (historyOf sourceId before) now := by
    intro before sourceId now
    rw [run_allowRequest_of_represents policy codec
        (redisAfter_represents policy codec before sourceId) now,
      allowRequest_of_memoryState policy (memoryAfter_policy policy before).2
        (memoryAfter_state policy before sourceId) now,
      Except.ok.injEq]
    exact redisAnswer_eq_memoryAnswer_iff policy _ now
  constructor
  · intro same before sourceId now after split
    exact (answers before sourceId now).mp
      (same before sourceId now after split)
  · intro unaffected before sourceId now after split
    exact (answers before sourceId now).mpr
      (unaffected before sourceId now after split)

/-- The breakers agree on the first request after the recovery time. -/
theorem sameAnswers_first_request :
    SameAnswers ⟨1, 1, le_rfl, le_rfl⟩ wholeSeconds
      [.recordFailure "demo" 0, .allowRequest "demo" 1] := by
  refine (sameAnswers_iff _ wholeSeconds _).mpr ?_
  intro before sourceId now after split
  rcases before with _ | ⟨first, _ | ⟨second, rest⟩⟩
  · cases split
  · cases split
    exact Or.inr (Or.inr ⟨by decide, by decide⟩)
  · simp at split

/--
The breakers disagree on the second request after the recovery time: in memory
it is refused, in Redis it is admitted.
-/
theorem not_sameAnswers_second_request :
    ¬ SameAnswers ⟨1, 1, le_rfl, le_rfl⟩ wholeSeconds
      [.recordFailure "demo" 0, .allowRequest "demo" 1,
        .allowRequest "demo" 1] := by
  intro same
  have answers :=
    same [.recordFailure "demo" 0, .allowRequest "demo" 1] "demo" 1 [] rfl
  rw [run_allowRequest_of_represents _ wholeSeconds
      (redisAfter_represents _ wholeSeconds _ "demo") 1,
    allowRequest_of_memoryState _ (memoryAfter_policy _ _).2
      (memoryAfter_state _ _ "demo") 1, Except.ok.injEq,
    redisAnswer_eq_memoryAnswer_iff] at answers
  revert answers
  simp [historyOf, FailureHistory.after, Unaffected]

end MultisiteCrawler.Resilience
