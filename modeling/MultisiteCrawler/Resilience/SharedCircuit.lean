import MultisiteCrawler.Foundation.JsonKeys
import MultisiteCrawler.Foundation.SerialOrder
import MultisiteCrawler.Resilience.CircuitAgreement

/-!
# Circuit states shared by concurrent workers

Workers share one store, in which no text expires, and read and write it in
any order.  Every call reads one text and writes at most one.  As long as each
write finds what its call depends on as the call read it, the calls do what
they do when they are made one after the other; only one probe is admitted
until its outcome is recorded, and every failure is counted.
-/

namespace MultisiteCrawler.Resilience

open Foundation.Interaction
open Foundation.Interaction.Program
open Foundation.JsonText
open Foundation.PythonErrors
open Foundation.SerialOrder

/-! ## What a stored text says -/

/-- `int(json.loads(value or "{}").get("failures", 0))`. -/
def failureCount (stored : Option String) : Except PyError ℤ :=
  match loads (orEmpty stored) with
  | none => .error (.library .valueError)
  | some (.obj members) =>
      match readCount ((lookup "failures" members).getD (.int 0)) with
      | none => .error (.library .valueError)
      | some count => .ok count
  | some _ => .error (.library .attributeError)

/-- The time of opening in a stored text is not `None`. -/
def isOpen (stored : Option String) : Prop :=
  ∃ members, loads (orEmpty stored) = some (.obj members) ∧
    getMember "opened" members ≠ .null

/-- A stored text of an open circuit with a probe under way. -/
def isHalfOpen (stored : Option String) : Prop :=
  ∃ members, loads (orEmpty stored) = some (.obj members) ∧
    getMember "opened" members ≠ .null ∧
    (getMember "half_open" members).truthy = true

/-- A text which has been stored is read as it was written. -/
theorem loads_orEmpty_dumps {value : Json} (unique : value.UniqueKeys) :
    loads (orEmpty (some (dumps {} value))) = some value := by
  have loaded := loads_dumps {} value unique
  rw [orEmpty_of_loads loaded]
  exact loaded

/-- A document to which a probe is added is read as it was written. -/
theorem loads_orEmpty_probing
    {stored : Option String} {members : List (String × Json)}
    (loaded : loads (orEmpty stored) = some (.obj members)) :
    loads
        (orEmpty
          (some
            (dumps {} (.obj (assign "half_open" (.bool true) members))))) =
      some (.obj (assign "half_open" (.bool true) members)) :=
  loads_orEmpty_dumps
    (uniqueKeys_assign "half_open" (show (Json.bool true).UniqueKeys from
      trivial) (uniqueKeys_of_loads loaded))

theorem failureCount_of_members
    {stored : Option String} {members : List (String × Json)}
    (loaded : loads (orEmpty stored) = some (.obj members)) :
    failureCount stored =
      match readCount ((lookup "failures" members).getD (.int 0)) with
      | none => .error (.library .valueError)
      | some count => .ok count := by
  rw [failureCount, loaded]

theorem failureCount_empty : failureCount (some "\x7b\x7d") = .ok 0 := by
  have loaded : loads (orEmpty (some "\x7b\x7d")) = some (.obj []) := by
    rw [orEmpty_of_loads loads_empty]
    exact loads_empty
  rw [failureCount_of_members loaded]
  rfl

variable {Time : Type} [CommRing Time] [LinearOrder Time]
variable (codec : TimeCodec Time) (policy : CircuitPolicy)

omit [CommRing Time] [LinearOrder Time] in
theorem failureCount_failureText (failures : ℤ) (now : Time) :
    failureCount
        (some
          (RedisCircuitBreaker.failureText codec policy failures now)) =
      .ok failures := by
  unfold RedisCircuitBreaker.failureText
  split_ifs
  · have unique :
        (Json.obj
          [("failures", .int failures), ("opened", codec.number now)]
          ).UniqueKeys := by
      refine ⟨by simp, trivial, ?_, trivial⟩
      rcases codec.isNumber now with ⟨value, equal⟩ | ⟨literal, equal⟩ <;>
      · rw [equal]
        trivial
    rw [failureCount_of_members (loads_orEmpty_dumps unique)]
    rfl
  · have unique : (Json.obj [("failures", .int failures)]).UniqueKeys :=
      ⟨by simp, trivial, trivial⟩
    rw [failureCount_of_members (loads_orEmpty_dumps unique)]
    rfl

/-! ## Calls as programs -/

/-- A call of the Redis breaker and its answer, if it has one. -/
def CircuitCall.program :
    CircuitCall Time → CircuitProgram (Option Bool)
  | .allowRequest sourceId now => do
      let answer ←
        RedisCircuitBreaker.allowRequest codec policy sourceId now
      pure (some answer)
  | .recordFailure sourceId now => do
      RedisCircuitBreaker.recordFailure codec policy sourceId now
      pure none
  | .recordSuccess sourceId _ => do
      RedisCircuitBreaker.recordSuccess sourceId
      pure none

/-- What `allow_request` does with the members it has read. -/
def allowMembers (sourceId : String) (now : Time)
    (members : List (String × Json)) : CircuitProgram (Option Bool) :=
  match getMember "opened" members with
  | .null => done (some true)
  | opened =>
      match codec.float opened with
      | none => fail (.library .valueError)
      | some openedAt =>
          if now - openedAt < policy.recoverySeconds then done (some false)
          else if (getMember "half_open" members).truthy then
            done (some false)
          else
            perform
              (.set (circuitKey sourceId)
                (dumps {} (.obj (assign "half_open" (.bool true) members)))
                (some policy.recoverySeconds))
              fun _ => done (some true)

/-- What `allow_request` does with what it has read. -/
def allowLoaded (sourceId : String) (now : Time) :
    Option Json → CircuitProgram (Option Bool)
  | none => fail (.library .valueError)
  | some (.obj members) => allowMembers codec policy sourceId now members
  | some _ => fail (.library .attributeError)

/-- What `record_failure` does with the count it has read. -/
def failureCounted (sourceId : String) (now : Time) :
    Except PyError ℤ → CircuitProgram (Option Bool)
  | .error error => fail error
  | .ok count =>
      perform
        (.set (circuitKey sourceId)
          (RedisCircuitBreaker.failureText codec policy (count + 1) now)
          (some policy.recoverySeconds))
        fun _ => done none

theorem program_allowRequest (sourceId : String) (now : Time) :
    (CircuitCall.allowRequest sourceId now).program codec policy =
      perform (.get (circuitKey sourceId)) fun stored =>
        allowLoaded codec policy sourceId now (loads (orEmpty stored)) := by
  simp only [CircuitCall.program, RedisCircuitBreaker.allowRequest,
    loadState, StoreProgram.bind_get, bind_perform]
  congr 1
  funext stored
  generalize loads (orEmpty stored) = document
  cases document with
  | none => rfl
  | some document =>
      cases document with
      | obj members =>
          simp only [pure_eq, bind_done, allowLoaded, allowMembers]
          generalize getMember "opened" members = opened
          cases opened
          case null => rfl
          all_goals
            dsimp only
            generalize codec.float _ = read
            cases read with
            | none => rfl
            | some openedAt =>
                dsimp only
                split_ifs <;> rfl
      | _ => rfl

theorem program_recordFailure (sourceId : String) (now : Time) :
    (CircuitCall.recordFailure sourceId now).program codec policy =
      perform (.get (circuitKey sourceId)) fun stored =>
        failureCounted codec policy sourceId now (failureCount stored) := by
  simp only [CircuitCall.program, RedisCircuitBreaker.recordFailure,
    loadState, StoreProgram.bind_get, bind_perform, failureCount]
  congr 1
  funext stored
  generalize loads (orEmpty stored) = document
  cases document with
  | none => rfl
  | some document =>
      cases document with
      | obj members =>
          simp only [pure_eq, bind_done]
          cases readCount ((lookup "failures" members).getD (.int 0)) <;> rfl
      | _ => rfl

theorem program_recordSuccess (sourceId : String) (now : Time) :
    (CircuitCall.recordSuccess sourceId now).program codec policy =
      perform (.set (circuitKey sourceId) "\x7b\x7d" (some 1))
        fun _ => done none := rfl

/-! ## Calls are short -/

/-- Only a request which opens a probe writes. -/
theorem allowMembers_cases
    (sourceId : String) (now : Time) (members : List (String × Json)) :
    (∃ outcome,
      allowMembers codec policy sourceId now members = ofOutcome outcome ∧
        (outcome = .ok (some true) → getMember "opened" members = .null)) ∨
      (getMember "opened" members ≠ .null ∧
        (getMember "half_open" members).truthy = false ∧
        allowMembers codec policy sourceId now members =
          perform
            (.set (circuitKey sourceId)
              (dumps {} (.obj (assign "half_open" (.bool true) members)))
              (some policy.recoverySeconds))
            fun _ => done (some true)) := by
  unfold allowMembers
  split
  case h_1 isNull =>
    exact Or.inl ⟨.ok (some true), rfl, fun _ => isNull⟩
  case h_2 notNull =>
    split
    · exact Or.inl ⟨.error _, rfl, nofun⟩
    · split_ifs with cooling probing
      · exact Or.inl ⟨.ok (some false), rfl, nofun⟩
      · exact Or.inl ⟨.ok (some false), rfl, nofun⟩
      · exact Or.inr ⟨notNull, Bool.not_eq_true _ ▸ probing, rfl⟩

theorem ending_allowLoaded
    (sourceId : String) (now : Time) (document : Option Json) :
    Ending (allowLoaded codec policy sourceId now document) := by
  unfold allowLoaded
  split
  · exact Or.inl ⟨.error _, rfl⟩
  · rename_i members
    rcases allowMembers_cases codec policy sourceId now members with
      ⟨outcome, ended, _⟩ | ⟨_, _, writes⟩
    · exact Or.inl ⟨outcome, ended⟩
    · exact Or.inr ⟨_, _, _, .ok (some true), writes⟩
  · exact Or.inl ⟨.error _, rfl⟩

omit [CommRing Time] [LinearOrder Time] in
theorem ending_failureCounted
    (sourceId : String) (now : Time) (count : Except PyError ℤ) :
    Ending (failureCounted codec policy sourceId now count) := by
  cases count with
  | error error => exact Or.inl ⟨.error error, rfl⟩
  | ok count => exact Or.inr ⟨_, _, _, .ok none, rfl⟩

/-- Every call reads before it ends, or writes at once. -/
theorem short_program (call : CircuitCall Time) :
    Short (call.program codec policy) := by
  cases call with
  | allowRequest sourceId now =>
      rw [program_allowRequest]
      exact Or.inl ⟨_, _, rfl, fun _ => ending_allowLoaded _ _ _ _ _⟩
  | recordFailure sourceId now =>
      rw [program_recordFailure]
      exact Or.inl ⟨_, _, rfl, fun _ => ending_failureCounted _ _ _ _ _⟩
  | recordSuccess sourceId now =>
      exact Or.inr ⟨_, _, _, .ok none, rfl⟩

/-! ## One call alone -/

/-- Nothing is emitted. -/
def noAnswer (_ : List Empty) (event : Empty) : Empty :=
  event

/-- The values of a store and what a call which is made alone leaves. -/
def CircuitCall.runAlone (call : CircuitCall Time)
    (state : StoreState String String Empty) :
    Except PyError (Option Bool) × StoreState String String Empty :=
  (call.program codec policy).run (storeHandler noAnswer) state

/--
A request leaves the store as it is and is not admitted to an open circuit, or
it is admitted as the only probe.
-/
theorem runAlone_allowRequest_cases
    (sourceId : String) (now : Time)
    (state : StoreState String String Empty) :
    (∃ outcome,
      (CircuitCall.allowRequest sourceId now).runAlone codec policy state =
          (outcome, state) ∧
        (outcome = .ok (some true) →
          ¬ isOpen (state.values (circuitKey sourceId)))) ∨
      ∃ members,
        loads (orEmpty (state.values (circuitKey sourceId))) =
            some (.obj members) ∧
          getMember "opened" members ≠ .null ∧
          (getMember "half_open" members).truthy = false ∧
          (CircuitCall.allowRequest sourceId now).runAlone codec policy
              state =
            (.ok (some true),
              { state with
                values :=
                  Function.update state.values (circuitKey sourceId)
                    (some
                      (dumps {}
                        (.obj
                          (assign "half_open" (.bool true) members)))) }) := by
  have run :
      (CircuitCall.allowRequest sourceId now).runAlone codec policy state =
        (allowLoaded codec policy sourceId now
          (loads (orEmpty (state.values (circuitKey sourceId))))).run
            (storeHandler noAnswer) state := by
    rw [CircuitCall.runAlone, program_allowRequest]
    rfl
  rw [run]
  cases loaded : loads (orEmpty (state.values (circuitKey sourceId))) with
  | none => exact Or.inl ⟨.error _, rfl, nofun⟩
  | some document =>
      cases document with
      | obj members =>
          have cases := allowMembers_cases codec policy sourceId now members
          rcases cases with ⟨outcome, ended, admitted⟩ | ⟨opened, idle, writes⟩
          · refine Or.inl ⟨outcome, ?_, ?_⟩
            · rw [allowLoaded, ended, run_ofOutcome]
            · rintro isAdmitted ⟨found, loadedAgain, notNull⟩
              rw [loaded] at loadedAgain
              cases loadedAgain
              exact notNull (admitted isAdmitted)
          · refine Or.inr ⟨members, rfl, opened, idle, ?_⟩
            rw [allowLoaded, writes]
            rfl
      | _ => exact Or.inl ⟨.error _, rfl, nofun⟩

theorem runAlone_recordFailure_eq
    (sourceId : String) (now : Time)
    (state : StoreState String String Empty) :
    (CircuitCall.recordFailure sourceId now).runAlone codec policy state =
      (failureCounted codec policy sourceId now
        (failureCount (state.values (circuitKey sourceId)))).run
          (storeHandler noAnswer) state := by
  rw [CircuitCall.runAlone, program_recordFailure]
  rfl

theorem runAlone_recordFailure
    {sourceId : String} {count : ℤ}
    {state : StoreState String String Empty}
    (counted :
      failureCount (state.values (circuitKey sourceId)) = .ok count)
    (now : Time) :
    (CircuitCall.recordFailure sourceId now).runAlone codec policy state =
      (.ok none,
        { state with
          values :=
            Function.update state.values (circuitKey sourceId)
              (some
                (RedisCircuitBreaker.failureText codec policy (count + 1)
                  now)) }) := by
  rw [runAlone_recordFailure_eq, counted]
  rfl

/-- A call changes the text of its own source only. -/
theorem runAlone_of_ne
    {sourceId : String} {call : CircuitCall Time}
    (different : sourceId ≠ call.sourceId)
    (state : StoreState String String Empty) :
    (call.runAlone codec policy state).2.values (circuitKey sourceId) =
      state.values (circuitKey sourceId) := by
  have other : circuitKey sourceId ≠ circuitKey call.sourceId :=
    fun equal => different (circuitKey_injective equal)
  cases call with
  | allowRequest source now =>
      rcases runAlone_allowRequest_cases codec policy source now state with
        ⟨outcome, run, _⟩ | ⟨members, _, _, _, run⟩
      · rw [run]
      · rw [run]
        exact Function.update_of_ne other _ _
  | recordFailure source now =>
      rw [runAlone_recordFailure_eq]
      cases failureCount (state.values (circuitKey source)) with
      | error error => rfl
      | ok count => exact Function.update_of_ne other _ _
  | recordSuccess source now => exact Function.update_of_ne other _ _

/-! ## Failures are counted -/

/-- The failures of a source after a call. -/
def CircuitCall.countAfter (sourceId : String) (count : ℤ) :
    CircuitCall Time → ℤ
  | .allowRequest _ _ => count
  | .recordFailure source _ => if source = sourceId then count + 1 else count
  | .recordSuccess source _ => if source = sourceId then 0 else count

/-- The failures of a source after a sequence of calls. -/
def recordedFailures (sourceId : String) (count : ℤ)
    (calls : List (CircuitCall Time)) : ℤ :=
  calls.foldl (CircuitCall.countAfter sourceId) count

omit [CommRing Time] [LinearOrder Time] in
theorem countAfter_of_ne
    {sourceId : String} {call : CircuitCall Time}
    (different : sourceId ≠ call.sourceId) (count : ℤ) :
    call.countAfter sourceId count = count := by
  cases call with
  | allowRequest source now => rfl
  | recordFailure source now => exact if_neg (Ne.symm different)
  | recordSuccess source now => exact if_neg (Ne.symm different)

/-- A call counts the failure it records. -/
theorem failureCount_runAlone
    {sourceId : String} {count : ℤ}
    {state : StoreState String String Empty}
    (counted :
      failureCount (state.values (circuitKey sourceId)) = .ok count)
    (call : CircuitCall Time) :
    failureCount
        ((call.runAlone codec policy state).2.values
          (circuitKey sourceId)) =
      .ok (call.countAfter sourceId count) := by
  by_cases same : sourceId = call.sourceId
  · subst same
    cases call with
    | allowRequest source now =>
        rcases runAlone_allowRequest_cases codec policy source now state with
          ⟨outcome, run, _⟩ | ⟨members, loaded, _, _, run⟩
        · rw [run]
          exact counted
        · rw [CircuitCall.sourceId, failureCount_of_members loaded]
            at counted
          rw [run]
          show failureCount
            (Function.update state.values (circuitKey source) _
              (circuitKey source)) = _
          rw [Function.update_self,
            failureCount_of_members (loads_orEmpty_probing loaded),
            lookup_assign_of_ne (by decide)]
          exact counted
    | recordFailure source now =>
        rw [CircuitCall.sourceId] at counted
        rw [runAlone_recordFailure codec policy counted]
        show failureCount
          (Function.update state.values (circuitKey source) _
            (circuitKey source)) = _
        rw [Function.update_self, failureCount_failureText,
          CircuitCall.countAfter, CircuitCall.sourceId, if_pos rfl]
    | recordSuccess source now =>
        show failureCount
          (Function.update state.values (circuitKey source) _
            (circuitKey source)) = _
        rw [Function.update_self, failureCount_empty,
          CircuitCall.countAfter, CircuitCall.sourceId, if_pos rfl]
  · rw [runAlone_of_ne codec policy same, countAfter_of_ne same]
    exact counted

/-! ## Probes -/

/-- The call records an outcome of a source. -/
def CircuitCall.Records (sourceId : String) : CircuitCall Time → Prop
  | .allowRequest _ _ => False
  | .recordFailure source _ => source = sourceId
  | .recordSuccess source _ => source = sourceId

/-- A request which is admitted to an open circuit opens a probe. -/
theorem isHalfOpen_of_admitted
    {sourceId : String} {now : Time}
    {state : StoreState String String Empty}
    (opened : isOpen (state.values (circuitKey sourceId)))
    (admitted :
      ((CircuitCall.allowRequest sourceId now).runAlone codec policy
          state).1 =
        .ok (some true)) :
    isHalfOpen
      (((CircuitCall.allowRequest sourceId now).runAlone codec policy
        state).2.values (circuitKey sourceId)) := by
  rcases runAlone_allowRequest_cases codec policy sourceId now state with
    ⟨outcome, run, closed⟩ | ⟨members, loaded, notNull, _, run⟩
  · rw [run] at admitted
    exact absurd opened (closed admitted)
  · refine ⟨assign "half_open" (.bool true) members, ?_, ?_, ?_⟩
    · rw [run]
      show loads (orEmpty
        (Function.update state.values (circuitKey sourceId) _
          (circuitKey sourceId))) = _
      rw [Function.update_self]
      exact loads_orEmpty_probing loaded
    · rw [getMember, lookup_assign_of_ne (by decide)]
      exact notNull
    · rw [getMember, lookup_assign_self]
      rfl

/-- While a probe is under way no request is admitted. -/
theorem runAlone_of_isHalfOpen
    {sourceId : String} {state : StoreState String String Empty}
    (probing : isHalfOpen (state.values (circuitKey sourceId)))
    (now : Time) :
    ((CircuitCall.allowRequest sourceId now).runAlone codec policy
          state).1 ≠
        .ok (some true) ∧
      ((CircuitCall.allowRequest sourceId now).runAlone codec policy
          state).2 =
        state := by
  rcases probing with ⟨found, loaded, notNull, probed⟩
  rcases runAlone_allowRequest_cases codec policy sourceId now state with
    ⟨outcome, run, closed⟩ | ⟨members, loadedAgain, _, idle, _⟩
  · rw [run]
    exact ⟨fun admitted => closed admitted ⟨found, loaded, notNull⟩, rfl⟩
  · rw [loaded] at loadedAgain
    cases loadedAgain
    rw [probed] at idle
    cases idle

/-- A probe is under way until its outcome is recorded. -/
theorem isHalfOpen_runAlone
    {sourceId : String} {state : StoreState String String Empty}
    (probing : isHalfOpen (state.values (circuitKey sourceId)))
    {call : CircuitCall Time} (silent : ¬ call.Records sourceId) :
    isHalfOpen
      ((call.runAlone codec policy state).2.values
        (circuitKey sourceId)) := by
  by_cases same : sourceId = call.sourceId
  · subst same
    cases call with
    | allowRequest source now =>
        rw [CircuitCall.sourceId] at probing ⊢
        rw [(runAlone_of_isHalfOpen codec policy probing now).2]
        exact probing
    | recordFailure source now => exact absurd rfl silent
    | recordSuccess source now => exact absurd rfl silent
  · rw [runAlone_of_ne codec policy same]
    exact probing

/-! ## Runs -/

section Runs

variable {Index : Type} (calls : Index → CircuitCall Time)

/-- The store after calls which are made one after the other. -/
abbrev oneAfterTheOther (initial : StoreState String String Empty)
    (order : List Index) : StoreState String String Empty :=
  serialState noAnswer (fun index => (calls index).program codec policy)
    initial order

/-- A call which is admitted although the circuit is open. -/
def IsProbe (initial : StoreState String String Empty) (sourceId : String)
    (before : List Index) (index : Index) : Prop :=
  (∃ now, calls index = .allowRequest sourceId now) ∧
    isOpen
      ((oneAfterTheOther codec policy calls initial before).values
        (circuitKey sourceId)) ∧
    ((calls index).runAlone codec policy
        (oneAfterTheOther codec policy calls initial before)).1 =
      .ok (some true)

/--
The calls which have ended did what they do in this order, no probe is
followed by another before an outcome is recorded, and every failure since the
last success is counted.
-/
structure SafelyShared (initial : StoreState String String Empty)
    (progress :
      Progress Index String String Empty Empty PyError (Option Bool))
    (order : List Index) : Prop where
  serial :
    Serial noAnswer (fun index => (calls index).program codec policy)
      initial progress order
  oneProbe : ∀ sourceId before first between second after,
    order = before ++ first :: between ++ second :: after →
      IsProbe codec policy calls initial sourceId before first →
        IsProbe codec policy calls initial sourceId
            (before ++ first :: between) second →
          ∃ index ∈ between, (calls index).Records sourceId
  counted : ∀ sourceId count,
    failureCount (initial.values (circuitKey sourceId)) = .ok count →
      failureCount (progress.state.values (circuitKey sourceId)) =
        .ok (recordedFailures sourceId count (order.map calls))

/--
What a call depends on is stored as the call has read it: the count of a
recorded failure, and the document of a request.
-/
def Fresh
    (progress :
      Progress Index String String Empty Empty PyError (Option Bool))
    (index : Index) : Prop :=
  match calls index with
  | .allowRequest sourceId _ =>
      loads (orEmpty (progress.loaded index)) =
        loads (orEmpty (progress.state.values (circuitKey sourceId)))
  | .recordFailure sourceId _ =>
      failureCount (progress.loaded index) =
        failureCount (progress.state.values (circuitKey sourceId))
  | .recordSuccess _ _ => True

variable {calls}

/-- A call which finds what it has read would do the same now. -/
theorem current_of_fresh
    (progress :
      Progress Index String String Empty Empty PyError (Option Bool))
    (index : Index) (fresh : Fresh calls progress index) :
    Current (fun index => (calls index).program codec policy) progress
      index := by
  intro key next reads
  dsimp only at reads
  cases isCall : calls index with
  | allowRequest sourceId now =>
      rw [isCall, program_allowRequest] at reads
      cases reads
      simp only [Fresh, isCall] at fresh
      exact congrArg (allowLoaded codec policy sourceId now) fresh
  | recordFailure sourceId now =>
      rw [isCall, program_recordFailure] at reads
      cases reads
      simp only [Fresh, isCall] at fresh
      exact congrArg (failureCounted codec policy sourceId now) fresh
  | recordSuccess sourceId now =>
      rw [isCall, program_recordSuccess] at reads
      cases reads

theorem oneAfterTheOther_concat
    (initial : StoreState String String Empty) (order : List Index)
    (index : Index) :
    oneAfterTheOther codec policy calls initial (order ++ [index]) =
      ((calls index).runAlone codec policy
        (oneAfterTheOther codec policy calls initial order)).2 :=
  serialState_concat _ _ _ _ _

/-- No failure is lost when the calls are made one after the other. -/
theorem failureCount_oneAfterTheOther
    {initial : StoreState String String Empty} {sourceId : String}
    {count : ℤ}
    (counted :
      failureCount (initial.values (circuitKey sourceId)) = .ok count)
    (order : List Index) :
    failureCount
        ((oneAfterTheOther codec policy calls initial order).values
          (circuitKey sourceId)) =
      .ok (recordedFailures sourceId count (order.map calls)) := by
  induction order using List.reverseRecOn with
  | nil => exact counted
  | append_singleton order index induction =>
      rw [oneAfterTheOther_concat,
        failureCount_runAlone codec policy induction, List.map_append,
        recordedFailures, recordedFailures, List.map_singleton,
        List.foldl_concat]

/-- A probe is under way while no outcome is recorded. -/
theorem isHalfOpen_oneAfterTheOther
    {initial : StoreState String String Empty} {sourceId : String}
    {before : List Index} {first : Index}
    (probe : IsProbe codec policy calls initial sourceId before first)
    {between : List Index}
    (silent : ∀ index ∈ between, ¬ (calls index).Records sourceId) :
    isHalfOpen
      ((oneAfterTheOther codec policy calls initial
        (before ++ first :: between)).values (circuitKey sourceId)) := by
  induction between using List.reverseRecOn with
  | nil =>
      rcases probe with ⟨⟨now, isCall⟩, opened, admitted⟩
      rw [oneAfterTheOther_concat]
      rw [isCall] at admitted ⊢
      exact isHalfOpen_of_admitted codec policy opened admitted
  | append_singleton between index induction =>
      have earlier :=
        induction fun other member =>
          silent other (List.mem_append_left _ member)
      rw [← List.cons_append, ← List.append_assoc, oneAfterTheOther_concat]
      exact isHalfOpen_runAlone codec policy earlier
        (silent index (List.mem_append_right _ List.mem_cons_self))

/-- A second probe is admitted only after an outcome. -/
theorem records_between_probes
    {initial : StoreState String String Empty} {sourceId : String}
    {before between : List Index} {first second : Index}
    (isFirst : IsProbe codec policy calls initial sourceId before first)
    (isSecond :
      IsProbe codec policy calls initial sourceId
        (before ++ first :: between) second) :
    ∃ index ∈ between, (calls index).Records sourceId := by
  by_contra none
  have silent (index : Index) (member : index ∈ between) :
      ¬ (calls index).Records sourceId :=
    fun recorded => none ⟨index, member, recorded⟩
  have probing := isHalfOpen_oneAfterTheOther codec policy isFirst silent
  rcases isSecond with ⟨⟨now, isCall⟩, _, admitted⟩
  rw [isCall] at admitted
  exact (runAlone_of_isHalfOpen codec policy probing now).1 admitted

variable [DecidableEq Index]

/--
In a run in which every write finds what its call has read, the shared circuit
states are safe.
-/
theorem exists_safelyShared
    {initial : StoreState String String Empty}
    {progress :
      Progress Index String String Empty Empty PyError (Option Bool)}
    (reached :
      Reached (fun index => (calls index).program codec policy) initial
        (Fresh calls) progress) :
    ∃ order, SafelyShared codec policy calls initial progress order := by
  rcases exists_ordered
      (fun index => short_program codec policy (calls index))
      (current_of_fresh codec policy) reached with ⟨order, ordered⟩
  refine ⟨order, ordered.serial, ?_, ?_⟩
  · intro sourceId before first between second after _ isFirst isSecond
    exact records_between_probes codec policy isFirst isSecond
  · intro sourceId count counted
    rw [ordered.serial.state]
    exact failureCount_oneAfterTheOther codec policy counted order

end Runs

/-! ## Two workers -/

/-- Two workers which record a failure of one source. -/
def failingWorkers (_ : Bool) : CircuitCall ℤ :=
  .recordFailure "demo" 0

/-- A circuit which opens at the second failure. -/
def twoFailures : CircuitPolicy :=
  ⟨2, 1, Nat.two_pos, Nat.one_pos⟩

/-- The workers record their failures from an empty store. -/
abbrev FailingRun
    (guard :
      Progress Bool String String Empty Empty PyError (Option Bool) →
        Bool → Prop) :=
  Reached
    (fun index => (failingWorkers index).program wholeSeconds twoFailures)
    StoreState.empty guard

/-- A worker which has read a count. -/
def counting (count : ℤ) : CircuitProgram (Option Bool) :=
  failureCounted wholeSeconds twoFailures "demo" 0 (.ok count)

/-- The text a worker writes which has read a count. -/
def countedText (count : ℤ) : String :=
  RedisCircuitBreaker.failureText wholeSeconds twoFailures (count + 1) 0

section FailingRun

variable
  {guard :
    Progress Bool String String Empty Empty PyError (Option Bool) → Bool →
      Prop}
  {progress : Progress Bool String String Empty Empty PyError (Option Bool)}

theorem FailingRun.load
    (reached : FailingRun guard progress) (index : Bool) {count : ℤ}
    (begins :
      progress.programs index =
        (failingWorkers index).program wholeSeconds twoFailures)
    (counted :
      failureCount (progress.state.values (circuitKey "demo")) =
        .ok count) :
    FailingRun guard
      (progress.load index (progress.state.values (circuitKey "demo"))
        (counting count)) := by
  have isNext :=
    begins.trans (program_recordFailure wholeSeconds twoFailures "demo" 0)
  have loaded := Reached.load reached isNext
  rw [counted] at loaded
  exact loaded

theorem FailingRun.save
    (reached : FailingRun guard progress) (index : Bool) {count : ℤ}
    (isNext : progress.programs index = counting count)
    (allowed : guard progress index) :
    FailingRun guard
      (progress.save index (circuitKey "demo") (countedText count)
        (done none)) :=
  Reached.save reached isNext allowed

end FailingRun

theorem failureCount_none : failureCount none = .ok 0 := by
  have loaded : loads (orEmpty none) = some (.obj []) := loads_empty
  rw [failureCount_of_members loaded]
  rfl

/-- The workers record their failures one after the other. -/
theorem failingRun_oneAfterTheOther :
    ∃ progress, FailingRun (Fresh failingWorkers) progress ∧
      ∀ index, progress.programs index = done none := by
  have start : FailingRun (Fresh failingWorkers) _ := Reached.initially
  have loaded := start.load false rfl failureCount_none
  have saved := loaded.save false rfl rfl
  have second :=
    saved.load true rfl (failureCount_failureText _ _ 1 0)
  have ended := second.save true rfl rfl
  refine ⟨_, ended, ?_⟩
  intro index
  cases index <;> rfl

/-- Two workers read before either writes: a failure is lost. -/
theorem failingRun_both :
    ∃ progress, FailingRun (fun _ _ => True) progress ∧
      (∀ index, progress.programs index = done none) ∧
      failureCount (progress.state.values (circuitKey "demo")) = .ok 1 := by
  have start : FailingRun (fun _ _ => True) _ := Reached.initially
  have first := start.load false rfl failureCount_none
  have second := first.load true rfl failureCount_none
  have saved := second.save false rfl trivial
  have ended := saved.save true rfl trivial
  refine ⟨_, ended, ?_, ?_⟩
  · intro index
    cases index <;> rfl
  · exact failureCount_failureText _ _ 1 0

/-- Failures which are recorded one after the other are both counted. -/
theorem exists_safelyShared_oneAfterTheOther :
    ∃ progress order,
      SafelyShared wholeSeconds twoFailures failingWorkers
          StoreState.empty progress order ∧
        ∀ index, progress.programs index = done none := by
  rcases failingRun_oneAfterTheOther with ⟨progress, reached, ended⟩
  rcases exists_safelyShared wholeSeconds twoFailures reached with
    ⟨order, shared⟩
  exact ⟨progress, order, shared, ended⟩

/-- A run in which both workers read before either writes is not safe. -/
theorem not_safelyShared_bothFailures :
    ¬ ∀ progress, FailingRun (fun _ _ => True) progress →
      ∃ order,
        SafelyShared wholeSeconds twoFailures failingWorkers
          StoreState.empty progress order := by
  intro claim
  rcases failingRun_both with ⟨progress, reached, ended, counted⟩
  rcases claim progress reached with ⟨order, shared⟩
  have everyone (index : Bool) : index ∈ order :=
    (shared.serial.mem_iff index).mpr ⟨.ok none, ended index⟩
  have both : order.Perm [false, true] := by
    rw [List.perm_ext_iff_of_nodup shared.serial.nodup (by decide)]
    intro index
    cases index <;> simp [everyone]
  have total := shared.counted "demo" 0 failureCount_none
  rw [counted, recordedFailures, List.foldl_map,
    both.foldl_eq' fun _ _ _ _ _ => rfl] at total
  cases total

end MultisiteCrawler.Resilience
