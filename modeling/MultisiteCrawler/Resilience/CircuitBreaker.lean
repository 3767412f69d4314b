import MultisiteCrawler.Foundation.ExpiringStore
import MultisiteCrawler.Foundation.JsonRoundTrip
import MultisiteCrawler.Foundation.PythonErrors

/-!
# Circuit breakers

The two circuit breakers, one keeping its states in memory and one keeping
them as JSON texts in Redis, where every text expires.  Times are elements of
an ordered ring: clock readings are subtracted and compared exactly, without
the rounding of floats.
-/

namespace MultisiteCrawler.Resilience

open Foundation.ExpiringStore
open Foundation.Interaction
open Foundation.JsonText
open Foundation.PythonErrors

variable {Time : Type}

/-! ## In memory -/

/-- The state of one source. -/
structure CircuitState (Time : Type) where
  failures : ℕ := 0
  openedAt : Option Time := none
  halfOpen : Bool := false
deriving DecidableEq, Repr

/-- The breaker which keeps its states in memory. -/
structure CircuitBreaker (Time : Type) where
  failureThreshold : ℕ
  recoverySeconds : Time
  states : String → Option (CircuitState Time)

namespace CircuitBreaker

/-- `_states.setdefault(source_id, _CircuitState())`. -/
def state (breaker : CircuitBreaker Time) (sourceId : String) :
    CircuitState Time :=
  (breaker.states sourceId).getD {}

/-- The breaker with the state of one source replaced. -/
def store (breaker : CircuitBreaker Time) (sourceId : String)
    (state : CircuitState Time) : CircuitBreaker Time :=
  { breaker with
    states := Function.update breaker.states sourceId (some state) }

@[simp]
theorem state_store_self
    (breaker : CircuitBreaker Time) (sourceId : String)
    (state : CircuitState Time) :
    (breaker.store sourceId state).state sourceId = state := by
  simp [CircuitBreaker.store, CircuitBreaker.state]

theorem state_store_of_ne
    {sourceId other : String} (different : other ≠ sourceId)
    (breaker : CircuitBreaker Time) (state : CircuitState Time) :
    (breaker.store sourceId state).state other = breaker.state other := by
  simp [CircuitBreaker.store, CircuitBreaker.state,
    Function.update_of_ne different]

variable [CommRing Time] [LinearOrder Time]

/-- `allow_request`. -/
def allowRequest (breaker : CircuitBreaker Time) (sourceId : String)
    (now : Time) : Bool × CircuitBreaker Time :=
  let state := breaker.state sourceId
  match state.openedAt with
  | none => (true, breaker.store sourceId state)
  | some openedAt =>
      if now - openedAt < breaker.recoverySeconds then
        (false, breaker.store sourceId state)
      else if state.halfOpen then (false, breaker.store sourceId state)
      else (true, breaker.store sourceId { state with halfOpen := true })

/-- `record_failure`. -/
def recordFailure (breaker : CircuitBreaker Time) (sourceId : String)
    (now : Time) : CircuitBreaker Time :=
  let state := breaker.state sourceId
  let failures := state.failures + 1
  breaker.store sourceId
    (if breaker.failureThreshold ≤ failures then ⟨failures, some now, false⟩
      else { state with failures := failures })

/-- `record_success`. -/
def recordSuccess (breaker : CircuitBreaker Time) (sourceId : String) :
    CircuitBreaker Time :=
  breaker.store sourceId {}

end CircuitBreaker

/-! ## In Redis -/

variable [CommRing Time] [LinearOrder Time]

/--
How times are carried by JSON: as numbers, which `float` reads back exactly.
-/
structure TimeCodec (Time : Type) where
  number : Time → Json
  float : Json → Option Time
  isNumber : ∀ time,
    (∃ value, number time = .int value) ∨
      ∃ literal, number time = .float literal
  float_number : ∀ time, float (number time) = some time

/-- Whole seconds, carried as JSON integers. -/
def wholeSeconds : TimeCodec ℤ where
  number := .int
  float
    | .int value => some value
    | _ => none
  isNumber time := Or.inl ⟨time, rfl⟩
  float_number _ := rfl

/-- The constructor arguments of the Redis breaker. -/
structure CircuitPolicy where
  threshold : ℕ
  recoverySeconds : ℕ
  threshold_pos : 1 ≤ threshold
  recoverySeconds_pos : 1 ≤ recoverySeconds

/-- Programs over the store of the breaker. -/
abbrev CircuitProgram := StoreProgram String String Empty Empty PyError

/-- The key of the text stored for a source. -/
def circuitKey (sourceId : String) : String :=
  "circuit:" ++ sourceId

theorem circuitKey_injective : Function.Injective circuitKey := by
  intro left right equal
  exact (String.append_right_inj _).mp equal

/-- `value or "{}"`. -/
def orEmpty : Option String → String
  | none => "\x7b\x7d"
  | some value => if value.isEmpty then "\x7b\x7d" else value

/-- `json.loads(store.get(key) or "{}")`, on which `get` is called next. -/
def loadState (sourceId : String) :
    CircuitProgram (List (String × Json)) := do
  let stored ← StoreProgram.get (circuitKey sourceId)
  match loads (orEmpty stored) with
  | none => Program.fail (.library .valueError)
  | some (.obj members) => pure members
  | some _ => Program.fail (.library .attributeError)

/--
`int(value)` of a stored count.  The breaker stores nothing but integers
there, and no other value is converted here.
-/
def readCount : Json → Option ℤ
  | .int value => some value
  | .bool value => some value.toNat
  | _ => none

namespace RedisCircuitBreaker

variable (codec : TimeCodec Time) (policy : CircuitPolicy)

/-- `allow_request`. -/
def allowRequest (sourceId : String) (now : Time) : CircuitProgram Bool := do
  let state ← loadState sourceId
  match getMember "opened" state with
  | .null => pure true
  | opened =>
      match codec.float opened with
      | none => Program.fail (.library .valueError)
      | some openedAt =>
          if now - openedAt < policy.recoverySeconds then pure false
          else if (getMember "half_open" state).truthy then pure false
          else do
            StoreProgram.set (circuitKey sourceId)
              (dumps {} (.obj (assign "half_open" (.bool true) state)))
              (some policy.recoverySeconds)
            pure true

/-- The text `record_failure` stores. -/
def failureText (failures : ℤ) (now : Time) : String :=
  dumps {}
    (.obj
      (if policy.threshold ≤ failures then
        [("failures", .int failures), ("opened", codec.number now)]
      else [("failures", .int failures)]))

/-- `record_failure`. -/
def recordFailure (sourceId : String) (now : Time) : CircuitProgram Unit := do
  let state ← loadState sourceId
  match readCount ((lookup "failures" state).getD (.int 0)) with
  | none => Program.fail (.library .valueError)
  | some count =>
      StoreProgram.set (circuitKey sourceId)
        (failureText codec policy (count + 1) now)
        (some policy.recoverySeconds)

/-- `record_success`. -/
def recordSuccess (sourceId : String) : CircuitProgram Unit :=
  StoreProgram.set (circuitKey sourceId) "\x7b\x7d" (some 1)

end RedisCircuitBreaker

/-! ## Calls and runs -/

/-- A timestamped call of either breaker. -/
inductive CircuitCall (Time : Type) where
  | allowRequest (sourceId : String) (now : Time)
  | recordFailure (sourceId : String) (now : Time)
  | recordSuccess (sourceId : String) (now : Time)
deriving DecidableEq, Repr

/-- The source a call is about. -/
def CircuitCall.sourceId : CircuitCall Time → String
  | .allowRequest sourceId _ => sourceId
  | .recordFailure sourceId _ => sourceId
  | .recordSuccess sourceId _ => sourceId

/-- The breaker in memory after a call. -/
def memoryStep (breaker : CircuitBreaker Time) :
    CircuitCall Time → CircuitBreaker Time
  | .allowRequest sourceId now => (breaker.allowRequest sourceId now).2
  | .recordFailure sourceId now => breaker.recordFailure sourceId now
  | .recordSuccess sourceId _ => breaker.recordSuccess sourceId

/-- The breaker in memory after a sequence of calls. -/
def memoryAfter (policy : CircuitPolicy) (calls : List (CircuitCall Time)) :
    CircuitBreaker Time :=
  calls.foldl memoryStep
    ⟨policy.threshold, policy.recoverySeconds, fun _ => none⟩

variable (codec : TimeCodec Time) (policy : CircuitPolicy)

/-- The store of the Redis breaker after a call, whatever the call raises. -/
def redisStep (store : Store String String Time) :
    CircuitCall Time → Store String String Time
  | .allowRequest sourceId now =>
      ((RedisCircuitBreaker.allowRequest codec policy sourceId now).run
        (expiringHandler now) store).2
  | .recordFailure sourceId now =>
      ((RedisCircuitBreaker.recordFailure codec policy sourceId now).run
        (expiringHandler now) store).2
  | .recordSuccess sourceId now =>
      ((RedisCircuitBreaker.recordSuccess sourceId).run
        (expiringHandler now) store).2

/-- The store of the Redis breaker after a sequence of calls. -/
def redisAfter (calls : List (CircuitCall Time)) :
    Store String String Time :=
  calls.foldl (redisStep codec policy) fun _ => none

theorem memoryAfter_concat
    (calls : List (CircuitCall Time)) (call : CircuitCall Time) :
    memoryAfter policy (calls ++ [call]) =
      memoryStep (memoryAfter policy calls) call := by
  simp [memoryAfter]

theorem redisAfter_concat
    (calls : List (CircuitCall Time)) (call : CircuitCall Time) :
    redisAfter codec policy (calls ++ [call]) =
      redisStep codec policy (redisAfter codec policy calls) call := by
  simp [redisAfter]

end MultisiteCrawler.Resilience
