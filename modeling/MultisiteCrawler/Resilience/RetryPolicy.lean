import MultisiteCrawler.Foundation.PythonText

/-!
# Retry policy

Which failures are retried, and how long is waited before the next attempt.
The delay doubles from one attempt to the next until it reaches the maximum,
and the result is multiplied by a random factor between one half and three
halves.  So the cap comes before the jitter, and a factor above one lifts the
delay above the maximum.
-/

namespace MultisiteCrawler.Resilience

open Foundation.PythonText

/-- `RetryPolicy`. -/
structure RetryPolicy (Number : Type) where
  maxAttempts : ℤ
  baseDelaySeconds : Number
  maxDelaySeconds : Number
deriving DecidableEq, Repr

/-- A response without success. -/
structure ResponseFailure where
  statusCode : ℤ
  retryAfter : Option String
  body : String
deriving DecidableEq, Repr

/-- `RetryPolicy.should_retry`; the error is told by its class. -/
def shouldRetry (statusCode : Option ℤ) (isConnectionError : Bool) : Bool :=
  if statusCode = some 401 ∨ statusCode = some 403 then false
  else
    decide
        (statusCode = some 429 ∨ statusCode = some 502 ∨
          statusCode = some 503) ||
      isConnectionError

/-- `should_request_human_review`. -/
def shouldRequestHumanReview (rules : UnicodeRules) (body : String) : Bool :=
  let lowered := rules.lower body.toList
  isPart "captcha".toList lowered || isPart "access denied".toList lowered

/-! ## Delays -/

namespace RetryPolicy

variable (policy : RetryPolicy ℚ)

/-- The delay before the cap. -/
def uncapped (attempt : ℤ) : ℚ :=
  policy.baseDelaySeconds * 2 ^ (attempt - 1)

/-- `RetryPolicy.delay_seconds`. -/
def delaySeconds (attempt : ℤ) (randomValue : ℚ) : ℚ :=
  min policy.maxDelaySeconds (policy.uncapped attempt) *
    (1 / 2 + randomValue)

/--
The delay of an attempt is positive, at most the maximum, and no later attempt
has a smaller one.
-/
structure WithinBounds (attempt : ℤ) (randomValue : ℚ) : Prop where
  positive : 0 < policy.delaySeconds attempt randomValue
  capped : policy.delaySeconds attempt randomValue ≤ policy.maxDelaySeconds
  nondecreasing : ∀ later, attempt ≤ later →
    policy.delaySeconds attempt randomValue ≤
      policy.delaySeconds later randomValue

variable {policy}

theorem uncapped_pos
    (positive : 0 < policy.baseDelaySeconds) (attempt : ℤ) :
    0 < policy.uncapped attempt :=
  mul_pos positive (zpow_pos two_pos _)

theorem uncapped_mono
    (positive : 0 < policy.baseDelaySeconds) {attempt later : ℤ}
    (order : attempt ≤ later) :
    policy.uncapped attempt ≤ policy.uncapped later := by
  apply mul_le_mul_of_nonneg_left _ positive.le
  exact zpow_le_zpow_right₀ one_le_two (sub_le_sub_right order 1)

/-- The cap survives the jitter exactly if the jitter does not reach it. -/
theorem delaySeconds_le_iff
    (capPositive : 0 < policy.maxDelaySeconds) {attempt : ℤ}
    {randomValue : ℚ} (nonneg : 0 ≤ randomValue) :
    policy.delaySeconds attempt randomValue ≤ policy.maxDelaySeconds ↔
      randomValue ≤ 1 / 2 ∨
        policy.uncapped attempt ≤
          policy.maxDelaySeconds / (1 / 2 + randomValue) := by
  have factorPositive : 0 < 1 / 2 + randomValue := by linarith
  rw [delaySeconds, ← le_div_iff₀ factorPositive, min_le_iff,
    le_div_iff₀ factorPositive]
  apply or_congr_left
  rw [mul_le_iff_le_one_right capPositive]
  constructor <;> intro small <;> linarith

/--
The delay respects its bounds exactly if the factor is at most one, or the
delay before the cap times the factor does not exceed the maximum.
-/
theorem withinBounds_iff
    (policy : RetryPolicy ℚ) (positive : 0 < policy.baseDelaySeconds)
    (ordered : policy.baseDelaySeconds ≤ policy.maxDelaySeconds)
    (attempt : ℤ) {randomValue : ℚ} (nonneg : 0 ≤ randomValue) :
    policy.WithinBounds attempt randomValue ↔
      randomValue ≤ 1 / 2 ∨
        policy.uncapped attempt ≤
          policy.maxDelaySeconds / (1 / 2 + randomValue) := by
  have capPositive := lt_of_lt_of_le positive ordered
  have factorPositive : 0 < 1 / 2 + randomValue := by linarith
  rw [← delaySeconds_le_iff capPositive nonneg]
  constructor
  · exact WithinBounds.capped
  · intro capped
    refine ⟨?_, capped, ?_⟩
    · exact mul_pos (lt_min capPositive (uncapped_pos positive attempt))
        factorPositive
    · intro later order
      apply mul_le_mul_of_nonneg_right _ factorPositive.le
      exact min_le_min_left _ (uncapped_mono positive order)

/-- Two seconds at first, thirty at most. -/
def demoPolicy : RetryPolicy ℚ := ⟨3, 2, 30⟩

/-- With the factor one the second delay is four seconds. -/
theorem withinBounds_demoPolicy :
    demoPolicy.delaySeconds 2 (1 / 2) = 4 ∧
      demoPolicy.WithinBounds 2 (1 / 2) := by
  constructor
  · norm_num [demoPolicy, delaySeconds, uncapped]
  · apply (withinBounds_iff demoPolicy (by norm_num [demoPolicy])
      (by norm_num [demoPolicy]) 2 (by norm_num)).mpr
    exact Or.inl le_rfl

/-- With a factor above one the capped delay exceeds the maximum. -/
theorem not_withinBounds_demoPolicy :
    ¬ ∀ (attempt : ℤ) (randomValue : ℚ), 1 ≤ attempt → 0 ≤ randomValue →
      randomValue < 1 → demoPolicy.WithinBounds attempt randomValue := by
  intro within
  have capped :=
    (within 10 (9 / 10) (by norm_num) (by norm_num) (by norm_num)).capped
  norm_num [demoPolicy, delaySeconds, uncapped] at capped

end RetryPolicy

end MultisiteCrawler.Resilience
