import MultisiteCrawler.Resilience.RetryLoop

/-!
# Reading a `Retry-After` header

The guard of `retry_after_seconds` asks `str.isdigit`, which superscripts pass
as well, and the conversion is `int`, which takes decimal digits only and not
too many of them.  A header between the two raises inside the handler of the
loop, in place of the failure which is to be retried.
-/

namespace MultisiteCrawler.Resilience

open Foundation.Interaction
open Foundation.Interaction.Program (Handler)
open Foundation.PythonErrors
open Foundation.PythonFloats
open Foundation.PythonText

/-! ## Digits -/

/-- What Python knows of digits. -/
structure DigitRules where
  /-- `str.isdigit()` of one character. -/
  isDigit : Char → Bool
  /-- The value of a decimal digit. -/
  decimal : Char → Option ℕ
  /-- How many digits `int` converts at most, if there is a limit. -/
  maxDigits : Option ℕ
  isDigit_of_decimal : ∀ character value,
    decimal character = some value → isDigit character = true
  decimal_lt : ∀ character value, decimal character = some value → value < 10

namespace DigitRules

variable (digits : DigitRules)

/-- A decimal digit. -/
def isDecimal (character : Char) : Bool :=
  (digits.decimal character).isSome

/-- A number of digits which `int` converts. -/
def Converts (count : ℕ) : Prop :=
  ∀ limit, digits.maxDigits = some limit → count ≤ limit

instance (count : ℕ) : Decidable (digits.Converts count) :=
  match isLimit : digits.maxDigits with
  | none => isTrue fun limit equal => by rw [isLimit] at equal; cases equal
  | some limit =>
      decidable_of_iff (count ≤ limit)
        ⟨fun small other equal =>
            Option.some.inj (isLimit.symm.trans equal) ▸ small,
          fun converts => converts limit isLimit⟩

/-- `int(value)` of a text without sign, space and underscore. -/
def int (value : String) : Except PyError ℤ :=
  match value.toList.mapM digits.decimal with
  | none | some [] => .error (.library .valueError)
  | some values =>
      if digits.Converts values.length then
        .ok (values.foldl (fun number digit => 10 * number + digit) 0 : ℕ)
      else .error (.library .valueError)

/-- `RetryPolicy.retry_after_seconds`. -/
def retryAfterSeconds (value : Option String) : Except PyError (Option ℤ) :=
  match value with
  | none => .ok none
  | some value =>
      if fullmatch digits.isDigit value then (digits.int value).map some
      else .ok none

/-- The number a nonempty text of decimal digits denotes. -/
def denoted (value : Option String) : Option ℤ :=
  value.bind fun value =>
    if fullmatch digits.isDecimal value then
      some
        (Nat.ofDigits 10 (value.toList.filterMap digits.decimal).reverse : ℕ)
    else none

/-- What is taken for a number can be converted. -/
def Convertible (value : Option String) : Prop :=
  ∀ text, value = some text → fullmatch digits.isDigit text = true →
    fullmatch digits.isDecimal text = true ∧
      digits.Converts text.toList.length

variable {digits}

theorem mapM_decimal
    {characters : List Char}
    (decimals : ∀ character ∈ characters,
      digits.isDecimal character = true) :
    characters.mapM digits.decimal =
      some (characters.filterMap digits.decimal) := by
  induction characters with
  | nil => rfl
  | cons character rest induction =>
      obtain ⟨value, isValue⟩ :=
        Option.isSome_iff_exists.mp (decimals character List.mem_cons_self)
      have others :=
        induction fun other member =>
          decimals other (List.mem_cons_of_mem _ member)
      rw [List.mapM_cons, isValue, others,
        List.filterMap_cons_some isValue]
      rfl

theorem decimals_of_mapM
    {characters : List Char} {values : List ℕ}
    (converted : characters.mapM digits.decimal = some values) :
    ∀ character ∈ characters, digits.isDecimal character = true := by
  induction characters generalizing values with
  | nil => simp
  | cons character rest induction =>
      rw [List.mapM_cons] at converted
      rcases Option.bind_eq_some_iff.mp converted with
        ⟨value, isValue, converted⟩
      rcases Option.bind_eq_some_iff.mp converted with ⟨others, areOthers, _⟩
      rintro other (_ | ⟨_, member⟩)
      · exact Option.isSome_iff_exists.mpr ⟨value, isValue⟩
      · exact induction areOthers other member

theorem length_filterMap_decimal
    {characters : List Char}
    (decimals : ∀ character ∈ characters,
      digits.isDecimal character = true) :
    (characters.filterMap digits.decimal).length = characters.length := by
  rw [List.length_filterMap_eq_countP]
  exact List.countP_eq_length.mpr decimals

/-- Reading digits from the left gives the number they denote. -/
theorem foldl_digits (values : List ℕ) :
    values.foldl (fun number digit => 10 * number + digit) 0 =
      Nat.ofDigits 10 values.reverse := by
  rw [Nat.ofDigits_eq_foldr, List.foldr_reverse]
  congr 1
  funext number digit
  exact add_comm _ _

/-- Decimal digits pass the guard. -/
theorem fullmatch_isDigit_of_isDecimal
    {text : String} (decimals : fullmatch digits.isDecimal text = true) :
    fullmatch digits.isDigit text = true := by
  rw [fullmatch_iff] at decimals ⊢
  refine ⟨decimals.1, fun character member => ?_⟩
  rcases Option.isSome_iff_exists.mp (decimals.2 character member) with
    ⟨value, isValue⟩
  exact digits.isDigit_of_decimal character value isValue

/-- What `int` makes of a text. -/
theorem int_eq (text : String) :
    digits.int text =
      if fullmatch digits.isDecimal text = true ∧
          digits.Converts text.toList.length then
        .ok
          (Nat.ofDigits 10 (text.toList.filterMap digits.decimal).reverse : ℕ)
      else .error (.library .valueError) := by
  rw [DigitRules.int]
  by_cases decimals : fullmatch digits.isDecimal text = true
  · rcases (fullmatch_iff _ _).mp decimals with ⟨nonempty, each⟩
    have count := length_filterMap_decimal each
    rw [mapM_decimal each]
    cases values : text.toList.filterMap digits.decimal with
    | nil =>
        rw [values] at count
        have empty := List.length_eq_zero_iff.mp count.symm
        exact absurd (String.toList_eq_nil_iff.mp empty) nonempty
    | cons value rest =>
        rw [values] at count
        simp only [count, decimals, true_and, foldl_digits]
  · rw [if_neg fun both => decimals both.1]
    cases converted : text.toList.mapM digits.decimal with
    | none => rfl
    | some values =>
        cases values with
        | nil => rfl
        | cons value rest =>
            refine absurd ((fullmatch_iff _ _).mpr ⟨?_, ?_⟩) decimals
            · rintro rfl
              cases converted
            · exact decimals_of_mapM converted

/-- What the function returns for a header, or that it raises. -/
theorem retryAfterSeconds_cases (value : Option String) :
    (digits.Convertible value ∧
        digits.retryAfterSeconds value = .ok (digits.denoted value)) ∨
      (¬ digits.Convertible value ∧
        digits.retryAfterSeconds value = .error (.library .valueError)) := by
  cases value with
  | none => exact Or.inl ⟨fun text equal => (by cases equal), rfl⟩
  | some text =>
      by_cases accepted : fullmatch digits.isDigit text = true
      · rw [retryAfterSeconds, if_pos accepted, int_eq]
        by_cases convertible :
            fullmatch digits.isDecimal text = true ∧
              digits.Converts text.toList.length
        · refine Or.inl ⟨?_, ?_⟩
          · rintro _ ⟨⟩ _
            exact convertible
          · rw [if_pos convertible, denoted, Option.bind_some,
              if_pos convertible.1]
            rfl
        · refine Or.inr ⟨fun each => ?_, ?_⟩
          · exact convertible (each text rfl accepted)
          · rw [if_neg convertible]
            rfl
      · refine Or.inl ⟨?_, ?_⟩
        · rintro _ ⟨⟩ other
          exact absurd other accepted
        · have noNumber : fullmatch digits.isDecimal text ≠ true :=
            fun decimals => accepted (fullmatch_isDigit_of_isDecimal decimals)
          rw [retryAfterSeconds, if_neg accepted, denoted, Option.bind_some,
            if_neg noNumber]

end DigitRules

/-! ## The loop with its header -/

section Loop

variable {Value Number : Type} (digits : DigitRules)
variable (rules : RetryRules Number) (policy : RetryPolicy Number)

/-- What the handler of a failure does before the next attempt. -/
def readAndSleep (attempt : ℕ) (retryAfter : Option String) :
    RetryProgram Value Number Unit := do
  let delay ←
    Program.ofOutcome
      ((digits.retryAfterSeconds retryAfter).mapError .other)
  match delay with
  | some delay => do
      let seconds ←
        Program.ofOutcome ((rules.floats.float delay).mapError .other)
      RetryProgram.sleepSeconds seconds
  | none => sleepDelay rules policy attempt

/-- The loop from an attempt on, with its own reading of headers. -/
def readingRetryFrom : ℕ → ℕ → RetryProgram Value Number Value
  | 0, _ =>
      .fail (.other ⟨.runtimeError, some "retry loop exhausted"⟩)
  | remaining + 1, attempt =>
      RetryProgram.operation.tryCatch fun error =>
        match error with
        | .response failure =>
            if shouldRequestHumanReview rules.unicode failure.body ||
                !shouldRetry (some failure.statusCode) false then
              .fail error
            else if attempt = policy.maxAttempts then .fail error
            else do
              readAndSleep digits rules policy attempt failure.retryAfter
              readingRetryFrom remaining (attempt + 1)
        | .connection _ =>
            if attempt = policy.maxAttempts then .fail error
            else do
              sleepDelay rules policy attempt
              readingRetryFrom remaining (attempt + 1)
        | .other _ => .fail error

/-- A call from its beginning, with its own reading of headers. -/
def readingRetryRun (stream : RetryStream Value Number) :
    Except RetryError Value × RetryState Number :=
  (readingRetryFrom digits rules policy policy.maxAttempts.toNat 1).run
    (retryHandler stream) {}

/-- The rules by which a header is the number it denotes. -/
def denotingRules : RetryRules Number :=
  { rules with retryAfterSeconds := digits.denoted }

/-- All failures of a service carry this header. -/
def Sends (header : Option String) (stream : RetryStream Value Number) :
    Prop :=
  ∀ attempt failure,
    stream.outcomes attempt = .error (.response failure) →
      failure.retryAfter = header

/--
A header is read as the number it denotes, if any, and a call whose failures
carry it ends with an outcome of the operation.
-/
structure HeaderHarmless (Value : Type) (header : Option String) : Prop where
  reads : digits.retryAfterSeconds header = .ok (digits.denoted header)
  ends : ∀ (policy : RetryPolicy Number) (stream : RetryStream Value Number),
    1 ≤ policy.maxAttempts → Sends header stream →
      ∃ attempt, 1 ≤ attempt ∧ attempt ≤ policy.maxAttempts.toNat ∧
        (readingRetryRun digits rules policy stream).1 =
          stream.outcomes attempt

/-- What is taken for a number can be converted, to a float as well. -/
def Representable (header : Option String) : Prop :=
  digits.Convertible header ∧
    ∀ delay, digits.denoted header = some delay →
      ∃ seconds, rules.floats.float delay = .ok seconds

variable {digits rules policy}

theorem readAndSleep_of_convertible
    {header : Option String} (convertible : digits.Convertible header)
    (attempt : ℕ) :
    (readAndSleep digits rules policy attempt header :
        RetryProgram Value Number Unit) =
      sleepAfter (denotingRules digits rules) policy attempt header := by
  have reads :
      digits.retryAfterSeconds header = .ok (digits.denoted header) := by
    rcases DigitRules.retryAfterSeconds_cases header with
      ⟨_, reads⟩ | ⟨unconvertible, _⟩
    · exact reads
    · exact absurd convertible unconvertible
  rw [readAndSleep, reads]
  rfl

/--
A call whose failures carry a convertible header runs as if the header were
the number it denotes.
-/
theorem run_readingRetryFrom
    {header : Option String} (convertible : digits.Convertible header)
    {stream : RetryStream Value Number} (sends : Sends header stream)
    (remaining attempt : ℕ) (state : RetryState Number) :
    (readingRetryFrom digits rules policy remaining attempt :
        RetryProgram Value Number Value).run (retryHandler stream) state =
      (retryFrom (denotingRules digits rules) policy remaining attempt).run
        (retryHandler stream) state := by
  induction remaining generalizing attempt state with
  | zero => rfl
  | succ remaining induction =>
      rw [readingRetryFrom, retryFrom, Program.run_tryCatch,
        Program.run_tryCatch, run_operation]
      cases outcome : stream.outcomes (state.calls + 1) with
      | ok value => rfl
      | error error =>
          cases error with
          | other error => rfl
          | connection error =>
              dsimp only
              split_ifs
              · rfl
              · rw [Program.run_bind, Program.run_bind, run_sleepDelay,
                  run_sleepDelay]
                exact induction _ _
          | response failure =>
              have sent := sends _ failure outcome
              dsimp only
              rw [sent, readAndSleep_of_convertible convertible]
              have unicode : (denotingRules digits rules).unicode =
                rules.unicode := rfl
              rw [unicode]
              split_ifs
              · rfl
              · rfl
              · rw [Program.run_bind, Program.run_bind]
                rcases (sleepAfter (denotingRules digits rules) policy attempt
                    header : RetryProgram Value Number Unit).run
                  (retryHandler stream) state.called with ⟨_ | _, after⟩
                · rfl
                · exact induction _ _

/-- The number of the header of a failure which carries one. -/
theorem headerSeconds_of_sends
    {header : Option String} {stream : RetryStream Value Number}
    (sends : Sends header stream) (attempt : ℕ) {delay : ℤ}
    (isDelay :
      headerSeconds (denotingRules digits rules) (stream.outcomes attempt) =
        some delay) :
    digits.denoted header = some delay := by
  cases outcome : stream.outcomes attempt with
  | ok value =>
      rw [outcome] at isDelay
      cases isDelay
  | error error =>
      rw [outcome] at isDelay
      cases error with
      | connection error => cases isDelay
      | other error => cases isDelay
      | response failure =>
          rw [← sends attempt failure outcome]
          exact isDelay

theorem stopAmong_le
    {stream : RetryStream Value Number} {attempts : List ℕ}
    (within : ∀ attempt ∈ attempts, attempt ≤ policy.maxAttempts.toNat) :
    stopAmong rules policy stream attempts ≤ policy.maxAttempts.toNat := by
  rw [stopAmong]
  cases found :
      attempts.find? fun attempt =>
        !retryable rules (stream.outcomes attempt) with
  | none => exact le_rfl
  | some attempt => exact within attempt (List.mem_of_find?_eq_some found)

/-- With representable headers a call ends with an outcome. -/
theorem headerHarmless_of_representable
    {header : Option String}
    (representable : Representable digits rules header) :
    HeaderHarmless digits rules Value header where
  reads := by
    rcases DigitRules.retryAfterSeconds_cases header with
      ⟨_, reads⟩ | ⟨unconvertible, _⟩
    · exact reads
    · exact absurd representable.1 unconvertible
  ends policy stream attempts sends := by
    have inRange : ∀ first last,
        HeadersInRange (denotingRules digits rules) stream first last :=
      fun _ _ attempt _ _ delay isDelay =>
        representable.2 delay (headerSeconds_of_sends sends attempt isDelay)
    have runs :
        readingRetryRun digits rules policy stream =
          retryRun (denotingRules digits rules) policy stream :=
      run_readingRetryFrom representable.1 sends _ _ _
    rcases retryRun_cases (denotingRules digits rules) stream attempts with
      ⟨_, last, before, ends⟩ | ⟨outOfRange, _⟩
    · refine
        ⟨stopAttempt (denotingRules digits rules) policy stream, ?_, ?_, ?_⟩
      · rw [← before.calls]
        exact Nat.le_add_left 1 _
      · refine stopAmong_le fun attempt member => ?_
        have within := (List.mem_range'_1.mp member).2
        omega
      · rw [runs, ends]
    · exact absurd (inRange _ _) outOfRange

/-- A service which is always full, and says when to come back. -/
def fullStream (random : Number) (header : Option String) :
    RetryStream Value Number where
  outcomes _ := .error (.response ⟨429, header, ""⟩)
  randomValues _ := random

/-- A full service is tried again. -/
theorem retryable_full
    (lowerEmpty : rules.unicode.lower [] = []) (header : Option String) :
    retryable rules
        (.error (.response ⟨429, header, ""⟩) : Except RetryError Value) =
      true := by
  have noReview : shouldRequestHumanReview rules.unicode "" = false := by
    rw [shouldRequestHumanReview, String.toList_empty, lowerEmpty]
    decide
  simp [retryable, noReview]

/-- A number which is too great for a float ends the first attempt. -/
theorem not_headerHarmless_of_overflow
    (lowerEmpty : rules.unicode.lower [] = []) {header : Option String}
    (convertible : digits.Convertible header) {delay : ℤ}
    (isDelay : digits.denoted header = some delay) {error : PyError}
    (raises : rules.floats.float delay = .error error) :
    ¬ HeaderHarmless digits rules Value header := by
  intro harmless
  rcases rules.floats.exists_rounded 0 le_rfl zero_le_one with ⟨zero, _⟩
  let policy : RetryPolicy Number := ⟨2, zero, zero⟩
  let stream : RetryStream Value Number := fullStream zero header
  have sends : Sends header stream := by
    rintro attempt failure ⟨⟩
    rfl
  have attempts : 1 ≤ policy.maxAttempts := one_le_two
  have notLast : ((1 : ℕ) : ℤ) ≠ policy.maxAttempts := by simp [policy]
  rcases harmless.ends policy stream attempts sends with ⟨attempt, _, _, ends⟩
  have runs :
      readingRetryRun digits rules policy stream =
        (retryFrom (denotingRules digits rules) policy (1 + 1) 1).run
          (retryHandler stream) {} :=
    run_readingRetryFrom convertible sends _ _ _
  have retried :
      retryable (denotingRules digits rules) (stream.outcomes 1) = true :=
    @retryable_full Value Number rules lowerEmpty header
  have asked :
      headerSeconds (denotingRules digits rules) (stream.outcomes 1) =
        some delay := isDelay
  have overflow :
      (denotingRules digits rules).floats.float delay = .error error := raises
  have first : ({} : RetryState Number).calls + 1 = 1 := rfl
  rw [runs, run_retryFrom_succ first, if_pos ⟨retried, notLast⟩,
    asked] at ends
  simp only [sleepOf, overflow, Except.map] at ends
  cases ends

/--
A header is harmless just if it is not taken for a number, or is a number of
decimal digits which can be converted to an integer and to a float.
-/
theorem headerHarmless_iff
    (lowerEmpty : rules.unicode.lower [] = []) (header : Option String) :
    HeaderHarmless digits rules Value header ↔
      Representable digits rules header := by
  constructor
  · intro harmless
    have convertible : digits.Convertible header := by
      rcases DigitRules.retryAfterSeconds_cases header with
        ⟨convertible, _⟩ | ⟨_, raises⟩
      · exact convertible
      · cases raises.symm.trans harmless.reads
    refine ⟨convertible, fun delay isDelay => ?_⟩
    cases rounded : rules.floats.float delay with
    | ok seconds => exact ⟨seconds, rfl⟩
    | error error =>
        exact absurd harmless
          (not_headerHarmless_of_overflow lowerEmpty convertible isDelay
            rounded)
  · exact headerHarmless_of_representable

end Loop

/-! ## Latin-1 -/

/-- The digits of Latin-1, three superscripts among them. -/
def latinDigits : DigitRules where
  isDigit character :=
    isAsciiDigit character ||
      [0xb2, 0xb3, 0xb9].contains character.toNat
  decimal character :=
    if isAsciiDigit character then some (character.toNat - 48) else none
  maxDigits := some 4300
  isDigit_of_decimal character value isValue := by
    split_ifs at isValue with ascii
    rw [ascii, Bool.true_or]
  decimal_lt character value isValue := by
    split_ifs at isValue with ascii
    simp only [isAsciiDigit, Bool.and_eq_true, decide_eq_true_eq] at ascii
    cases isValue
    omega

/-- The header of the tests is read as its number. -/
example : latinDigits.retryAfterSeconds (some "7") = .ok (some 7) := by decide

/-- A header of decimal digits is harmless. -/
theorem headerHarmless_seven :
    HeaderHarmless latinDigits demoRules ℕ (some "7") := by
  refine (headerHarmless_iff rfl (some "7")).mpr ⟨?_, ?_⟩
  · rintro _ ⟨⟩ _
    decide
  · intro delay isDelay
    have seven : latinDigits.denoted (some "7") = some 7 := by decide
    cases seven.symm.trans isDelay
    exact ⟨7, (boundedArithmetic_float 7).trans (if_pos (by decide +kernel))⟩

/-- A superscript passes the guard and cannot be converted. -/
theorem not_headerHarmless_superscript :
    ¬ HeaderHarmless latinDigits demoRules ℕ (some "²") := by
  intro harmless
  have raises :
      latinDigits.retryAfterSeconds (some "²") =
        .error (.library .valueError) := by decide
  cases raises.symm.trans harmless.reads

end MultisiteCrawler.Resilience
