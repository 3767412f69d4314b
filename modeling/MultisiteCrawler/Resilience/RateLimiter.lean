import Mathlib.Algebra.Order.Ring.Rat
import MultisiteCrawler.Foundation.KeyedRuns

/-!
# The fixed-window rate limiter

A source has a window, which begins with the first request it allows, and the
number of requests allowed in it.  The first request after the end of a window
begins the next one.  So a span as long as a window meets two windows at most,
and sees at most twice as many requests as a window allows.
-/

namespace MultisiteCrawler.Resilience

open Foundation.KeyedRuns

variable {Time : Type} [CommRing Time] [LinearOrder Time]

/-! ## The limiter -/

/-- `FixedWindowRateLimiter`. -/
structure FixedWindowRateLimiter (Time : Type) where
  maxRequests : ℕ
  windowSeconds : Time
  windows : String → Option (Time × ℕ)

namespace FixedWindowRateLimiter

/-- The window of a call and the number of requests allowed in it so far. -/
def currentWindow (limiter : FixedWindowRateLimiter Time)
    (sourceId : String) (now : Time) : Time × ℕ :=
  let (windowStart, count) := (limiter.windows sourceId).getD (now, 0)
  if limiter.windowSeconds ≤ now - windowStart then (now, 0)
  else (windowStart, count)

/-- `FixedWindowRateLimiter.allow`. -/
def allow (limiter : FixedWindowRateLimiter Time)
    (sourceId : String) (now : Time) : Bool × FixedWindowRateLimiter Time :=
  let (windowStart, count) := limiter.currentWindow sourceId now
  if limiter.maxRequests ≤ count then (false, limiter)
  else
    (true,
      { limiter with
        windows :=
          Function.update limiter.windows sourceId
            (some (windowStart, count + 1)) })

end FixedWindowRateLimiter

/-- The accepted constructor arguments. -/
structure RateSettings (Time : Type) [Zero Time] [LT Time] where
  maxRequests : ℕ
  windowSeconds : Time
  maxRequests_pos : 1 ≤ maxRequests
  windowSeconds_pos : 0 < windowSeconds

/-- A limiter without windows. -/
def RateSettings.limiter (settings : RateSettings Time) :
    FixedWindowRateLimiter Time :=
  ⟨settings.maxRequests, settings.windowSeconds, fun _ => none⟩

/-! ## Runs -/

/-- A call of `allow`. -/
structure RateCall (Time : Type) where
  sourceId : String
  now : Time

/-- When a call was made, the start of its window, and its answer. -/
structure RateVerdict (Time : Type) where
  time : Time
  windowStart : Time
  allowed : Bool
deriving DecidableEq

/-- The verdict on a call. -/
def FixedWindowRateLimiter.verdict
    (limiter : FixedWindowRateLimiter Time) (call : RateCall Time) :
    RateVerdict Time :=
  ⟨call.now, (limiter.currentWindow call.sourceId call.now).1,
    (limiter.allow call.sourceId call.now).1⟩

/-- A call changes the window of its source, if anything. -/
theorem allow_cases
    (limiter : FixedWindowRateLimiter Time) (sourceId : String)
    (now : Time) :
    ((limiter.allow sourceId now).1 = false ∧
        limiter.maxRequests ≤ (limiter.currentWindow sourceId now).2 ∧
        (limiter.allow sourceId now).2 = limiter) ∨
      ((limiter.allow sourceId now).1 = true ∧
        (limiter.currentWindow sourceId now).2 < limiter.maxRequests ∧
        (limiter.allow sourceId now).2 =
          { limiter with
            windows :=
              Function.update limiter.windows sourceId
                (some
                  ((limiter.currentWindow sourceId now).1,
                    (limiter.currentWindow sourceId now).2 + 1)) }) := by
  by_cases full :
      limiter.maxRequests ≤ (limiter.currentWindow sourceId now).2
  · have refused : limiter.allow sourceId now = (false, limiter) :=
      if_pos full
    rw [refused]
    exact Or.inl ⟨rfl, full, rfl⟩
  · have accepted :
        limiter.allow sourceId now =
          (true,
            { limiter with
              windows :=
                Function.update limiter.windows sourceId
                  (some
                    ((limiter.currentWindow sourceId now).1,
                      (limiter.currentWindow sourceId now).2 + 1)) }) :=
      if_neg full
    rw [accepted]
    exact Or.inr ⟨rfl, Nat.lt_of_not_le full, rfl⟩

/-- The limiter as a machine with a window for every source. -/
def rateMachine :
    KeyedMachine (FixedWindowRateLimiter Time) String (RateCall Time)
      (RateVerdict Time) (ℕ × Time × Option (Time × ℕ)) where
  key := RateCall.sourceId
  step limiter call :=
    ((limiter.allow call.sourceId call.now).2, limiter.verdict call)
  look limiter sourceId :=
    (limiter.maxRequests, limiter.windowSeconds, limiter.windows sourceId)
  look_step_of_ne limiter call other different := by
    rcases allow_cases limiter call.sourceId call.now with
      ⟨_, _, unchanged⟩ | ⟨_, _, changed⟩
    · rw [unchanged]
    · rw [changed]
      simp [different]
  step_congr limiter same call looks := by
    rw [Prod.mk.injEq, Prod.mk.injEq] at looks
    rcases looks with ⟨requests, seconds, windows⟩
    have sameWindow :
        limiter.currentWindow call.sourceId call.now =
          same.currentWindow call.sourceId call.now := by
      rw [FixedWindowRateLimiter.currentWindow,
        FixedWindowRateLimiter.currentWindow, seconds, windows]
    simp only [FixedWindowRateLimiter.verdict,
      FixedWindowRateLimiter.allow, sameWindow, requests]
    split_ifs <;> simp [requests, seconds, windows]

/-- The limiter after a sequence of calls. -/
def limiterAfter (settings : RateSettings Time)
    (calls : List (RateCall Time)) : FixedWindowRateLimiter Time :=
  rateMachine.after settings.limiter calls

/-- The verdicts on the calls for a source, in their order. -/
def verdicts (settings : RateSettings Time) (sourceId : String)
    (calls : List (RateCall Time)) : List (RateVerdict Time) :=
  rateMachine.answersAt sourceId settings.limiter calls

/-- How many requests were allowed in the window with this start. -/
def allowedInWindow (verdicts : List (RateVerdict Time))
    (windowStart : Time) : ℕ :=
  verdicts.countP fun verdict =>
    verdict.allowed && decide (verdict.windowStart = windowStart)

/-- How many requests were allowed from one time on and before another. -/
def allowedBetween (verdicts : List (RateVerdict Time))
    (first last : Time) : ℕ :=
  verdicts.countP fun verdict =>
    verdict.allowed &&
      decide (first ≤ verdict.time ∧ verdict.time < last)

/-- The requests for a source are limited, and not more than necessary. -/
structure LimitsRate (settings : RateSettings Time)
    (sourceId : String) (calls : List (RateCall Time)) : Prop where
  span : ∀ first,
    allowedBetween (verdicts settings sourceId calls)
        first (first + settings.windowSeconds) ≤
      2 * settings.maxRequests
  inside : ∀ verdict ∈ verdicts settings sourceId calls,
    verdict.windowStart ≤ verdict.time ∧
      verdict.time < verdict.windowStart + settings.windowSeconds
  apart : (verdicts settings sourceId calls).Pairwise fun earlier later =>
    later.windowStart = earlier.windowStart ∨
      earlier.windowStart + settings.windowSeconds ≤ later.windowStart
  perWindow : ∀ windowStart,
    allowedInWindow (verdicts settings sourceId calls) windowStart ≤
      settings.maxRequests
  denied : ∀ before verdict after,
    verdicts settings sourceId calls = before ++ verdict :: after →
      (verdict.allowed = false ↔
        allowedInWindow before verdict.windowStart = settings.maxRequests)
  independent :
    verdicts settings sourceId calls =
      verdicts settings sourceId
        (calls.filter fun call => decide (call.sourceId = sourceId))

/-! ## Counting -/

omit [CommRing Time] in
theorem allowedInWindow_concat
    (history : List (RateVerdict Time)) (verdict : RateVerdict Time)
    (windowStart : Time) :
    allowedInWindow (history ++ [verdict]) windowStart =
      allowedInWindow history windowStart +
        if verdict.allowed = true ∧ verdict.windowStart = windowStart then 1
        else 0 := by
  rw [allowedInWindow, List.countP_append, List.countP_singleton,
    allowedInWindow]
  simp

omit [CommRing Time] in
/-- Nothing was allowed in a window to which no verdict belongs. -/
theorem allowedInWindow_eq_zero
    {history : List (RateVerdict Time)} {windowStart : Time}
    (others : ∀ verdict ∈ history, verdict.windowStart ≠ windowStart) :
    allowedInWindow history windowStart = 0 := by
  rw [allowedInWindow, List.countP_eq_zero]
  intro verdict member
  simp [others verdict member]

/-! ## What the stored window tells -/

variable {settings : RateSettings Time} {sourceId : String}

variable (settings) in
/-- The stored window of a source, and the verdicts so far. -/
structure WindowOf (history : List (RateVerdict Time))
    (windowStart : Time) (count : ℕ) : Prop where
  counted : count = allowedInWindow history windowStart
  atMost : count ≤ settings.maxRequests
  earlier : ∀ verdict ∈ history,
    verdict.windowStart = windowStart ∨
      verdict.windowStart + settings.windowSeconds ≤ windowStart

variable (settings) in
/-- What is stored for a source agrees with the verdicts so far. -/
structure StoredWindow (history : List (RateVerdict Time))
    (window : Option (Time × ℕ)) : Prop where
  unused : window = none → history = []
  current : ∀ windowStart count, window = some (windowStart, count) →
    WindowOf settings history windowStart count ∧
      ∃ verdict ∈ history, verdict.time = windowStart

variable (settings) in
/-- The verdicts so far belong to windows which are not exceeded. -/
structure RateHistory (history : List (RateVerdict Time)) : Prop where
  inside : ∀ verdict ∈ history,
    verdict.windowStart ≤ verdict.time ∧
      verdict.time < verdict.windowStart + settings.windowSeconds
  apart : history.Pairwise fun earlier later =>
    later.windowStart = earlier.windowStart ∨
      earlier.windowStart + settings.windowSeconds ≤ later.windowStart
  perWindow : ∀ windowStart,
    allowedInWindow history windowStart ≤ settings.maxRequests
  denied : ∀ before verdict after,
    history = before ++ verdict :: after →
      (verdict.allowed = false ↔
        allowedInWindow before verdict.windowStart = settings.maxRequests)

/-- The window of a call which is counted already is the stored one. -/
theorem stored_of_currentWindow
    {limiter : FixedWindowRateLimiter Time} {now : Time}
    (counted : (limiter.currentWindow sourceId now).2 ≠ 0) :
    limiter.windows sourceId =
      some (limiter.currentWindow sourceId now) := by
  rw [FixedWindowRateLimiter.currentWindow] at counted ⊢
  cases stored : limiter.windows sourceId with
  | none =>
      rw [stored] at counted
      dsimp only [Option.getD_none] at counted
      split_ifs at counted <;> exact absurd rfl counted
  | some window =>
      rw [stored] at counted
      dsimp only [Option.getD_some] at counted ⊢
      split_ifs at counted with ended
      · exact absurd rfl counted
      · rw [if_neg ended]

/-- A verdict on a call keeps the windows of the verdicts so far. -/
theorem RateHistory.concat
    {history : List (RateVerdict Time)}
    (kept : RateHistory settings history) {verdict : RateVerdict Time}
    {count : ℕ} (window : WindowOf settings history verdict.windowStart count)
    (begun : verdict.windowStart ≤ verdict.time)
    (soon : verdict.time < verdict.windowStart + settings.windowSeconds)
    (answer : verdict.allowed = decide (count < settings.maxRequests)) :
    RateHistory settings (history ++ [verdict]) := by
  constructor
  case inside =>
    intro other member
    rcases List.mem_append.mp member with member | member
    · exact kept.inside other member
    · rw [List.mem_singleton.mp member]
      exact ⟨begun, soon⟩
  case apart =>
    refine List.pairwise_append.mpr
      ⟨kept.apart, List.pairwise_singleton _ _, ?_⟩
    intro earlier member later isLast
    rw [List.mem_singleton.mp isLast]
    exact (window.earlier earlier member).imp_left Eq.symm
  case perWindow =>
    intro windowStart
    rw [allowedInWindow_concat]
    split_ifs with counted
    · rcases counted with ⟨allowed, rfl⟩
      rw [← window.counted]
      rw [answer] at allowed
      exact of_decide_eq_true allowed
    · exact kept.perWindow windowStart
  case denied =>
    intro before other after split
    rcases after.eq_nil_or_concat with rfl | ⟨earlier, last, rfl⟩
    · rcases List.append_inj' split rfl with ⟨rfl, isLast⟩
      cases isLast
      have atMost := window.atMost
      rw [answer, ← window.counted, decide_eq_false_iff_not, not_lt]
      exact ⟨fun full => le_antisymm atMost full, fun full => full.ge⟩
    · rw [List.concat_eq_append, ← List.cons_append,
        ← List.append_assoc] at split
      exact kept.denied before other earlier
        (List.append_inj_left' split rfl)

/-- A verdict on a call is counted in the stored window if it allows it. -/
theorem StoredWindow.concat
    {history : List (RateVerdict Time)} {verdict : RateVerdict Time}
    {count : ℕ} (window : WindowOf settings history verdict.windowStart count)
    (anchored :
      verdict.time = verdict.windowStart ∨
        ∃ earlier ∈ history, earlier.time = verdict.windowStart)
    (answer : verdict.allowed = decide (count < settings.maxRequests)) :
    StoredWindow settings (history ++ [verdict])
      (some (verdict.windowStart,
        count + if verdict.allowed = true then 1 else 0)) := by
  constructor
  case unused => exact fun absent => by cases absent
  case current =>
    rintro _ _ ⟨rfl, rfl⟩
    refine ⟨⟨?_, ?_, ?_⟩, ?_⟩
    · rw [allowedInWindow_concat, ← window.counted]
      simp
    · rw [answer]
      have atMost := window.atMost
      split_ifs with few
      · exact of_decide_eq_true few
      · exact atMost
    · intro other member
      rcases List.mem_append.mp member with member | member
      · exact window.earlier other member
      · exact Or.inl (congrArg _ (List.mem_singleton.mp member))
    · rcases anchored with first | ⟨earlier, member, first⟩
      · exact ⟨verdict, List.mem_concat_self, first⟩
      · exact ⟨earlier, List.mem_append_left _ member, first⟩

/-! ## Runs -/

theorem limiterAfter_concat
    (settings : RateSettings Time) (calls : List (RateCall Time))
    (call : RateCall Time) :
    limiterAfter settings (calls ++ [call]) =
      ((limiterAfter settings calls).allow call.sourceId call.now).2 :=
  rateMachine.after_concat _ calls call

theorem verdicts_concat
    (settings : RateSettings Time) (sourceId : String)
    (calls : List (RateCall Time)) (call : RateCall Time) :
    verdicts settings sourceId (calls ++ [call]) =
      verdicts settings sourceId calls ++
        if call.sourceId = sourceId then
          [(limiterAfter settings calls).verdict call]
        else [] :=
  rateMachine.answersAt_concat sourceId _ calls call

theorem limiterAfter_settings
    (settings : RateSettings Time) (calls : List (RateCall Time)) :
    (limiterAfter settings calls).maxRequests = settings.maxRequests ∧
      (limiterAfter settings calls).windowSeconds =
        settings.windowSeconds := by
  induction calls using List.reverseRecOn with
  | nil => exact ⟨rfl, rfl⟩
  | append_singleton calls call induction =>
      rw [limiterAfter_concat]
      rcases allow_cases (limiterAfter settings calls) call.sourceId
          call.now with ⟨_, _, unchanged⟩ | ⟨_, _, changed⟩
      · rw [unchanged]
        exact induction
      · rw [changed]
        exact induction

/-- What is stored for a source after one more call for it. -/
theorem windows_allow
    (limiter : FixedWindowRateLimiter Time) (sourceId : String) (now : Time)
    (positive : 1 ≤ limiter.maxRequests) :
    (limiter.allow sourceId now).2.windows sourceId =
        some ((limiter.currentWindow sourceId now).1,
          (limiter.currentWindow sourceId now).2 +
            if (limiter.allow sourceId now).1 = true then 1 else 0) ∧
      (limiter.allow sourceId now).1 =
        decide ((limiter.currentWindow sourceId now).2 <
          limiter.maxRequests) := by
  rcases allow_cases limiter sourceId now with
    ⟨refused, full, unchanged⟩ | ⟨accepted, few, changed⟩
  · rw [refused, unchanged]
    refine ⟨?_, (decide_eq_false (not_lt.mpr full)).symm⟩
    exact stored_of_currentWindow
      (Nat.ne_of_gt (lt_of_lt_of_le positive full))
  · rw [accepted, changed]
    exact ⟨Function.update_self _ _ _, (decide_eq_true few).symm⟩

theorem exists_call_of_mem_verdicts
    {settings : RateSettings Time} {sourceId : String}
    {calls : List (RateCall Time)} {verdict : RateVerdict Time}
    (member : verdict ∈ verdicts settings sourceId calls) :
    ∃ call ∈ calls, call.now = verdict.time := by
  induction calls using List.reverseRecOn with
  | nil => cases member
  | append_singleton calls call induction =>
      rw [verdicts_concat, List.mem_append] at member
      rcases member with member | member
      · rcases induction member with ⟨earlier, member, time⟩
        exact ⟨earlier, List.mem_append_left _ member, time⟩
      · split_ifs at member
        · rw [List.mem_singleton.mp member]
          exact ⟨call, List.mem_concat_self, rfl⟩
        · cases member

section Ordered

variable [IsStrictOrderedRing Time]

/-- The window of a call at or after all verdicts so far. -/
theorem windowOf_currentWindow
    {limiter : FixedWindowRateLimiter Time}
    (seconds : limiter.windowSeconds = settings.windowSeconds)
    {history : List (RateVerdict Time)}
    (stored : StoredWindow settings history (limiter.windows sourceId))
    {now : Time} (latest : ∀ verdict ∈ history, verdict.time ≤ now) :
    WindowOf settings history (limiter.currentWindow sourceId now).1
        (limiter.currentWindow sourceId now).2 ∧
      (limiter.currentWindow sourceId now).1 ≤ now ∧
      now <
        (limiter.currentWindow sourceId now).1 + settings.windowSeconds ∧
      (now = (limiter.currentWindow sourceId now).1 ∨
        ∃ earlier ∈ history,
          earlier.time = (limiter.currentWindow sourceId now).1) := by
  have positive := settings.windowSeconds_pos
  have soon : now < now + settings.windowSeconds :=
    lt_add_of_pos_right now positive
  rw [FixedWindowRateLimiter.currentWindow]
  cases window : limiter.windows sourceId with
  | none =>
      have noHistory := stored.unused window
      subst noHistory
      dsimp only [Option.getD_none]
      rw [ite_self]
      refine ⟨⟨rfl, Nat.zero_le _, fun verdict member => ?_⟩, le_rfl, soon,
        Or.inl rfl⟩
      cases member
  | some pair =>
      rcases pair with ⟨windowStart, count⟩
      rcases stored.current windowStart count window with
        ⟨windowOf, first, member, anchored⟩
      have begun : windowStart ≤ now := anchored ▸ latest first member
      dsimp only [Option.getD_some]
      rw [seconds]
      split_ifs with ended
      · have next : windowStart + settings.windowSeconds ≤ now := by linarith
        have before : ∀ verdict ∈ history,
            verdict.windowStart + settings.windowSeconds ≤ now := by
          intro verdict member
          rcases windowOf.earlier verdict member with same | apart
          · exact same ▸ next
          · exact apart.trans begun
        refine ⟨⟨?_, Nat.zero_le _, fun verdict member => ?_⟩, le_rfl, soon,
          Or.inl rfl⟩
        · refine (allowedInWindow_eq_zero fun verdict member => ?_).symm
          exact (lt_of_lt_of_le (lt_add_of_pos_right _ positive)
            (before verdict member)).ne
        · exact Or.inr (before verdict member)
      · exact ⟨windowOf, begun, by linarith,
          Or.inr ⟨first, member, anchored⟩⟩

/-- In every run the stored window tells what was allowed in it. -/
theorem rateHistory_verdicts
    (settings : RateSettings Time) (sourceId : String)
    {calls : List (RateCall Time)}
    (sorted : calls.Pairwise fun earlier later => earlier.now ≤ later.now) :
    StoredWindow settings (verdicts settings sourceId calls)
        ((limiterAfter settings calls).windows sourceId) ∧
      RateHistory settings (verdicts settings sourceId calls) := by
  induction calls using List.reverseRecOn with
  | nil =>
      refine ⟨⟨fun _ => rfl, fun _ _ stored => ?_⟩,
        ⟨fun _ member => ?_, List.Pairwise.nil, fun _ => Nat.zero_le _,
          fun before verdict after split => ?_⟩⟩
      · cases stored
      · cases member
      · have member : verdict ∈ verdicts settings sourceId [] := by
          rw [split]
          exact List.mem_append_right _ List.mem_cons_self
        cases member
  | append_singleton calls call induction =>
      rcases List.pairwise_append.mp sorted with ⟨sorted, _, before⟩
      rcases induction sorted with ⟨stored, history⟩
      rw [limiterAfter_concat, verdicts_concat]
      by_cases same : call.sourceId = sourceId
      · subst same
        rw [if_pos rfl]
        rcases limiterAfter_settings settings calls with ⟨requests, seconds⟩
        have latest : ∀ verdict ∈ verdicts settings call.sourceId calls,
            verdict.time ≤ call.now := by
          intro verdict member
          rcases exists_call_of_mem_verdicts member with
            ⟨earlier, member, time⟩
          exact time ▸ before earlier member call List.mem_cons_self
        rcases windowOf_currentWindow seconds stored latest with
          ⟨window, begun, soon, anchored⟩
        rcases windows_allow (limiterAfter settings calls) call.sourceId
            call.now (requests ▸ settings.maxRequests_pos) with
          ⟨changed, answer⟩
        rw [requests] at answer
        refine ⟨?_, history.concat window begun soon answer⟩
        rw [changed]
        exact StoredWindow.concat window anchored answer
      · have unchanged :
            ((limiterAfter settings calls).allow call.sourceId
                call.now).2.windows sourceId =
              (limiterAfter settings calls).windows sourceId :=
          congrArg (fun looked => looked.2.2)
            (rateMachine.look_step_of_ne (limiterAfter settings calls) call
              sourceId (Ne.symm same))
        rw [if_neg same, List.append_nil, unchanged]
        exact ⟨stored, history⟩

/-! ## Spans -/

variable (settings) in
/-- Two verdicts belong to one window, or to windows which do not meet. -/
def OneOrApart (verdict other : RateVerdict Time) : Prop :=
  verdict.windowStart = other.windowStart ∨
    verdict.windowStart + settings.windowSeconds ≤ other.windowStart ∨
    other.windowStart + settings.windowSeconds ≤ verdict.windowStart

omit [IsStrictOrderedRing Time] in
theorem RateHistory.oneOrApart
    {history : List (RateVerdict Time)}
    (kept : RateHistory settings history) {verdict other : RateVerdict Time}
    (member : verdict ∈ history) (otherMember : other ∈ history) :
    OneOrApart settings verdict other := by
  have forward : history.Pairwise (OneOrApart settings) :=
    kept.apart.imp fun later => later.imp Eq.symm Or.inl
  have backward : history.Pairwise (flip (OneOrApart settings)) :=
    kept.apart.imp fun later => later.imp id Or.inr
  have itself : ∀ verdict ∈ history, OneOrApart settings verdict verdict :=
    fun _ _ => Or.inl rfl
  exact List.Pairwise.forall_of_forall_of_flip itself forward backward member
    otherMember

omit [CommRing Time] [IsStrictOrderedRing Time] in
/-- What is allowed in a span which meets two windows at most. -/
theorem allowedBetween_le
    {history : List (RateVerdict Time)} {first last one two : Time}
    (meets : ∀ verdict ∈ history, first ≤ verdict.time →
      verdict.time < last →
        verdict.windowStart = one ∨ verdict.windowStart = two) :
    allowedBetween history first last ≤
      allowedInWindow history one + allowedInWindow history two := by
  rw [allowedBetween, allowedInWindow, allowedInWindow,
    List.countP_eq_countP_filter_add history _
      fun verdict => decide (verdict.windowStart = one),
    List.countP_filter, List.countP_filter]
  refine add_le_add (List.countP_mono_left fun verdict member counted => ?_)
    (List.countP_mono_left fun verdict member counted => ?_)
  · simp only [Bool.and_eq_true, decide_eq_true_eq] at counted ⊢
    exact ⟨counted.1.1, counted.2⟩
  · simp only [Bool.and_eq_true, decide_eq_true_eq, Bool.not_eq_true',
      decide_eq_false_iff_not] at counted ⊢
    rcases counted with ⟨⟨allowed, begun, soon⟩, different⟩
    exact ⟨allowed, (meets verdict member begun soon).resolve_left different⟩

/-- A span as long as a window meets two windows at most. -/
theorem RateHistory.exists_two
    {history : List (RateVerdict Time)}
    (kept : RateHistory settings history) (first : Time) :
    ∃ one two, ∀ verdict ∈ history, first ≤ verdict.time →
      verdict.time < first + settings.windowSeconds →
        verdict.windowStart = one ∨ verdict.windowStart = two := by
  by_cases empty :
      ∀ verdict ∈ history, first ≤ verdict.time →
        ¬verdict.time < first + settings.windowSeconds
  · exact ⟨first, first, fun verdict member begun soon =>
      absurd soon (empty verdict member begun)⟩
  · push Not at empty
    rcases empty with ⟨one, oneMember, oneBegun, oneSoon⟩
    by_cases single :
        ∀ verdict ∈ history, first ≤ verdict.time →
          verdict.time < first + settings.windowSeconds →
            verdict.windowStart = one.windowStart
    · exact ⟨one.windowStart, one.windowStart,
        fun verdict member begun soon =>
          Or.inl (single verdict member begun soon)⟩
    · push Not at single
      rcases single with ⟨two, twoMember, twoBegun, twoSoon, different⟩
      refine ⟨one.windowStart, two.windowStart,
        fun verdict member begun soon => ?_⟩
      have insideOne := kept.inside one oneMember
      have insideTwo := kept.inside two twoMember
      have inside := kept.inside verdict member
      -- of three windows one would end before another begins
      rcases kept.oneOrApart member oneMember with same | fromOne
      · exact Or.inl same
      rcases kept.oneOrApart member twoMember with same | fromTwo
      · exact Or.inr same
      rcases kept.oneOrApart twoMember oneMember with same | between
      · exact absurd same different
      exfalso
      rcases fromOne with order | order <;>
        rcases fromTwo with order' | order' <;>
          rcases between with order'' | order'' <;>
            linarith

/-- The requests allowed in a span as long as a window. -/
theorem RateHistory.span
    {history : List (RateVerdict Time)}
    (kept : RateHistory settings history) (first : Time) :
    allowedBetween history first (first + settings.windowSeconds) ≤
      2 * settings.maxRequests := by
  rcases kept.exists_two first with ⟨one, two, meets⟩
  refine (allowedBetween_le meets).trans ?_
  have inOne := kept.perWindow one
  have inTwo := kept.perWindow two
  omega

/-- The limiter limits the requests for every source as it should. -/
theorem limitsRate
    (settings : RateSettings Time) {calls : List (RateCall Time)}
    (sorted : calls.Pairwise fun earlier later => earlier.now ≤ later.now)
    (sourceId : String) :
    LimitsRate settings sourceId calls := by
  have kept := (rateHistory_verdicts settings sourceId sorted).2
  exact
    { span := kept.span
      inside := kept.inside
      apart := kept.apart
      perWindow := kept.perWindow
      denied := kept.denied
      independent := rateMachine.answersAt_filter sourceId _ calls }

end Ordered

/-- One request in a minute. -/
def demoRate : RateSettings ℚ := ⟨1, 60, le_rfl, by norm_num⟩

/-- The second of three requests is denied. -/
theorem limitsRate_threeCalls :
    verdicts demoRate "demo" [⟨"demo", 0⟩, ⟨"demo", 59⟩, ⟨"demo", 60⟩] =
        [⟨0, 0, true⟩, ⟨59, 0, false⟩, ⟨60, 60, true⟩] ∧
      LimitsRate demoRate "demo"
        [⟨"demo", 0⟩, ⟨"demo", 59⟩, ⟨"demo", 60⟩] := by
  refine ⟨by decide +kernel, limitsRate demoRate ?_ "demo"⟩
  norm_num

end MultisiteCrawler.Resilience
