import MultisiteCrawler.Alerts.Evaluator

/-!
# Alert transitions

Any number of calls for any sources share a store which is empty at first.  For
every source and rule, the events which are returned alternate and follow the
condition of the rule as the calls for the source see it.
-/

namespace MultisiteCrawler.Alerts

open Foundation.AwareTime
open Foundation.CivilTime
open Foundation.Interaction
open Foundation.PythonErrors
open Observability

/-! ## Calls for a source -/

section Calls

variable {Ratio : Type} {sourceId : String} {call : AlertCall Ratio}

/-- The calls for a source. -/
def callsFor (sourceId : String) (calls : List (AlertCall Ratio)) :
    List (AlertCall Ratio) :=
  calls.filter fun call => decide (call.sourceId = sourceId)

theorem callsFor_concat_same
    (same : call.sourceId = sourceId) (calls : List (AlertCall Ratio)) :
    callsFor sourceId (calls ++ [call]) =
      callsFor sourceId calls ++ [call] := by
  rw [callsFor, List.filter_append, List.filter_singleton,
    decide_eq_true same]
  rfl

theorem callsFor_concat_other
    (different : call.sourceId ≠ sourceId) (calls : List (AlertCall Ratio)) :
    callsFor sourceId (calls ++ [call]) = callsFor sourceId calls := by
  rw [callsFor, List.filter_append, List.filter_singleton,
    decide_eq_false different]
  exact List.append_nil _

end Calls

/-! ## Calls, one after the other -/

section Transitions

variable {Ratio : Type} [LE Ratio] [DecidableLE Ratio]

/-- The outcomes of calls so far, and the store. -/
abbrev Evaluations :=
  List (Except PyError (List AlertEvent)) × AlertStore

/-- One more call. -/
def evaluateNext (thresholds : AlertThresholds Ratio)
    (evaluations : Evaluations) (call : AlertCall Ratio) : Evaluations :=
  let evaluated := (evaluate thresholds call).run reliable evaluations.2
  (evaluations.1 ++ [evaluated.1], evaluated.2)

/--
Calls on a store which is empty at first.  They may be made through several
evaluators with the same thresholds, as an evaluator has no other state.
-/
def evaluateAll (thresholds : AlertThresholds Ratio)
    (calls : List (AlertCall Ratio)) : Evaluations :=
  calls.foldl (evaluateNext thresholds) ([], fun _ => none)

variable (thresholds : AlertThresholds Ratio)

theorem evaluateAll_concat
    (calls : List (AlertCall Ratio)) (call : AlertCall Ratio) :
    evaluateAll thresholds (calls ++ [call]) =
      evaluateNext thresholds (evaluateAll thresholds calls) call :=
  List.foldl_concat _ _ _ _

/-- Every call has an outcome. -/
theorem length_evaluateAll (calls : List (AlertCall Ratio)) :
    (evaluateAll thresholds calls).1.length = calls.length := by
  induction calls using List.reverseRecOn with
  | nil => rfl
  | append_singleton calls call induction =>
      rw [evaluateAll_concat, evaluateNext, List.length_append, induction,
        List.length_append]
      rfl

/-- Later calls do not change the outcome of a call. -/
theorem getElem?_evaluateAll
    (before : List (AlertCall Ratio)) (call : AlertCall Ratio)
    (after : List (AlertCall Ratio)) :
    (evaluateAll thresholds (before ++ call :: after)).1[before.length]? =
      some
        ((evaluate thresholds call).run reliable
          (evaluateAll thresholds before).2).1 := by
  induction after using List.reverseRecOn with
  | nil =>
      rw [evaluateAll_concat, evaluateNext]
      have isLast := length_evaluateAll thresholds before
      rw [← isLast, List.getElem?_concat_length]
  | append_singleton after last induction =>
      have isEarlier :
          before.length <
            (evaluateAll thresholds (before ++ call :: after)).1.length := by
        rw [length_evaluateAll, List.length_append, List.length_cons]
        omega
      rw [← List.cons_append, ← List.append_assoc, evaluateAll_concat,
        evaluateNext, List.getElem?_append_left isEarlier]
      exact induction

/-! ## The condition which was seen last -/

/-- The condition of a rule at the last call for a source, at first false. -/
def lastCondition (sourceId : String) (rule : AlertRule)
    (calls : List (AlertCall Ratio)) : Bool :=
  match (callsFor sourceId calls).getLast? with
  | some call => condition thresholds call.scenario rule
  | none => false

theorem lastCondition_concat
    (sourceId : String) (rule : AlertRule)
    (calls : List (AlertCall Ratio)) (call : AlertCall Ratio) :
    lastCondition thresholds sourceId rule (calls ++ [call]) =
      if call.sourceId = sourceId then
        condition thresholds call.scenario rule
      else lastCondition thresholds sourceId rule calls := by
  unfold lastCondition
  split_ifs with same
  · rw [callsFor_concat_same same, List.getLast?_concat]
  · rw [callsFor_concat_other same]

end Transitions

/-! ## Transitions of one rule -/

/-- The state which a condition leads to. -/
def AlertState.of : Bool → AlertState
  | true => .active
  | false => .resolved

/-- The stored state tells whether the condition held. -/
def Remembers (previous : Option String) (held : Bool) : Prop :=
  previous = some AlertState.active.value ↔ held = true

theorem resolved_ne_active :
    some AlertState.resolved.value ≠ some AlertState.active.value := by
  decide

theorem remembers_none : Remembers none false := by
  constructor
  · rintro ⟨⟩
  · rintro ⟨⟩

/-- There is a transition exactly if the condition has changed. -/
theorem transition_eq
    {previous : Option String} {held : Bool}
    (remembers : Remembers previous held) (isActive : Bool) :
    transition previous isActive =
      if isActive = held then none else some (AlertState.of isActive) := by
  cases held with
  | true =>
      rw [remembers.mpr rfl]
      cases isActive <;> rfl
  | false =>
      have different : previous ≠ some AlertState.active.value := by
        intro same
        cases remembers.mp same
      have isOther : (previous == some AlertState.active.value) = false :=
        beq_eq_false_iff_ne.mpr different
      unfold transition
      rw [bne, isOther]
      cases isActive <;> rfl

/-- Afterwards the stored state tells whether the condition holds. -/
theorem remembers_stored
    {previous : Option String} {held : Bool}
    (remembers : Remembers previous held) (isActive : Bool) :
    Remembers (stored previous isActive) isActive := by
  unfold stored
  rw [transition_eq remembers]
  split_ifs with same
  · rw [same]
    exact remembers
  · cases isActive with
    | true => exact iff_of_true rfl rfl
    | false => exact iff_of_false resolved_ne_active Bool.false_ne_true

/-! ## All transitions of one rule -/

section Alternation

variable {Ratio : Type} [LE Ratio] [DecidableLE Ratio]
variable (thresholds : AlertThresholds Ratio)
variable {sourceId : String}

/-- The events which calls have returned for a source and a rule. -/
def returnedEvents (sourceId : String) (rule : AlertRule)
    (evaluations : Evaluations) : List AlertEvent :=
  evaluations.1.flatMap (eventsFor sourceId rule)

/-- Their states. -/
def returnedStates (sourceId : String) (rule : AlertRule)
    (evaluations : Evaluations) : List AlertState :=
  (returnedEvents sourceId rule evaluations).map AlertEvent.state

/-- The stored states of a source tell which conditions were seen last. -/
theorem remembers_evaluateAll
    (accepted : matchesSourceId sourceId = true) (rule : AlertRule)
    (calls : List (AlertCall Ratio)) :
    Remembers
      ((evaluateAll thresholds calls).2 (alertKey sourceId rule))
      (lastCondition thresholds sourceId rule calls) := by
  induction calls using List.reverseRecOn with
  | nil => exact remembers_none
  | append_singleton calls call induction =>
      rw [evaluateAll_concat, evaluateNext, lastCondition_concat]
      by_cases same : call.sourceId = sourceId
      · subst same
        rcases evaluate_same thresholds accepted rule
            (evaluateAll thresholds calls).2 with
          ⟨events, after, outcome, _, changed⟩
        rw [if_pos rfl, outcome]
        show Remembers (after _) _
        rw [changed]
        exact remembers_stored induction _
      · rw [if_neg same]
        have unchanged :=
          (evaluate_other thresholds accepted same rule
            (evaluateAll thresholds calls).2).2
        rw [unchanged]
        exact induction

/-- The transition of a call, seen from a source and a rule. -/
def change (sourceId : String) (rule : AlertRule)
    (before : List (AlertCall Ratio)) (call : AlertCall Ratio) :
    List AlertState :=
  if call.sourceId = sourceId ∧
      condition thresholds call.scenario rule ≠
        lastCondition thresholds sourceId rule before then
    [AlertState.of (condition thresholds call.scenario rule)]
  else []

/-- A call returns an event exactly if the condition has changed. -/
theorem states_eventsFor
    (accepted : matchesSourceId sourceId = true) (rule : AlertRule)
    (calls : List (AlertCall Ratio)) (call : AlertCall Ratio) :
    (eventsFor sourceId rule
        ((evaluate thresholds call).run reliable
          (evaluateAll thresholds calls).2).1).map AlertEvent.state =
      change thresholds sourceId rule calls call := by
  unfold change
  by_cases same : call.sourceId = sourceId
  · subst same
    rcases evaluate_same thresholds accepted rule
        (evaluateAll thresholds calls).2 with
      ⟨events, after, outcome, isEvents, _⟩
    have remembers := remembers_evaluateAll thresholds accepted rule calls
    rw [outcome, isEvents, eventsOf, transition_eq remembers]
    by_cases unchanged :
        condition thresholds call.scenario rule =
          lastCondition thresholds call.sourceId rule calls
    · rw [if_pos unchanged, if_neg fun changed => changed.2 unchanged]
      rfl
    · rw [if_neg unchanged, if_pos ⟨rfl, unchanged⟩]
      rfl
  · rw [(evaluate_other thresholds accepted same rule _).1,
      if_neg fun changed => same changed.1]
    rfl

theorem returnedEvents_concat
    (rule : AlertRule) (calls : List (AlertCall Ratio))
    (call : AlertCall Ratio) :
    returnedEvents sourceId rule (evaluateAll thresholds (calls ++ [call])) =
      returnedEvents sourceId rule (evaluateAll thresholds calls) ++
        eventsFor sourceId rule
          ((evaluate thresholds call).run reliable
            (evaluateAll thresholds calls).2).1 := by
  rw [evaluateAll_concat, evaluateNext, returnedEvents, List.flatMap_append,
    List.flatMap_singleton]
  rfl

theorem returnedStates_concat
    (accepted : matchesSourceId sourceId = true) (rule : AlertRule)
    (calls : List (AlertCall Ratio)) (call : AlertCall Ratio) :
    returnedStates sourceId rule (evaluateAll thresholds (calls ++ [call])) =
      returnedStates sourceId rule (evaluateAll thresholds calls) ++
        change thresholds sourceId rule calls call := by
  rw [← states_eventsFor thresholds accepted, returnedStates,
    returnedEvents_concat, List.map_append]
  rfl

/-- States which begin with active and alternate, up to a condition. -/
structure Alternates (states : List AlertState) (held : Bool) : Prop where
  chain : (AlertState.resolved :: states).IsChain (· ≠ ·)
  last : (AlertState.resolved :: states).getLast? = some (AlertState.of held)
  count : states.count .active =
    states.count .resolved + if held then 1 else 0

theorem alternates_nil : Alternates [] false :=
  ⟨.singleton _, rfl, rfl⟩

/-- A change of the condition continues the alternation. -/
theorem Alternates.concat
    {states : List AlertState} {held isActive : Bool}
    (alternates : Alternates states held) (changed : isActive ≠ held) :
    Alternates (states ++ [AlertState.of isActive]) isActive := by
  refine ⟨?_, ?_, ?_⟩
  · rw [← List.cons_append]
    apply alternates.chain.append (.singleton _)
    intro final isFinal next isNext
    rw [alternates.last, Option.mem_some_iff] at isFinal
    cases isNext
    rw [← isFinal]
    revert changed
    cases held <;> cases isActive <;> decide
  · rw [← List.cons_append, List.getLast?_concat]
  · rw [List.count_append, List.count_append, alternates.count]
    revert changed
    cases held <;> cases isActive <;> simp [AlertState.of]

/-- The states which are returned alternate up to the last condition. -/
theorem alternates_returnedStates
    (accepted : matchesSourceId sourceId = true) (rule : AlertRule)
    (calls : List (AlertCall Ratio)) :
    Alternates (returnedStates sourceId rule (evaluateAll thresholds calls))
      (lastCondition thresholds sourceId rule calls) := by
  induction calls using List.reverseRecOn with
  | nil => exact alternates_nil
  | append_singleton calls call induction =>
      rw [returnedStates_concat thresholds accepted, change,
        lastCondition_concat]
      by_cases same : call.sourceId = sourceId
      · by_cases unchanged :
            condition thresholds call.scenario rule =
              lastCondition thresholds sourceId rule calls
        · rw [if_neg fun changed => changed.2 unchanged, if_pos same,
            List.append_nil, unchanged]
          exact induction
        · rw [if_pos ⟨same, unchanged⟩, if_pos same]
          exact induction.concat unchanged
      · rw [if_neg fun changed => same changed.1, if_neg same,
          List.append_nil]
        exact induction

/-- A call depends on the stored states of its own source only. -/
theorem evaluate_congr
    {call : AlertCall Ratio} (accepted : matchesSourceId call.sourceId = true)
    {rule : AlertRule} {store other : AlertStore}
    (same : store (alertKey call.sourceId rule) =
      other (alertKey call.sourceId rule)) :
    eventsFor call.sourceId rule
          ((evaluate thresholds call).run reliable store).1 =
        eventsFor call.sourceId rule
          ((evaluate thresholds call).run reliable other).1 ∧
      ((evaluate thresholds call).run reliable store).2
          (alertKey call.sourceId rule) =
        ((evaluate thresholds call).run reliable other).2
          (alertKey call.sourceId rule) := by
  rcases evaluate_same thresholds accepted rule store with
    ⟨events, after, outcome, isEvents, changed⟩
  rcases evaluate_same thresholds accepted rule other with
    ⟨otherEvents, otherAfter, otherOutcome, areEvents, otherChanged⟩
  rw [outcome, otherOutcome, isEvents, areEvents]
  constructor
  · rw [eventsOf, same, eventsOf]
  · show after _ = otherAfter _
    rw [changed, otherChanged, storedAfter, same, storedAfter]

/-- Calls for other sources do not matter. -/
theorem evaluateAll_callsFor
    (accepted : matchesSourceId sourceId = true) (rule : AlertRule)
    (calls : List (AlertCall Ratio)) :
    returnedEvents sourceId rule (evaluateAll thresholds calls) =
        returnedEvents sourceId rule
          (evaluateAll thresholds (callsFor sourceId calls)) ∧
      (evaluateAll thresholds calls).2 (alertKey sourceId rule) =
        (evaluateAll thresholds (callsFor sourceId calls)).2
          (alertKey sourceId rule) := by
  induction calls using List.reverseRecOn with
  | nil => exact ⟨rfl, rfl⟩
  | append_singleton calls call induction =>
      rw [returnedEvents_concat]
      by_cases same : call.sourceId = sourceId
      · subst same
        have alike := evaluate_congr thresholds accepted induction.2
        rw [callsFor_concat_same rfl, returnedEvents_concat, induction.1,
          alike.1]
        refine ⟨rfl, ?_⟩
        rw [evaluateAll_concat, evaluateAll_concat]
        exact alike.2
      · have other :=
          evaluate_other thresholds accepted same rule
            (evaluateAll thresholds calls).2
        rw [callsFor_concat_other same, other.1, List.append_nil]
        refine ⟨induction.1, ?_⟩
        rw [evaluateAll_concat]
        exact other.2.trans induction.2

/-! ## Alerts follow their conditions -/

/--
For every accepted source and every rule: the states which are returned begin
with active and alternate; a call for the source returns one event exactly if
the condition differs from the last one seen, with the state which the
condition leads to; the last state is active exactly if the condition held
last; and calls for other sources change neither the events nor the stored
state.
-/
theorem transitions_alternate
    (accepted : matchesSourceId sourceId = true) (rule : AlertRule)
    (calls : List (AlertCall Ratio)) :
    let evaluations := evaluateAll thresholds calls
    let states := returnedStates sourceId rule evaluations
    (AlertState.resolved :: states).IsChain (· ≠ ·) ∧
      (∀ before call after, calls = before ++ call :: after →
        call.sourceId = sourceId →
          ∃ events, evaluations.1[before.length]? = some (.ok events) ∧
            (eventsFor sourceId rule (.ok events)).map AlertEvent.state =
              if condition thresholds call.scenario rule =
                  lastCondition thresholds sourceId rule before then []
              else
                [AlertState.of (condition thresholds call.scenario rule)]) ∧
      states.count .active =
        states.count .resolved +
          (if lastCondition thresholds sourceId rule calls then 1 else 0) ∧
      returnedEvents sourceId rule evaluations =
        returnedEvents sourceId rule
          (evaluateAll thresholds (callsFor sourceId calls)) ∧
      evaluations.2 (alertKey sourceId rule) =
        (evaluateAll thresholds (callsFor sourceId calls)).2
          (alertKey sourceId rule) := by
  have alternates := alternates_returnedStates thresholds accepted rule calls
  refine ⟨alternates.chain, ?_, alternates.count,
    evaluateAll_callsFor thresholds accepted rule calls⟩
  rintro before call after rfl rfl
  have isChange := states_eventsFor thresholds accepted rule before call
  rcases evaluate_same thresholds accepted rule
      (evaluateAll thresholds before).2 with
    ⟨events, stored, outcome, _, _⟩
  refine ⟨events, ?_, ?_⟩
  · rw [getElem?_evaluateAll, outcome]
  · rw [outcome] at isChange
    rw [isChange, change]
    by_cases unchanged :
        condition thresholds call.scenario rule =
          lastCondition thresholds call.sourceId rule before
    · rw [if_neg fun changed => changed.2 unchanged, if_pos unchanged]
    · rw [if_pos ⟨rfl, unchanged⟩, if_neg unchanged]

end Alternation

/-- A call for a source with some failures, at the first moment. -/
def failureCall (sourceId : String) (consecutiveFailures : ℤ) :
    AlertCall ℚ where
  sourceId := sourceId
  crawlRunId := 1
  scenario := { defaultScenario with consecutiveFailures }
  current := naive ⟨0, zero_lt_calendar⟩

/-- Two failing calls and a healthy one, with one for another source. -/
def failureCalls : List (AlertCall ℚ) :=
  [failureCall "demo_api" 3, failureCall "demo_api" 4,
    failureCall "demo_html" 5, failureCall "demo_api" 0]

/-- The failures of a source are announced once and resolved once. -/
theorem transitions_alternate_failureCalls :
    (AlertState.resolved ::
        returnedStates "demo_api" .consecutiveFailures
          (evaluateAll defaultThresholds failureCalls)).IsChain (· ≠ ·) := by
  have accepted : matchesSourceId "demo_api" = true := by decide
  exact
    (transitions_alternate defaultThresholds accepted .consecutiveFailures
      failureCalls).1

example :
    returnedStates "demo_api" .consecutiveFailures
        (evaluateAll defaultThresholds failureCalls) =
      [.active, .resolved] := by
  decide +kernel

end MultisiteCrawler.Alerts
