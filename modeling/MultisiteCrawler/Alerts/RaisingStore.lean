import MultisiteCrawler.Alerts.Evaluator

/-!
# Alerts on a store which raises

The evaluator stores a transition in the loop and returns its event at the
end.  If an operation of a later rule raises, the transitions of the rules
before it stay in the store and their events are lost.
-/

namespace MultisiteCrawler.Alerts

open Foundation.AwareTime
open Foundation.CivilTime
open Foundation.Interaction
open Foundation.Interaction.Program (Handler)
open Foundation.Lists
open Foundation.PythonErrors
open Foundation.PythonText
open Observability

/-! ## The store -/

/--
The operations of a call which raise.  A call issues no command twice, so this
is any choice of operations.
-/
abbrev Faults := AlertCommand → Option PyError

/-- The reply of an operation which raises. -/
def raisedReply : (command : AlertCommand) → PyError → command.Reply
  | .get _, error => .error error
  | .set _ _, error => .error error

/-- A store in which some operations raise and change nothing. -/
def failing (faults : Faults) :
    Handler AlertCommand AlertCommand.Reply AlertStore :=
  fun command store =>
    match faults command with
    | some error => (raisedReply command error, store)
    | none => reliable command store

section Failing

variable {Ratio : Type} [LE Ratio] [DecidableLE Ratio]
variable (thresholds : AlertThresholds Ratio) (call : AlertCall Ratio)
variable (faults : Faults)

/-- The transition which is due for a rule. -/
def due (store : AlertStore) (rule : AlertRule) : Option AlertState :=
  transition (store (alertKey call.sourceId rule))
    (condition thresholds call.scenario rule)

/-- What the operations of a rule raise. -/
def ruleError (store : AlertStore) (rule : AlertRule) : Option PyError :=
  match faults (.get (alertKey call.sourceId rule)) with
  | some error => some error
  | none =>
      match due thresholds call store rule with
      | some state =>
          faults (.set (alertKey call.sourceId rule) state.value)
      | none => none

/-- No operation of a rule raises. -/
def completes (store : AlertStore) (rule : AlertRule) : Bool :=
  (ruleError thresholds call faults store rule).isNone

/-! ## One rule -/

theorem run_get_failing (key : String) (store : AlertStore) :
    (AlertProgram.get key).run (failing faults) store =
      match faults (.get key) with
      | some error => (.error error, store)
      | none => (.ok (store key), store) := by
  unfold AlertProgram.get
  rw [Program.run_perform, Program.run_ofOutcome]
  unfold failing
  cases faults (.get key) <;> rfl

theorem run_set_failing (key value : String) (store : AlertStore) :
    (AlertProgram.set key value).run (failing faults) store =
      match faults (.set key value) with
      | some error => (.error error, store)
      | none => (.ok (), Function.update store key (some value)) := by
  unfold AlertProgram.set
  rw [Program.run_perform, Program.run_ofOutcome]
  unfold failing
  cases faults (.set key value) <;> rfl

/-- The body of the loop after the state has been read. -/
def storeTransition (rule : AlertRule) (transition : Option AlertState) :
    AlertProgram (List AlertEvent) :=
  match transition with
  | some state => do
      AlertProgram.set (alertKey call.sourceId rule) state.value
      pure [call.event rule state]
  | none => pure []

theorem evaluateRule_eq (rule : AlertRule) :
    evaluateRule thresholds call rule =
      AlertProgram.get (alertKey call.sourceId rule) >>= fun previous =>
        storeTransition call rule
          (transition previous (condition thresholds call.scenario rule)) :=
  rfl

/-- A rule raises and changes nothing, or is evaluated as on any store. -/
theorem run_evaluateRule_failing (rule : AlertRule) (store : AlertStore) :
    (evaluateRule thresholds call rule).run (failing faults) store =
      match ruleError thresholds call faults store rule with
      | some error => (.error error, store)
      | none =>
          (.ok (eventsOf thresholds call store rule),
            Function.update store (alertKey call.sourceId rule)
              (storedAfter thresholds call store rule)) := by
  rw [evaluateRule_eq, Program.run_bind, run_get_failing]
  unfold ruleError eventsOf storedAfter stored due
  cases faults (.get (alertKey call.sourceId rule)) with
  | some error => rfl
  | none =>
      dsimp only
      cases transition (store (alertKey call.sourceId rule))
          (condition thresholds call.scenario rule) with
      | none =>
          rw [Function.update_eq_self]
          rfl
      | some state =>
          show ((AlertProgram.set _ _ >>= fun _ => _).run _ _) = _
          rw [Program.run_bind, run_set_failing]
          dsimp only
          cases faults (.set (alertKey call.sourceId rule) state.value) with
          | some error => rfl
          | none => rfl

/-! ## All rules -/

/-- How a run over some rules ends. -/
structure Ends (rules : List AlertRule) (store : AlertStore)
    (outcome : Except PyError (List AlertEvent)) : Prop where
  returned : (∀ rule ∈ rules, completes thresholds call faults store rule) →
    outcome = .ok (rules.flatMap (eventsOf thresholds call store))
  raised : ¬ (∀ rule ∈ rules, completes thresholds call faults store rule) →
    ∃ error, outcome = .error error

section Runs

variable {thresholds call faults}
variable {rule : AlertRule} {rest : List AlertRule} {store : AlertStore}

/-- A rule which was written leaves whether the rules after it raise. -/
theorem completes_update
    (accepted : matchesSourceId call.sourceId = true) (notMem : rule ∉ rest)
    (value : Option String) :
    ∀ other ∈ rest,
      completes thresholds call faults
          (Function.update store (alertKey call.sourceId rule) value) other =
        completes thresholds call faults store other := by
  intro other member
  unfold completes ruleError due
  rw [update_alertKey_of_notMem accepted notMem value other member]

/-- The run ends with the first error. -/
theorem Ends.first
    {error : PyError}
    (isError : ruleError thresholds call faults store rule = some error) :
    Ends thresholds call faults (rule :: rest) store (.error error) := by
  constructor
  · intro complete
    have isComplete := complete rule List.mem_cons_self
    rw [completes, isError] at isComplete
    cases isComplete
  · intro _
    exact ⟨error, rfl⟩

/-- The events of a rule which does not raise come before the other ones. -/
theorem Ends.cons
    (accepted : matchesSourceId call.sourceId = true) (notMem : rule ∉ rest)
    (isComplete : completes thresholds call faults store rule = true)
    {value : Option String} {outcome : Except PyError (List AlertEvent)}
    (ends :
      Ends thresholds call faults rest
        (Function.update store (alertKey call.sourceId rule) value)
        outcome) :
    Ends thresholds call faults (rule :: rest) store
      (outcome.map (eventsOf thresholds call store rule ++ ·)) := by
  have same :
      ∀ other ∈ rest,
        completes thresholds call faults
            (Function.update store (alertKey call.sourceId rule) value)
            other =
          completes thresholds call faults store other :=
    completes_update accepted notMem value
  constructor
  · intro complete
    have isReturned := ends.returned fun other member =>
      (same other member).trans
        (complete other (List.mem_cons_of_mem _ member))
    rw [isReturned, flatMap_eventsOf_update accepted notMem,
      List.flatMap_cons]
    rfl
  · intro incomplete
    have isRaised := ends.raised fun complete => incomplete ?_
    · rcases isRaised with ⟨error, rfl⟩
      exact ⟨error, rfl⟩
    · rw [List.forall_mem_cons]
      refine ⟨isComplete, ?_⟩
      intro other member
      rw [← same other member]
      exact complete other member

end Runs

/--
The rules before the first one which raises are evaluated; if none raises,
these are all of them and their events are returned.
-/
theorem run_evaluateRules_failing
    (accepted : matchesSourceId call.sourceId = true)
    {rules : List AlertRule} (distinct : rules.Nodup) (store : AlertStore) :
    ∃ outcome after,
      (evaluateRules thresholds call rules).run (failing faults) store =
          (outcome, after) ∧
        Ends thresholds call faults rules store outcome ∧
        Evaluated thresholds call
          (rules.takeWhile (completes thresholds call faults store)) store
          after := by
  induction rules generalizing store with
  | nil =>
      refine ⟨.ok [], store, rfl, ⟨fun _ => rfl, ?_⟩, ?_, ?_⟩
      · intro incomplete
        exact (incomplete (by rintro rule ⟨⟩)).elim
      · rintro rule ⟨⟩
      · intro key _
        rfl
  | cons rule rest induction =>
      rw [List.nodup_cons] at distinct
      cases isError : ruleError thresholds call faults store rule with
      | some error =>
          refine ⟨.error error, store, ?_, .first isError, ?_⟩
          · rw [evaluateRules, Program.run_bind, run_evaluateRule_failing,
              isError]
          · have incomplete :
                ¬ completes thresholds call faults store rule = true := by
              rw [completes, isError]
              exact Bool.false_ne_true
            rw [List.takeWhile_cons_of_neg incomplete]
            constructor
            · rintro other ⟨⟩
            · intro key _
              rfl
      | none =>
          have isComplete :
              completes thresholds call faults store rule = true := by
            rw [completes, isError]
            rfl
          rcases induction distinct.2
              (Function.update store (alertKey call.sourceId rule)
                (storedAfter thresholds call store rule)) with
            ⟨outcome, after, others, ends, evaluated⟩
          rw [takeWhile_congr (completes_update accepted distinct.1 _)]
            at evaluated
          refine ⟨_, after, ?_, ends.cons accepted distinct.1 isComplete, ?_⟩
          · rw [evaluateRules, Program.run_bind, run_evaluateRule_failing,
              isError]
            show (Program.run (failing faults) _ _) = _
            rw [Program.run_bind, others]
            cases outcome <;> rfl
          · rw [List.takeWhile_cons_of_pos isComplete]
            apply evaluated.cons accepted
            intro member
            exact distinct.1 ((List.takeWhile_sublist _).subset member)

/-- A call for an accepted source evaluates the rules before the first error. -/
theorem run_evaluate_failing
    (accepted : matchesSourceId call.sourceId = true) (store : AlertStore) :
    Ends thresholds call faults AlertRule.all store
        ((evaluate thresholds call).run (failing faults) store).1 ∧
      Evaluated thresholds call
        (AlertRule.all.takeWhile (completes thresholds call faults store)) store
        ((evaluate thresholds call).run (failing faults) store).2 := by
  rcases run_evaluateRules_failing thresholds call faults accepted
      AlertRule.nodup_all store with
    ⟨outcome, after, isRun, ends, evaluated⟩
  rw [evaluate, if_pos accepted, isRun]
  exact ⟨ends, evaluated⟩

/-! ## Delivered transitions -/

/-- The events which the caller receives. -/
def receivedEvents : Except PyError (List AlertEvent) → List AlertEvent
  | .ok events => events
  | .error _ => []

/--
The rules whose stored state the call changed are those whose events were
returned, and a call which raises changes nothing.
-/
structure Delivered (store : AlertStore) : Prop where
  changed_iff : ∀ rule,
    ((evaluate thresholds call).run (failing faults) store).2
          (alertKey call.sourceId rule) ≠
        store (alertKey call.sourceId rule) ↔
      rule ∈ (receivedEvents
        ((evaluate thresholds call).run (failing faults) store).1).map
          AlertEvent.rule
  unchanged : ∀ error,
    ((evaluate thresholds call).run (failing faults) store).1 = .error error →
      ((evaluate thresholds call).run (failing faults) store).2 = store

variable {thresholds call} {store : AlertStore} {rule : AlertRule}

/-- The stored state changes exactly if a transition is due. -/
theorem storedAfter_ne_iff :
    storedAfter thresholds call store rule ≠
        store (alertKey call.sourceId rule) ↔
      due thresholds call store rule ≠ none := by
  unfold storedAfter stored due
  generalize store (alertKey call.sourceId rule) = previous
  generalize condition thresholds call.scenario rule = isActive
  unfold transition
  split_ifs with isNew isOld
  · rw [Bool.and_eq_true, bne_iff_ne] at isNew
    exact iff_of_true isNew.2.symm nofun
  · rw [Bool.and_eq_true, beq_iff_eq] at isOld
    refine iff_of_true ?_ nofun
    rw [isOld.2]
    decide
  · exact iff_of_false (fun differs => differs rfl) (fun isDue => isDue rfl)

/-- The rules of the events are those with a transition. -/
theorem mem_rules_flatMap_eventsOf {rules : List AlertRule} :
    rule ∈ (rules.flatMap (eventsOf thresholds call store)).map
        AlertEvent.rule ↔
      rule ∈ rules ∧ due thresholds call store rule ≠ none := by
  constructor
  · intro member
    rcases List.mem_map.mp member with ⟨event, isEvent, rfl⟩
    rcases List.mem_flatMap.mp isEvent with ⟨other, isOther, ofOther⟩
    have isRule := (mem_eventsOf ofOther).2
    rw [isRule]
    refine ⟨isOther, ?_⟩
    intro nothing
    unfold due at nothing
    rw [eventsOf, nothing] at ofOther
    cases ofOther
  · rintro ⟨isRule, isDue⟩
    rcases Option.ne_none_iff_exists'.mp isDue with ⟨state, isState⟩
    refine List.mem_map.mpr ⟨call.event rule state, ?_, rfl⟩
    refine List.mem_flatMap.mpr ⟨rule, isRule, ?_⟩
    unfold due at isState
    rw [eventsOf, isState]
    exact List.mem_singleton_self _

/-- Rules without a transition leave the store as it was. -/
theorem Evaluated.eq_of_not_due
    {rules : List AlertRule} {after : AlertStore}
    (evaluated : Evaluated thresholds call rules store after)
    (nothing : ∀ rule ∈ rules, due thresholds call store rule = none) :
    after = store := by
  ext1 key
  by_cases isKey : ∃ rule ∈ rules, key = alertKey call.sourceId rule
  · rcases isKey with ⟨rule, member, rfl⟩
    rw [evaluated.changed rule member]
    by_contra differs
    exact storedAfter_ne_iff.mp differs (nothing rule member)
  · apply evaluated.unchanged
    intro rule member same
    exact isKey ⟨rule, member, same⟩

/-- If no operation raises, every transition is delivered. -/
theorem delivered_of_completes
    (accepted : matchesSourceId call.sourceId = true)
    (complete : ∀ rule, completes thresholds call faults store rule) :
    Delivered thresholds call faults store := by
  rcases run_evaluate_failing thresholds call faults accepted store with
    ⟨ends, evaluated⟩
  have isReturned := ends.returned fun rule _ => complete rule
  constructor
  · intro rule
    have all :
        rule ∈ AlertRule.all.takeWhile
          (completes thresholds call faults store) := by
      rw [List.takeWhile_eq_self_iff.mpr fun rule _ => complete rule]
      exact rule.mem_all
    rw [evaluated.changed rule all, storedAfter_ne_iff, isReturned,
      receivedEvents, mem_rules_flatMap_eventsOf]
    exact (and_iff_right rule.mem_all).symm
  · intro error isError
    rw [isReturned] at isError
    cases isError

/-- If an operation raises, nothing may have been due before. -/
theorem delivered_iff_of_raises
    (accepted : matchesSourceId call.sourceId = true)
    (incomplete : ¬ ∀ rule, completes thresholds call faults store rule) :
    Delivered thresholds call faults store ↔
      ∀ rule ∈ AlertRule.all.takeWhile
          (completes thresholds call faults store),
        due thresholds call store rule = none := by
  rcases run_evaluate_failing thresholds call faults accepted store with
    ⟨ends, evaluated⟩
  rcases ends.raised fun complete =>
      incomplete fun rule => complete rule rule.mem_all with
    ⟨error, isError⟩
  constructor
  · intro delivered rule member
    by_contra isDue
    have changed := storedAfter_ne_iff.mpr isDue
    rw [← evaluated.changed rule member, delivered.unchanged error isError]
      at changed
    exact changed rfl
  · intro nothing
    have same := evaluated.eq_of_not_due nothing
    constructor
    · intro rule
      rw [same, isError]
      exact iff_of_false (fun differs => differs rfl) List.not_mem_nil
    · intro _ _
      exact same

/--
Every transition is delivered exactly if the source is not accepted, or no
operation raises, or no transition is due for a rule before the first one with
an operation which raises.
-/
theorem delivered_iff
    (thresholds : AlertThresholds Ratio) (call : AlertCall Ratio)
    (faults : Faults) (store : AlertStore) :
    Delivered thresholds call faults store ↔
      matchesSourceId call.sourceId = false ∨
        (∀ rule, completes thresholds call faults store rule) ∨
        ∀ rule ∈ AlertRule.all.takeWhile
            (completes thresholds call faults store),
          due thresholds call store rule = none := by
  cases accepted : matchesSourceId call.sourceId with
  | false =>
      refine iff_of_true ?_ (Or.inl rfl)
      have refused :
          (evaluate thresholds call).run (failing faults) store =
            (.error (.value "source_id must match [a-z0-9_-]+"), store) := by
        rw [evaluate, if_neg (by simp [accepted])]
        rfl
      constructor
      · intro rule
        rw [refused]
        exact iff_of_false (fun differs => differs rfl) List.not_mem_nil
      · intro _ _
        rw [refused]
  | true =>
      by_cases complete :
          ∀ rule, completes thresholds call faults store rule
      · exact iff_of_true (delivered_of_completes faults accepted complete)
          (Or.inr (Or.inl complete))
      · rw [delivered_iff_of_raises faults accepted complete]
        simp [complete]

end Failing

/-! ## A lost alert -/

/-- Three failures in a row, nothing else. -/
def failingCall : AlertCall ℚ where
  sourceId := "demo"
  crawlRunId := 1
  scenario := { defaultScenario with consecutiveFailures := 3 }
  current := naive ⟨0, zero_lt_calendar⟩

/-- The state of the second rule cannot be read. -/
def secondReadFails : Faults
  | .get key =>
      if key = alertKey "demo" .noRecentSuccess then
        some ⟨.other "ConnectionError", none⟩
      else none
  | .set _ _ => none

/-- The alert is stored as active, and nobody hears of it. -/
theorem not_delivered_secondReadFails :
    ¬ Delivered defaultThresholds failingCall secondReadFails
      fun _ => none := by
  intro delivered
  have unchanged :=
    delivered.unchanged ⟨.other "ConnectionError", none⟩ (by decide +kernel)
  have changed := congrFun unchanged (alertKey "demo" .consecutiveFailures)
  revert changed
  decide +kernel

end MultisiteCrawler.Alerts
