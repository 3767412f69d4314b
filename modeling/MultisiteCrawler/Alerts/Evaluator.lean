import Mathlib.Data.Fintype.Basic
import MultisiteCrawler.Foundation.AwareTime
import MultisiteCrawler.Foundation.Interaction
import MultisiteCrawler.Foundation.Lists
import MultisiteCrawler.Observability.RunEvents

/-!
# Alert evaluation

`AlertEvaluator.evaluate` compares the condition of every rule with the state
stored for its source, and stores and returns a transition where they differ.
The store may raise; an evaluator has no other state than its thresholds.
-/

namespace MultisiteCrawler.Alerts

open Foundation.AwareTime
open Foundation.Interaction
open Foundation.Interaction.Program (Handler)
open Foundation.Lists
open Foundation.PythonErrors
open Foundation.PythonText
open Observability

/-! ## Rules -/

/-- The rules, in the order of `_conditions`. -/
inductive AlertRule where
  | consecutiveFailures
  | noRecentSuccess
  | itemsZero
  | itemsAbnormal
  | parseErrorRate
  | accessDenied
  | captcha
  | queueBacklog
  | workerOffline
  | postgresDown
  | redisDown
  | diskLow
deriving DecidableEq, Repr

namespace AlertRule

/-- The name of a rule. -/
def name : AlertRule → String
  | .consecutiveFailures => "crawler_consecutive_failures"
  | .noRecentSuccess => "crawler_no_recent_success"
  | .itemsZero => "crawler_items_zero"
  | .itemsAbnormal => "crawler_items_abnormal"
  | .parseErrorRate => "crawler_parse_error_rate"
  | .accessDenied => "crawler_access_denied"
  | .captcha => "crawler_captcha"
  | .queueBacklog => "crawler_queue_backlog"
  | .workerOffline => "crawler_worker_offline"
  | .postgresDown => "crawler_postgres_down"
  | .redisDown => "crawler_redis_down"
  | .diskLow => "crawler_disk_low"

/-- `_RUNBOOKS`. -/
def runbook : AlertRule → String
  | .consecutiveFailures => "docs/operations/observability.md#run-failures"
  | .noRecentSuccess => "docs/operations/observability.md#run-failures"
  | .itemsZero => "docs/operations/observability.md#data-quality"
  | .itemsAbnormal => "docs/operations/observability.md#data-quality"
  | .parseErrorRate => "docs/operations/observability.md#data-quality"
  | .accessDenied => "docs/operations/observability.md#run-failures"
  | .captcha => "docs/operations/observability.md#run-failures"
  | .queueBacklog => "docs/operations/observability.md#queue-backlog"
  | .workerOffline => "docs/operations/observability.md#queue-backlog"
  | .postgresDown => "docs/operations/observability.md#dependencies"
  | .redisDown => "docs/operations/observability.md#dependencies"
  | .diskLow => "docs/operations/observability.md#snapshot-retention"

/-- All rules. -/
def all : List AlertRule :=
  [consecutiveFailures, noRecentSuccess, itemsZero, itemsAbnormal,
    parseErrorRate, accessDenied, captcha, queueBacklog, workerOffline,
    postgresDown, redisDown, diskLow]

theorem mem_all (rule : AlertRule) : rule ∈ all := by
  cases rule <;> decide

theorem nodup_all : all.Nodup := by
  decide

instance : Fintype AlertRule :=
  ⟨⟨all, nodup_all⟩, mem_all⟩

theorem name_injective : Function.Injective name := by
  decide

end AlertRule

/-! ## Conditions -/

/-- `AlertThresholds`, with ratios which can be compared. -/
structure AlertThresholds (Ratio : Type) where
  consecutiveFailures : ℤ
  maxLastSuccessAgeSeconds : ℤ
  itemDeviationRatio : Ratio
  parseErrorRate : Ratio
  queueDepth : ℤ
  workerHeartbeatAgeSeconds : ℤ
  diskFreeRatio : Ratio

/-- `MetricScenario`. -/
structure MetricScenario (Ratio : Type) where
  consecutiveFailures : ℤ
  lastSuccessAgeSeconds : Option ℤ
  itemsFound : Option ℤ
  itemDeviationRatio : Option Ratio
  parseErrorRate : Ratio
  httpStatus : Option ℤ
  captchaSeen : Bool
  queueDepth : ℤ
  workerLastHeartbeatAgeSeconds : Option ℤ
  postgresAvailable : Bool
  redisAvailable : Bool
  diskFreeRatio : Ratio

/-- The default thresholds, with exact ratios. -/
def defaultThresholds : AlertThresholds ℚ where
  consecutiveFailures := 3
  maxLastSuccessAgeSeconds := 600
  itemDeviationRatio := 1 / 2
  parseErrorRate := 1 / 10
  queueDepth := 100
  workerHeartbeatAgeSeconds := 120
  diskFreeRatio := 1 / 20

/-- The default scenario. -/
def defaultScenario : MetricScenario ℚ where
  consecutiveFailures := 0
  lastSuccessAgeSeconds := none
  itemsFound := none
  itemDeviationRatio := none
  parseErrorRate := 0
  httpStatus := none
  captchaSeen := false
  queueDepth := 0
  workerLastHeartbeatAgeSeconds := none
  postgresAvailable := true
  redisAvailable := true
  diskFreeRatio := 1

section Conditions

variable {Ratio : Type} [LE Ratio] [DecidableLE Ratio]

/-- The condition of a rule in `_conditions`. -/
def condition (thresholds : AlertThresholds Ratio)
    (scenario : MetricScenario Ratio) : AlertRule → Bool
  | .consecutiveFailures =>
      thresholds.consecutiveFailures ≤ scenario.consecutiveFailures
  | .noRecentSuccess =>
      scenario.lastSuccessAgeSeconds.any fun age =>
        thresholds.maxLastSuccessAgeSeconds < age
  | .itemsZero => scenario.itemsFound == some 0
  | .itemsAbnormal =>
      scenario.itemDeviationRatio.any fun ratio =>
        thresholds.itemDeviationRatio ≤ ratio
  | .parseErrorRate => thresholds.parseErrorRate ≤ scenario.parseErrorRate
  | .accessDenied =>
      scenario.httpStatus.any fun status => [401, 403, 429].contains status
  | .captcha => scenario.captchaSeen
  | .queueBacklog => thresholds.queueDepth ≤ scenario.queueDepth
  | .workerOffline =>
      scenario.workerLastHeartbeatAgeSeconds.any fun age =>
        thresholds.workerHeartbeatAgeSeconds < age
  | .postgresDown => !scenario.postgresAvailable
  | .redisDown => !scenario.redisAvailable
  | .diskLow => scenario.diskFreeRatio ≤ thresholds.diskFreeRatio

end Conditions

/-! ## Transitions -/

/-- `AlertState`. -/
inductive AlertState where
  | active
  | resolved
deriving DecidableEq, Repr

/-- The text of a state. -/
def AlertState.value : AlertState → String
  | .active => "active"
  | .resolved => "resolved"

/-- `AlertEvent`. -/
structure AlertEvent where
  rule : AlertRule
  state : AlertState
  sourceId : String
  crawlRunId : RunIdentifier
  troubleshootingPath : String
  occurredAt : DateTime
deriving DecidableEq

/-- The transition from a stored state. -/
def transition (previous : Option String) (isActive : Bool) :
    Option AlertState :=
  if isActive && previous != some AlertState.active.value then some .active
  else if !isActive && previous == some AlertState.active.value then
    some .resolved
  else none

/-- The state which is stored after a transition, if any. -/
def stored (previous : Option String) (isActive : Bool) : Option String :=
  match transition previous isActive with
  | some state => some state.value
  | none => previous

/-! ## The evaluator -/

/-- What an evaluator asks of its store. -/
inductive AlertCommand where
  | get (key : String)
  | set (key : String) (value : String)

/-- What the store replies; both commands may raise. -/
abbrev AlertCommand.Reply : AlertCommand → Type
  | .get _ => Except PyError (Option String)
  | .set _ _ => Except PyError Unit

/-- Programs over the store. -/
abbrev AlertProgram := Program AlertCommand AlertCommand.Reply PyError

namespace AlertProgram

/-- `state.get(key)`. -/
def get (key : String) : AlertProgram (Option String) :=
  .perform (.get key) Program.ofOutcome

/-- `state.set(key, value)`. -/
def set (key : String) (value : String) : AlertProgram Unit :=
  .perform (.set key value) Program.ofOutcome

end AlertProgram

/-- The key of the state of a rule for a source. -/
def alertKey (sourceId : String) (rule : AlertRule) : String :=
  "crawler:alerts:" ++ sourceId ++ ":" ++ rule.name

/-- A call of `evaluate`. -/
structure AlertCall (Ratio : Type) where
  sourceId : String
  crawlRunId : RunIdentifier
  scenario : MetricScenario Ratio
  current : DateTime

section Evaluation

variable {Ratio : Type} [LE Ratio] [DecidableLE Ratio]
variable (thresholds : AlertThresholds Ratio) (call : AlertCall Ratio)

/-- `_event`. -/
def AlertCall.event (rule : AlertRule) (state : AlertState) : AlertEvent :=
  ⟨rule, state, call.sourceId, call.crawlRunId, rule.runbook, call.current⟩

/-- The body of the loop: the events which one rule adds. -/
def evaluateRule (rule : AlertRule) : AlertProgram (List AlertEvent) := do
  let key := alertKey call.sourceId rule
  let previous ← AlertProgram.get key
  match transition previous (condition thresholds call.scenario rule) with
  | some state =>
      AlertProgram.set key state.value
      pure [call.event rule state]
  | none => pure []

/-- The loop over the rules. -/
def evaluateRules : List AlertRule → AlertProgram (List AlertEvent)
  | [] => pure []
  | rule :: rest => do
      let first ← evaluateRule thresholds call rule
      let others ← evaluateRules rest
      pure (first ++ others)

/-- `AlertEvaluator.evaluate`. -/
def evaluate : AlertProgram (List AlertEvent) :=
  if matchesSourceId call.sourceId then
    evaluateRules thresholds call AlertRule.all
  else .fail (.value "source_id must match [a-z0-9_-]+")

end Evaluation

/-! ## Keys -/

/-- No accepted source id contains a colon. -/
theorem not_mem_of_matchesSourceId
    {sourceId : String} (accepted : matchesSourceId sourceId = true) :
    ':' ∉ sourceId.toList := by
  intro member
  have allowed := ((fullmatch_iff _ _).mp accepted).2 ':' member
  revert allowed
  decide

theorem AlertRule.not_mem_name (rule : AlertRule) :
    ':' ∉ rule.name.toList := by
  revert rule
  decide

theorem toList_append_three (first second third fourth : String) :
    (first ++ second ++ third ++ fourth).toList =
      first.toList ++ (second.toList ++ (third.toList ++ fourth.toList)) := by
  simp only [String.toList_append, List.append_assoc]

theorem toList_alertKey (sourceId : String) (rule : AlertRule) :
    (alertKey sourceId rule).toList =
      "crawler:alerts:".toList ++
        (sourceId.toList ++ ':' :: rule.name.toList) :=
  toList_append_three _ sourceId ":" rule.name

/-- Sources and rules have states of their own. -/
theorem alertKey_inj
    {sourceId otherId : String} (accepted : matchesSourceId sourceId = true)
    {rule other : AlertRule} :
    alertKey sourceId rule = alertKey otherId other ↔
      sourceId = otherId ∧ rule = other := by
  constructor
  · intro same
    have characters := congrArg String.toList same
    rw [toList_alertKey, toList_alertKey] at characters
    have parts :=
      (List.append_cons_inj_of_notMem (not_mem_of_matchesSourceId accepted)
        rule.not_mem_name).mp (List.append_cancel_left characters)
    constructor
    · exact String.toList_injective parts.1
    · apply AlertRule.name_injective
      exact String.toList_injective parts.2.2
  · rintro ⟨rfl, rfl⟩
    rfl

/-! ## One call on a store which does not raise -/

/-- The states of all keys. -/
abbrev AlertStore := String → Option String

/-- A store which does not raise. -/
def reliable : Handler AlertCommand AlertCommand.Reply AlertStore
  | .get key, store => (.ok (store key), store)
  | .set key value, store => (.ok (), Function.update store key (some value))

section OneCall

variable {Ratio : Type} [LE Ratio] [DecidableLE Ratio]
variable (thresholds : AlertThresholds Ratio) (call : AlertCall Ratio)

/-- The state stored for a rule after the call. -/
def storedAfter (store : AlertStore) (rule : AlertRule) : Option String :=
  stored (store (alertKey call.sourceId rule))
    (condition thresholds call.scenario rule)

/-- The events which the call returns for a rule. -/
def eventsOf (store : AlertStore) (rule : AlertRule) : List AlertEvent :=
  match transition (store (alertKey call.sourceId rule))
      (condition thresholds call.scenario rule) with
  | some state => [call.event rule state]
  | none => []

/-- One rule is evaluated on its own state. -/
theorem run_evaluateRule (rule : AlertRule) (store : AlertStore) :
    (evaluateRule thresholds call rule).run reliable store =
      (.ok (eventsOf thresholds call store rule),
        Function.update store (alertKey call.sourceId rule)
          (storedAfter thresholds call store rule)) := by
  unfold eventsOf storedAfter stored
  have shape :
      (evaluateRule thresholds call rule).run reliable store =
        (match transition (store (alertKey call.sourceId rule))
            (condition thresholds call.scenario rule) with
          | some state => do
              AlertProgram.set (alertKey call.sourceId rule) state.value
              pure [call.event rule state]
          | none => pure [] : AlertProgram (List AlertEvent)).run reliable
            store := rfl
  rw [shape]
  cases transition (store (alertKey call.sourceId rule))
      (condition thresholds call.scenario rule) with
  | some state => rfl
  | none =>
      rw [Function.update_eq_self]
      rfl

/-- What evaluating some rules leaves in the store. -/
structure Evaluated (rules : List AlertRule) (store after : AlertStore) :
    Prop where
  changed : ∀ rule ∈ rules,
    after (alertKey call.sourceId rule) =
      storedAfter thresholds call store rule
  unchanged : ∀ key, (∀ rule ∈ rules, key ≠ alertKey call.sourceId rule) →
    after key = store key

section States

variable {thresholds call} {rule : AlertRule} {store other : AlertStore}

/-- What is stored for a rule depends on its own state only. -/
theorem storedAfter_congr
    (same : store (alertKey call.sourceId rule) =
      other (alertKey call.sourceId rule)) :
    storedAfter thresholds call store rule =
      storedAfter thresholds call other rule := by
  rw [storedAfter, same, storedAfter]

/-- The events of a rule depend on its own state only. -/
theorem eventsOf_congr
    (same : store (alertKey call.sourceId rule) =
      other (alertKey call.sourceId rule)) :
    eventsOf thresholds call store rule =
      eventsOf thresholds call other rule := by
  rw [eventsOf, same, eventsOf]

omit [LE Ratio] [DecidableLE Ratio] in
/-- Writing the state of a rule leaves that of another one. -/
theorem update_alertKey_of_ne
    (accepted : matchesSourceId call.sourceId = true)
    {another : AlertRule} (different : another ≠ rule)
    (value : Option String) :
    Function.update store (alertKey call.sourceId rule) value
        (alertKey call.sourceId another) =
      store (alertKey call.sourceId another) := by
  apply Function.update_of_ne
  intro same
  exact different ((alertKey_inj accepted).mp same).2

omit [LE Ratio] [DecidableLE Ratio] in
/-- Writing the state of a rule leaves those of the rules after it. -/
theorem update_alertKey_of_notMem
    (accepted : matchesSourceId call.sourceId = true)
    {rules : List AlertRule} (notMem : rule ∉ rules) (value : Option String) :
    ∀ another ∈ rules,
      Function.update store (alertKey call.sourceId rule) value
          (alertKey call.sourceId another) =
        store (alertKey call.sourceId another) := by
  intro another member
  apply update_alertKey_of_ne accepted
  rintro rfl
  exact notMem member

/-- So their events are the same. -/
theorem flatMap_eventsOf_update
    (accepted : matchesSourceId call.sourceId = true)
    {rules : List AlertRule} (notMem : rule ∉ rules) (value : Option String) :
    rules.flatMap
        (eventsOf thresholds call
          (Function.update store (alertKey call.sourceId rule) value)) =
      rules.flatMap (eventsOf thresholds call store) := by
  apply List.flatMap_congr
  intro another member
  apply eventsOf_congr
  exact update_alertKey_of_notMem accepted notMem value another member

/-- A rule is evaluated, and then other ones. -/
theorem Evaluated.cons
    (accepted : matchesSourceId call.sourceId = true)
    {rules : List AlertRule} (notMem : rule ∉ rules) {after : AlertStore}
    (evaluated :
      Evaluated thresholds call rules
        (Function.update store (alertKey call.sourceId rule)
          (storedAfter thresholds call store rule)) after) :
    Evaluated thresholds call (rule :: rules) store after := by
  have apart (another : AlertRule) (member : another ∈ rules) :
      another ≠ rule := by
    rintro rfl
    exact notMem member
  constructor
  · intro another member
    rcases List.mem_cons.mp member with rfl | inRest
    · rw [evaluated.unchanged]
      · exact Function.update_self _ _ _
      · intro next isNext same
        exact apart next isNext ((alertKey_inj accepted).mp same).2.symm
    · rw [evaluated.changed another inRest]
      apply storedAfter_congr
      exact update_alertKey_of_ne accepted (apart another inRest) _
  · intro key different
    rw [evaluated.unchanged key fun another member =>
      different another (List.mem_cons_of_mem _ member)]
    exact Function.update_of_ne (different rule List.mem_cons_self) _ _

end States

/-- Rules are evaluated independently of each other. -/
theorem run_evaluateRules
    (accepted : matchesSourceId call.sourceId = true)
    {rules : List AlertRule} (distinct : rules.Nodup) (store : AlertStore) :
    ∃ after,
      (evaluateRules thresholds call rules).run reliable store =
          (.ok (rules.flatMap (eventsOf thresholds call store)), after) ∧
        Evaluated thresholds call rules store after := by
  induction rules generalizing store with
  | nil =>
      refine ⟨store, rfl, ?_, ?_⟩
      · intro rule member
        cases member
      · intro key _
        rfl
  | cons rule rest induction =>
      rw [List.nodup_cons] at distinct
      rcases induction distinct.2
          (Function.update store (alertKey call.sourceId rule)
            (storedAfter thresholds call store rule)) with
        ⟨after, others, evaluated⟩
      refine ⟨after, ?_, evaluated.cons accepted distinct.1⟩
      rw [evaluateRules, Program.run_bind, run_evaluateRule]
      show (Program.run reliable _ _) = _
      rw [Program.run_bind, others,
        flatMap_eventsOf_update accepted distinct.1, List.flatMap_cons]
      rfl

/-- A call for an accepted source evaluates every rule. -/
theorem run_evaluate
    (accepted : matchesSourceId call.sourceId = true) (store : AlertStore) :
    ∃ after,
      (evaluate thresholds call).run reliable store =
          (.ok (AlertRule.all.flatMap (eventsOf thresholds call store)),
            after) ∧
        Evaluated thresholds call AlertRule.all store after := by
  rw [evaluate, if_pos accepted]
  exact run_evaluateRules thresholds call accepted AlertRule.nodup_all store

/-- A call for any other source raises and changes nothing. -/
theorem run_evaluate_refused
    (refused : ¬ matchesSourceId call.sourceId = true) (store : AlertStore) :
    (evaluate thresholds call).run reliable store =
      (.error (.value "source_id must match [a-z0-9_-]+"), store) := by
  rw [evaluate, if_neg refused]
  rfl

end OneCall

/-! ## One source and rule -/

/-- The events of a call for a source and a rule. -/
def eventsFor (sourceId : String) (rule : AlertRule) :
    Except PyError (List AlertEvent) → List AlertEvent
  | .ok events =>
      events.filter fun event =>
        decide (event.sourceId = sourceId ∧ event.rule = rule)
  | .error _ => []

section OneRule

variable {Ratio : Type} [LE Ratio] [DecidableLE Ratio]
variable {thresholds : AlertThresholds Ratio} {call : AlertCall Ratio}
variable {sourceId : String} {rule : AlertRule} {store : AlertStore}

theorem mem_eventsOf
    {event : AlertEvent}
    (member : event ∈ eventsOf thresholds call store rule) :
    event.sourceId = call.sourceId ∧ event.rule = rule := by
  unfold eventsOf at member
  split at member
  · cases List.mem_singleton.mp member
    exact ⟨rfl, rfl⟩
  · cases member

variable (thresholds)

/-- A call for the source. -/
theorem evaluate_same
    (accepted : matchesSourceId call.sourceId = true) (rule : AlertRule)
    (store : AlertStore) :
    ∃ events after,
      (evaluate thresholds call).run reliable store = (.ok events, after) ∧
        eventsFor call.sourceId rule (.ok events) =
          eventsOf thresholds call store rule ∧
        after (alertKey call.sourceId rule) =
          storedAfter thresholds call store rule := by
  rcases run_evaluate thresholds call accepted store with
    ⟨after, outcome, evaluated⟩
  refine ⟨_, after, outcome, ?_, evaluated.changed rule rule.mem_all⟩
  rw [eventsFor, List.filter_flatMap,
    flatMap_eq_of_nodup AlertRule.nodup_all rule.mem_all]
  · rw [List.filter_eq_self]
    intro event member
    exact decide_eq_true (mem_eventsOf member)
  · intro other _ different
    rw [List.filter_eq_nil_iff]
    intro event member isRule
    have isOther := (mem_eventsOf member).2
    rw [(of_decide_eq_true isRule).2] at isOther
    exact different isOther.symm

/-- A call for another source. -/
theorem evaluate_other
    (accepted : matchesSourceId sourceId = true)
    (different : call.sourceId ≠ sourceId) (rule : AlertRule)
    (store : AlertStore) :
    eventsFor sourceId rule
          ((evaluate thresholds call).run reliable store).1 = [] ∧
      ((evaluate thresholds call).run reliable store).2
          (alertKey sourceId rule) =
        store (alertKey sourceId rule) := by
  by_cases otherAccepted : matchesSourceId call.sourceId = true
  · rcases run_evaluate thresholds call otherAccepted store with
      ⟨after, outcome, evaluated⟩
    rw [outcome]
    constructor
    · rw [eventsFor, List.filter_eq_nil_iff]
      intro event member isSource
      rcases List.mem_flatMap.mp member with ⟨other, _, isEvent⟩
      have isCall := (mem_eventsOf isEvent).1
      rw [(of_decide_eq_true isSource).1] at isCall
      exact different isCall.symm
    · apply evaluated.unchanged
      intro other _ same
      exact different ((alertKey_inj accepted).mp same).1.symm
  · rw [run_evaluate_refused thresholds call otherAccepted]
    exact ⟨rfl, rfl⟩

end OneRule

end MultisiteCrawler.Alerts
