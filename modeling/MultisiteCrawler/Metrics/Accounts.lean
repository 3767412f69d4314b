import MultisiteCrawler.Metrics.Report

/-!
# What the page says

The samples of the page, read back, are the counts, sums and last values of
the accepted calls: one series for each source which has been named, and one
sample for each HTTP status which has been recorded for it.
-/

namespace MultisiteCrawler.Metrics

open Foundation.Exposition
open Foundation.Interaction
open Foundation.JsonOrder
open Foundation.JsonText
open Foundation.Lists
open Foundation.PythonErrors
open Observability

/-! ## Samples of a page -/

/-- Labels with texts as lists of characters. -/
def labelTexts (labels : List (String × String)) : List (Text × Text) :=
  labels.map fun label => (label.1.toList, label.2.toList)

/-- The values of the samples with a name and labels. -/
def valuesOf (lines : List Line) (name : String)
    (labels : List (String × String)) : List Text :=
  lines.filterMap fun line =>
    match line with
    | .sample other found value =>
        if other = name.toList ∧ found = labelTexts labels then some value
        else none
    | _ => none

/-- A page has a series for a source. -/
def HasSource (lines : List Line) (sourceId : String) : Prop :=
  ∃ name labels value, .sample name labels value ∈ lines ∧
    ("source_id".toList, sourceId.toList) ∈ labels

theorem labelTexts_injective : Function.Injective labelTexts := by
  apply List.map_injective_iff.mpr
  rintro ⟨first, second⟩ ⟨other, another⟩ same
  rw [Prod.mk.injEq] at same ⊢
  exact ⟨String.toList_injective same.1, String.toList_injective same.2⟩

theorem valuesOf_append
    (lines others : List Line) (name : String)
    (labels : List (String × String)) :
    valuesOf (lines ++ others) name labels =
      valuesOf lines name labels ++ valuesOf others name labels :=
  List.filterMap_append

theorem valuesOf_flatMap
    {Item : Type} (items : List Item) (lines : Item → List Line)
    (name : String) (labels : List (String × String)) :
    valuesOf (items.flatMap lines) name labels =
      items.flatMap fun item => valuesOf (lines item) name labels :=
  List.filterMap_flatMap

/-- Nothing is found among the lines of other metrics. -/
theorem valuesOf_of_ne
    {lines : List Line} {name : String}
    (different : ∀ line ∈ lines, line.name ≠ name.toList)
    (labels : List (String × String)) : valuesOf lines name labels = [] := by
  rw [valuesOf, List.filterMap_eq_nil_iff]
  intro line member
  cases line with
  | help other documentation => rfl
  | typed other kind => rfl
  | sample other found value =>
      dsimp only
      rw [if_neg]
      rintro ⟨same, _⟩
      exact different _ member same

theorem valuesOf_metricFamily
    (name kind : String) (samples : List (List (String × String) × String))
    (labels : List (String × String)) :
    valuesOf (metricFamily name kind samples) name labels =
      (samples.filter fun sample => decide (sample.1 = labels)).map
        fun sample => sample.2.toList := by
  have typed :
      valuesOf (metricFamily name kind samples) name labels =
        valuesOf
          (samples.map fun sample =>
            Line.sample name.toList (labelTexts sample.1) sample.2.toList)
          name labels := by
    rw [metricFamily, family, List.map_map, valuesOf,
      List.filterMap_cons_none rfl]
    rfl
  rw [typed]
  clear typed
  induction samples with
  | nil => rfl
  | cons sample others induction =>
      rw [List.map_cons, valuesOf, List.filterMap_cons, List.filter_cons]
      have rest := induction
      rw [valuesOf] at rest
      by_cases same : sample.1 = labels
      · simp [same, rest]
      · have different : labelTexts sample.1 ≠ labelTexts labels :=
          fun equal => same (labelTexts_injective equal)
        simp [same, different, rest]

theorem valuesOf_single
    (name kind : String) (labels : List (String × String)) (value : String) :
    valuesOf (metricFamily name kind [(labels, value)]) name labels =
      [value.toList] := by
  rw [valuesOf_metricFamily]
  simp

/-! ## Samples of a source -/

section Source

variable (sourceId : String) (values : List (String × String))

/-- The families of the fields of a source. -/
def fieldFamilies : List Line :=
  fieldMetrics.flatMap fun fieldMetric =>
    metricFamily fieldMetric.name fieldMetric.kind
      [([("source_id", sourceId)], fieldText fieldMetric.field values)]

/-- The families of the statuses of a source. -/
def statusFamilies : List Line :=
  ((values.insertionSort keyOrder).filter fun member =>
    isStatusField member.1).flatMap fun member =>
      metricFamily "crawler_http_status_total" "counter"
        [([("source_id", sourceId),
            ("status_code", afterColon member.1)], member.2)]

/-- The family of the runs of a source. -/
def runFamily : List Line :=
  metricFamily "crawler_run_total" "counter"
    (outcomes.map fun outcome =>
      ([("outcome", outcome.value), ("source_id", sourceId)],
        fieldText ("run_total:" ++ outcome.value) values))

theorem sourceFamilies_eq :
    sourceFamilies sourceId values =
      runFamily sourceId values ++ fieldFamilies sourceId values ++
        statusFamilies sourceId values := rfl

theorem name_of_mem_fieldFamilies
    {line : Line} (member : line ∈ fieldFamilies sourceId values) :
    ∃ fieldMetric ∈ fieldMetrics, line.name = fieldMetric.name.toList := by
  rcases List.mem_flatMap.mp member with ⟨fieldMetric, isMetric, isLine⟩
  exact ⟨fieldMetric, isMetric, name_of_mem_metricFamily isLine⟩

theorem name_of_mem_statusFamilies
    {line : Line} (member : line ∈ statusFamilies sourceId values) :
    line.name = "crawler_http_status_total".toList := by
  rcases List.mem_flatMap.mp member with ⟨entry, _, isLine⟩
  exact name_of_mem_metricFamily isLine

/-- Every metric of a field has a name of its own. -/
theorem fieldMetric_names :
    (fieldMetrics.map FieldMetric.name).Nodup ∧
      ∀ fieldMetric ∈ fieldMetrics,
        fieldMetric.name ≠ "crawler_run_total" ∧
          fieldMetric.name ≠ "crawler_http_status_total" ∧
            fieldMetric.name ≠ "crawler_queue_depth" := by
  constructor
  · decide
  · simp only [fieldMetrics, List.forall_mem_cons]
    decide

theorem valuesOf_runFamily_of_ne
    {name : String} (different : "crawler_run_total" ≠ name)
    (labels : List (String × String)) :
    valuesOf (runFamily sourceId values) name labels = [] := by
  apply valuesOf_of_ne
  intro line member same
  rw [name_of_mem_metricFamily member] at same
  exact different (String.toList_injective same)

theorem valuesOf_fieldFamilies_of_ne
    {name : String}
    (different : ∀ fieldMetric ∈ fieldMetrics, fieldMetric.name ≠ name)
    (labels : List (String × String)) :
    valuesOf (fieldFamilies sourceId values) name labels = [] := by
  apply valuesOf_of_ne
  intro line member same
  rcases name_of_mem_fieldFamilies _ _ member with
    ⟨fieldMetric, isMetric, isName⟩
  rw [isName] at same
  exact different fieldMetric isMetric (String.toList_injective same)

theorem valuesOf_statusFamilies_of_ne
    {name : String} (different : "crawler_http_status_total" ≠ name)
    (labels : List (String × String)) :
    valuesOf (statusFamilies sourceId values) name labels = [] := by
  apply valuesOf_of_ne
  intro line member same
  rw [name_of_mem_statusFamilies _ _ member] at same
  exact different (String.toList_injective same)

theorem valuesOf_run (outcome : RunOutcome) :
    valuesOf (sourceFamilies sourceId values) "crawler_run_total"
        [("outcome", outcome.value), ("source_id", sourceId)] =
      [(fieldText ("run_total:" ++ outcome.value) values).toList] := by
  rw [sourceFamilies_eq, valuesOf_append, valuesOf_append,
    valuesOf_fieldFamilies_of_ne _ _ fun fieldMetric isMetric =>
      (fieldMetric_names.2 fieldMetric isMetric).1,
    valuesOf_statusFamilies_of_ne _ _ (by decide), List.append_nil,
    List.append_nil, runFamily, valuesOf_metricFamily]
  cases outcome <;> simp [outcomes, RunOutcome.value]

theorem valuesOf_field
    {fieldMetric : FieldMetric} (isMetric : fieldMetric ∈ fieldMetrics) :
    valuesOf (sourceFamilies sourceId values) fieldMetric.name
        [("source_id", sourceId)] =
      [(fieldText fieldMetric.field values).toList] := by
  rcases fieldMetric_names.2 fieldMetric isMetric with
    ⟨notRun, notStatus, _⟩
  rw [sourceFamilies_eq, valuesOf_append, valuesOf_append,
    valuesOf_runFamily_of_ne _ _ notRun.symm,
    valuesOf_statusFamilies_of_ne _ _ notStatus.symm, List.nil_append,
    List.append_nil, fieldFamilies, valuesOf_flatMap,
    flatMap_eq_of_nodup (.of_map _ fieldMetric_names.1) isMetric]
  · exact valuesOf_single _ _ _ _
  · intro other isOther different
    apply valuesOf_of_ne
    intro line member same
    rw [name_of_mem_metricFamily member] at same
    exact different
      (List.inj_on_of_nodup_map fieldMetric_names.1 isOther isMetric
        (String.toList_injective same))

/-- The family of a status shows the value of its code only. -/
theorem valuesOf_statusFamily (shown value code : String) :
    valuesOf
        (metricFamily "crawler_http_status_total" "counter"
          [([("source_id", sourceId), ("status_code", shown)], value)])
        "crawler_http_status_total"
        [("source_id", sourceId), ("status_code", code)] =
      if shown = code then [value.toList] else [] := by
  rw [valuesOf_metricFamily]
  split_ifs with same
  · simp [same]
  · simp [same]

/-- A status is shown with the value of its field. -/
theorem valuesOf_status
    {values : List (String × String)}
    (distinct : (values.map Prod.fst).Nodup)
    (codes : ∀ member ∈ values, isStatusField member.1 = true →
      member.1 = "http_status:" ++ afterColon member.1) (code : String) :
    valuesOf (sourceFamilies sourceId values) "crawler_http_status_total"
        [("source_id", sourceId), ("status_code", code)] =
      ((lookup ("http_status:" ++ code) values).map
        String.toList).toList := by
  rw [sourceFamilies_eq, valuesOf_append, valuesOf_append,
    valuesOf_runFamily_of_ne _ _ (by decide),
    valuesOf_fieldFamilies_of_ne _ _ fun fieldMetric isMetric =>
      (fieldMetric_names.2 fieldMetric isMetric).2.1,
    List.nil_append, List.nil_append, statusFamilies, valuesOf_flatMap]
  simp only [valuesOf_statusFamily]
  cases found : lookup ("http_status:" ++ code) values with
  | none =>
      rw [Option.map_none, Option.toList_none, List.flatMap_eq_nil_iff]
      intro member isShown
      rw [if_neg]
      intro same
      rcases mem_statusMembers_iff.mp isShown with ⟨isMember, isStatus⟩
      have isKey := lookup_of_mem distinct isMember
      rw [codes member isMember isStatus, same, found] at isKey
      cases isKey
  | some value =>
      have isMember := mem_of_lookup found
      have shownDistinct :
          ((values.insertionSort keyOrder).filter fun member =>
            isStatusField member.1).Nodup := by
        apply List.Nodup.filter
        exact (List.perm_insertionSort _ _).nodup_iff.mpr
          (.of_map _ distinct)
      rw [flatMap_eq_of_nodup shownDistinct
          (mem_statusMembers_iff.mpr ⟨isMember, startsStatus code⟩),
        afterColon_status, if_pos rfl]
      · rfl
      · intro other isOther different
        rw [if_neg]
        intro same
        rcases mem_statusMembers_iff.mp isOther with
          ⟨isOtherMember, isStatus⟩
        apply different
        apply List.inj_on_of_nodup_map distinct isOtherMember isMember
        rw [codes other isOtherMember isStatus, same]

end Source

/-! ## Counts, sums and last values -/

section Accounts

variable {Number : Type} (rules : FloatRules Number)

namespace MetricsCall

/-- A run with an outcome. -/
def isRun (outcome : RunOutcome) : MetricsCall Number → Bool
  | .run _ _ other _ _ _ => decide (other = outcome)
  | _ => false

/-- An HTTP status. -/
def isStatus (code : ℤ) : MetricsCall Number → Bool
  | .httpStatus _ other => decide (other = code)
  | _ => false

/-- A parse error. -/
def isParseError : MetricsCall Number → Bool
  | .parseError _ => true
  | _ => false

/-- A lock skip. -/
def isLockSkip : MetricsCall Number → Bool
  | .lockSkip _ => true
  | _ => false

/-- The created items of a call. -/
def created : MetricsCall Number → ℤ
  | .items _ created _ => created
  | _ => 0

/-- The updated items of a call. -/
def updated : MetricsCall Number → ℤ
  | .items _ _ updated => updated
  | _ => 0

/-- The duration of a run. -/
def duration : MetricsCall Number → Option String
  | .run _ _ _ durationSeconds _ _ => some (rules.text durationSeconds)
  | _ => none

/-- The item count of a run. -/
def itemsFound : MetricsCall Number → Option String
  | .run _ _ _ _ itemCount _ => some (integerText itemCount)
  | _ => none

/-- The time of a run which succeeded. -/
def success : MetricsCall Number → Option String
  | .run _ _ .succeeded _ _ timestamp => some (rules.text timestamp)
  | _ => none

/-- The state of a circuit breaker. -/
def circuit : MetricsCall Number → Option String
  | .circuitBreaker _ isOpen => some (if isOpen then "1" else "0")
  | _ => none

end MetricsCall

/-- How many calls there are of a kind. -/
def countText (isCounted : MetricsCall Number → Bool)
    (calls : List (MetricsCall Number)) : String :=
  integerText (calls.countP isCounted)

/-- The sum over all calls. -/
def sumText (amount : MetricsCall Number → ℤ)
    (calls : List (MetricsCall Number)) : String :=
  integerText (calls.map amount).sum

/-- The last value which a call sets, `0` if there is none. -/
def lastText (value : MetricsCall Number → Option String)
    (calls : List (MetricsCall Number)) : String :=
  ((calls.filterMap value).getLast?).getD "0"

theorem total_flatMap
    (field : String) (calls : List (MetricsCall Number)) :
    total field (calls.flatMap (MetricsCall.updates rules)) =
      (calls.map fun call => total field (call.updates rules)).sum := by
  induction calls with
  | nil => rfl
  | cons call rest induction =>
      rw [List.flatMap_cons, total_append, induction, List.map_cons,
        List.sum_cons]

omit rules in
theorem sum_map_ite
    (isCounted : MetricsCall Number → Bool)
    (calls : List (MetricsCall Number)) :
    (calls.map fun call => if isCounted call then (1 : ℤ) else 0).sum =
      calls.countP isCounted := by
  induction calls with
  | nil => rfl
  | cons call rest induction =>
      rw [List.map_cons, List.sum_cons, induction, List.countP_cons]
      split_ifs
      · push_cast
        exact add_comm _ _
      · push_cast
        exact (add_comm _ _)

/-- A counter shows the sum of what the calls for the source add to it. -/
theorem fieldText_sum
    {field : String} (isCounter : field ∉ gaugeFields)
    {amount : MetricsCall Number → ℤ}
    (adds : ∀ call, total field (MetricsCall.updates rules call) =
      amount call)
    (calls : List (MetricsCall Number)) (sourceId : String) :
    fieldText field (hashAfter rules calls sourceId) =
      sumText amount (callsFor rules sourceId calls) := by
  rw [hashAfter,
    fieldText_applyAll_counter isCounter fun _ => fits_updatesFor rules,
    updatesFor, total_flatMap, sumText]
  simp only [adds]

/-- A counter shows how many calls for the source add to it. -/
theorem fieldText_count
    {field : String} (isCounter : field ∉ gaugeFields)
    {isCounted : MetricsCall Number → Bool}
    (adds : ∀ call, total field (MetricsCall.updates rules call) =
      if isCounted call then 1 else 0)
    (calls : List (MetricsCall Number)) (sourceId : String) :
    fieldText field (hashAfter rules calls sourceId) =
      countText isCounted (callsFor rules sourceId calls) := by
  rw [fieldText_sum rules isCounter adds, sumText, sum_map_ite, countText]

/-- What a sequence of updates puts into a field. -/
def puts (field : String) (updates : List FieldUpdate) : List String :=
  updates.filterMap fun update =>
    match update with
    | .add _ _ => none
    | .put other text => if other = field then some text else none

/-- A gauge shows the last value set by the calls for the source. -/
theorem fieldText_last
    {field : String} (isGauge : field ∈ gaugeFields)
    {value : MetricsCall Number → Option String}
    (sets : ∀ call, puts field (MetricsCall.updates rules call) =
      (value call).toList)
    (calls : List (MetricsCall Number)) (sourceId : String) :
    fieldText field (hashAfter rules calls sourceId) =
      lastText value (callsFor rules sourceId calls) := by
  have all :
      puts field (updatesFor rules sourceId calls) =
        (callsFor rules sourceId calls).filterMap value := by
    rw [updatesFor, puts, List.filterMap_flatMap,
      List.filterMap_eq_flatMap_toList]
    apply List.flatMap_congr
    intro call _
    exact sets call
  rw [fieldText, hashAfter,
    lookup_applyAll_gauge isGauge fun _ => fits_updatesFor rules, lastText,
    ← all]
  rfl

theorem status_ne
    {field : String} (other : isStatusField field = false) (code : String) :
    "http_status:" ++ code ≠ field := by
  rintro rfl
  rw [startsStatus] at other
  cases other

/-! ## What one call adds and sets -/

theorem total_eq_zero
    {field : String} {updates : List FieldUpdate}
    (others : ∀ update ∈ updates, update.field ≠ field) :
    total field updates = 0 := by
  apply List.sum_eq_zero
  intro amount member
  rcases List.mem_map.mp member with ⟨update, isUpdate, rfl⟩
  cases update with
  | add other amount => exact if_neg (others _ isUpdate)
  | put other text => rfl

/-- Only recorded statuses are added to their fields. -/
theorem total_status (code : ℤ) (call : MetricsCall Number) :
    total ("http_status:" ++ integerText code) (call.updates rules) =
      if call.isStatus code then 1 else 0 := by
  by_cases isStatusCall : ∃ sourceId other, call = .httpStatus sourceId other
  · rcases isStatusCall with ⟨sourceId, other, rfl⟩
    show (if "http_status:" ++ integerText other =
      "http_status:" ++ integerText code then (1 : ℤ) else 0) + 0 = _
    rw [add_zero]
    by_cases same : other = code
    · rw [if_pos (by rw [same]), MetricsCall.isStatus, if_pos (by simp [same])]
    · have different :
          "http_status:" ++ integerText other ≠
            "http_status:" ++ integerText code := by
        intro equal
        have codes := congrArg afterColon equal
        rw [afterColon_status, afterColon_status] at codes
        exact same (integerText_injective codes)
      rw [if_neg different, MetricsCall.isStatus, if_neg (by simp [same])]
  · have notCounted : call.isStatus code = false := by
      cases call with
      | httpStatus sourceId other =>
          exact absurd ⟨sourceId, other, rfl⟩ isStatusCall
      | _ => rfl
    rw [notCounted, if_neg Bool.false_ne_true]
    apply total_eq_zero
    intro update isUpdate same
    have isStatus : isStatusField update.field = true := by
      rw [same]
      exact startsStatus _
    rcases httpStatus_of_isStatusField rules isUpdate isStatus with
      ⟨sourceId, other, isCall, _⟩
    exact isStatusCall ⟨sourceId, other, isCall⟩

/-- What a call adds to a counter with a name of its own. -/
theorem total_named
    {field : String} (notStatus : isStatusField field = false)
    (call : MetricsCall Number) :
    total field (call.updates rules) =
      match call with
      | .run _ _ outcome _ _ _ =>
          (if "run_total:" ++ outcome.value = field then 1 else 0) +
            if outcome = .failed ∧ "run_failed_total" = field then 1 else 0
      | .httpStatus _ _ => 0
      | .items _ created updated =>
          (if "items_created" = field then created else 0) +
            if "items_updated" = field then updated else 0
      | .parseError _ => if "parse_error_total" = field then 1 else 0
      | .lockSkip _ => if "lock_skip_total" = field then 1 else 0
      | .circuitBreaker _ _ => 0 := by
  cases call with
  | run sourceId runId outcome durationSeconds itemCount timestamp =>
      cases outcome <;> simp [total, MetricsCall.updates]
  | httpStatus sourceId code =>
      simp [total, MetricsCall.updates, status_ne notStatus]
  | items sourceId created updated => simp [total, MetricsCall.updates]
  | parseError sourceId => simp [total, MetricsCall.updates]
  | lockSkip sourceId => simp [total, MetricsCall.updates]
  | circuitBreaker sourceId isOpen => simp [total, MetricsCall.updates]

theorem total_run (outcome : RunOutcome) (call : MetricsCall Number) :
    total ("run_total:" ++ outcome.value) (call.updates rules) =
      if call.isRun outcome then 1 else 0 := by
  have notStatus : isStatusField ("run_total:" ++ outcome.value) = false := by
    cases outcome <;> decide
  rw [total_named rules notStatus]
  cases call with
  | run sourceId runId other durationSeconds itemCount timestamp =>
      cases outcome <;> cases other <;>
        simp [MetricsCall.isRun, RunOutcome.value]
  | httpStatus sourceId code => rfl
  | items sourceId created updated =>
      cases outcome <;> simp [MetricsCall.isRun, RunOutcome.value]
  | parseError sourceId =>
      cases outcome <;> simp [MetricsCall.isRun, RunOutcome.value]
  | lockSkip sourceId =>
      cases outcome <;> simp [MetricsCall.isRun, RunOutcome.value]
  | circuitBreaker sourceId isOpen => rfl

theorem total_failed (call : MetricsCall Number) :
    total "run_failed_total" (call.updates rules) =
      if call.isRun .failed then 1 else 0 := by
  rw [total_named rules (by decide)]
  cases call with
  | run sourceId runId other durationSeconds itemCount timestamp =>
      cases other <;> simp [MetricsCall.isRun, RunOutcome.value]
  | _ => simp [MetricsCall.isRun]

theorem total_created (call : MetricsCall Number) :
    total "items_created" (call.updates rules) = call.created := by
  rw [total_named rules (by decide)]
  cases call with
  | run sourceId runId other durationSeconds itemCount timestamp =>
      cases other <;> simp [MetricsCall.created, RunOutcome.value]
  | _ => simp [MetricsCall.created]

theorem total_updated (call : MetricsCall Number) :
    total "items_updated" (call.updates rules) = call.updated := by
  rw [total_named rules (by decide)]
  cases call with
  | run sourceId runId other durationSeconds itemCount timestamp =>
      cases other <;> simp [MetricsCall.updated, RunOutcome.value]
  | _ => simp [MetricsCall.updated]

theorem total_parseError (call : MetricsCall Number) :
    total "parse_error_total" (call.updates rules) =
      if call.isParseError then 1 else 0 := by
  rw [total_named rules (by decide)]
  cases call with
  | run sourceId runId other durationSeconds itemCount timestamp =>
      cases other <;> simp [MetricsCall.isParseError, RunOutcome.value]
  | _ => simp [MetricsCall.isParseError]

theorem total_lockSkip (call : MetricsCall Number) :
    total "lock_skip_total" (call.updates rules) =
      if call.isLockSkip then 1 else 0 := by
  rw [total_named rules (by decide)]
  cases call with
  | run sourceId runId other durationSeconds itemCount timestamp =>
      cases other <;> simp [MetricsCall.isLockSkip, RunOutcome.value]
  | _ => simp [MetricsCall.isLockSkip]

theorem puts_duration (call : MetricsCall Number) :
    puts "run_duration_seconds" (call.updates rules) =
      (call.duration rules).toList := by
  cases call with
  | run sourceId runId other durationSeconds itemCount timestamp =>
      cases other <;> simp [puts, MetricsCall.updates, MetricsCall.duration]
  | _ => simp [puts, MetricsCall.updates, MetricsCall.duration]

theorem puts_itemsFound (call : MetricsCall Number) :
    puts "items_found" (call.updates rules) = call.itemsFound.toList := by
  cases call with
  | run sourceId runId other durationSeconds itemCount timestamp =>
      cases other <;>
        simp [puts, MetricsCall.updates, MetricsCall.itemsFound]
  | _ => simp [puts, MetricsCall.updates, MetricsCall.itemsFound]

theorem puts_success (call : MetricsCall Number) :
    puts "last_success_timestamp" (call.updates rules) =
      (call.success rules).toList := by
  cases call with
  | run sourceId runId other durationSeconds itemCount timestamp =>
      cases other <;> simp [puts, MetricsCall.updates, MetricsCall.success]
  | _ => simp [puts, MetricsCall.updates, MetricsCall.success]

theorem puts_circuit (call : MetricsCall Number) :
    puts "circuit_breaker_state" (call.updates rules) =
      call.circuit.toList := by
  cases call with
  | run sourceId runId other durationSeconds itemCount timestamp =>
      cases other <;> simp [puts, MetricsCall.updates, MetricsCall.circuit]
  | _ => simp [puts, MetricsCall.updates, MetricsCall.circuit]

/-! ## The page and the calls -/

omit rules in
/-- Every sample of a source has its label, and that of no other source. -/
theorem source_of_mem_sourceFamilies
    {sourceId : String} {values : List (String × String)}
    {name value : Text} {labels : List (Text × Text)}
    (member : .sample name labels value ∈ sourceFamilies sourceId values)
    (other : Text) :
    ("source_id".toList, other) ∈ labels ↔ other = sourceId.toList := by
  have inFamily {name' kind : String}
      {samples : List (List (String × String) × String)}
      (inLines : .sample name labels value ∈
        metricFamily name' kind samples) :
      ∃ sample ∈ samples, labels = labelTexts sample.1 := by
    rcases List.mem_cons.mp inLines with isType | isSample
    · cases isType
    · rw [List.map_map] at isSample
      rcases List.mem_map.mp isSample with ⟨sample, isListed, same⟩
      cases same
      exact ⟨sample, isListed, rfl⟩
  rw [sourceFamilies_eq, List.mem_append, List.mem_append] at member
  rcases member with (isRun | isField) | isStatus
  · rcases inFamily isRun with ⟨sample, isListed, rfl⟩
    rcases List.mem_map.mp isListed with ⟨outcome, _, rfl⟩
    simp [labelTexts]
  · rcases List.mem_flatMap.mp isField with ⟨fieldMetric, _, isLine⟩
    rcases inFamily isLine with ⟨sample, isListed, rfl⟩
    rw [List.mem_singleton.mp isListed]
    simp [labelTexts]
  · rcases List.mem_flatMap.mp isStatus with ⟨entry, _, isLine⟩
    rcases inFamily isLine with ⟨sample, isListed, rfl⟩
    rw [List.mem_singleton.mp isListed]
    simp [labelTexts]

omit rules in
theorem source_not_mem_queueFamily
    {queueDepths : QueueDepths} {name value : Text}
    {labels : List (Text × Text)}
    (member : .sample name labels value ∈ queueFamily queueDepths)
    (sourceId : Text) : ("source_id".toList, sourceId) ∉ labels := by
  rcases List.mem_cons.mp member with isHelp | isFamily
  · cases isHelp
  · rcases List.mem_cons.mp isFamily with isType | isSample
    · cases isType
    · rw [List.map_map] at isSample
      rcases List.mem_map.mp isSample with ⟨sample, isListed, same⟩
      cases same
      rcases List.mem_cons.mp isListed with rfl | isLast
      · simp
      · rw [List.mem_singleton.mp isLast]
        simp

/-- A sample of the page with the label of a source is one of its lines. -/
theorem mem_of_source
    {calls : List (MetricsCall Number)} {queueDepths : QueueDepths}
    {name value : Text} {labels : List (Text × Text)}
    (member :
      .sample name labels value ∈
        pageLines (snapshotAfter rules calls queueDepths))
    {sourceId : String}
    (isSource : ("source_id".toList, sourceId.toList) ∈ labels) :
    Named rules calls sourceId ∧
      .sample name labels value ∈
        sourceFamilies sourceId (hashAfter rules calls sourceId) := by
  rw [pageLines, List.mem_append] at member
  rcases member with isQueue | inSources
  · exact absurd isSource (source_not_mem_queueFamily isQueue _)
  · rcases List.mem_flatMap.mp inSources with ⟨source, isListed, isLine⟩
    rcases List.mem_map.mp isListed with ⟨other, isOther, rfl⟩
    have same : sourceId = other :=
      String.toList_injective
        ((source_of_mem_sourceFamilies isLine _).mp isSource)
    rw [same]
    exact ⟨(mem_sourcesAfter_iff rules calls other).mp isOther, isLine⟩

/-- What the page says of a source is what its lines say. -/
theorem valuesOf_pageLines
    {calls : List (MetricsCall Number)} {sourceId : String}
    (named : Named rules calls sourceId) (queueDepths : QueueDepths)
    (name : String) {labels : List (String × String)}
    (isSource : ("source_id", sourceId) ∈ labels) :
    valuesOf (pageLines (snapshotAfter rules calls queueDepths)) name
        labels =
      valuesOf (sourceFamilies sourceId (hashAfter rules calls sourceId))
        name labels := by
  have isSourceText :
      ("source_id".toList, sourceId.toList) ∈ labelTexts labels :=
    List.mem_map_of_mem isSource
  have nothing {lines : List Line}
      (others : ∀ found value, .sample name.toList found value ∈ lines →
        ("source_id".toList, sourceId.toList) ∉ found) :
      valuesOf lines name labels = [] := by
    rw [valuesOf, List.filterMap_eq_nil_iff]
    intro line member
    cases line with
    | help other documentation => rfl
    | typed other kind => rfl
    | sample other found value =>
        dsimp only
        rw [if_neg]
        rintro ⟨rfl, rfl⟩
        exact others _ _ member isSourceText
  rw [pageLines, valuesOf_append, valuesOf_flatMap, snapshotAfter,
    List.flatMap_map]
  rw [nothing fun found value member =>
      source_not_mem_queueFamily member _, List.nil_append]
  apply flatMap_eq_of_nodup (nodup_sourcesAfter rules calls)
    ((mem_sourcesAfter_iff rules calls sourceId).mpr named)
  intro other _ different
  apply nothing
  intro found value member isOther
  exact different
    (String.toList_injective
      ((source_of_mem_sourceFamilies member _).mp isOther)).symm

/-- A page shows one value of a metric of a source. -/
def Shows (lines : List Line) (sourceId name text : String) : Prop :=
  valuesOf lines name [("source_id", sourceId)] = [text.toList]

/-- What a page says of a source which has been named by these calls. -/
structure SourceAccount (sourceId : String)
    (calls : List (MetricsCall Number)) (lines : List Line) : Prop where
  runs : ∀ outcome,
    valuesOf lines "crawler_run_total"
        [("outcome", RunOutcome.value outcome), ("source_id", sourceId)] =
      [(countText (MetricsCall.isRun outcome) calls).toList]
  failedRuns :
    Shows lines sourceId "crawler_run_failed_total"
      (countText (MetricsCall.isRun .failed) calls)
  itemsCreated :
    Shows lines sourceId "crawler_items_created"
      (sumText MetricsCall.created calls)
  itemsUpdated :
    Shows lines sourceId "crawler_items_updated"
      (sumText MetricsCall.updated calls)
  parseErrors :
    Shows lines sourceId "crawler_parse_error_total"
      (countText MetricsCall.isParseError calls)
  lockSkips :
    Shows lines sourceId "crawler_lock_skip_total"
      (countText MetricsCall.isLockSkip calls)
  runDuration :
    Shows lines sourceId "crawler_run_duration_seconds"
      (lastText (MetricsCall.duration rules) calls)
  itemsFound :
    Shows lines sourceId "crawler_items_found"
      (lastText MetricsCall.itemsFound calls)
  lastSuccess :
    Shows lines sourceId "crawler_last_success_timestamp"
      (lastText (MetricsCall.success rules) calls)
  circuitBreaker :
    Shows lines sourceId "crawler_circuit_breaker_state"
      (lastText MetricsCall.circuit calls)
  statuses : ∀ code,
    valuesOf lines "crawler_http_status_total"
        [("source_id", sourceId), ("status_code", integerText code)] =
      if calls.any (MetricsCall.isStatus code) then
        [(countText (MetricsCall.isStatus code) calls).toList]
      else []
  onlyStatuses : ∀ labels value,
    .sample "crawler_http_status_total".toList labels value ∈ lines →
      ("source_id".toList, sourceId.toList) ∈ labels →
        ∃ code, .httpStatus sourceId code ∈ calls ∧
          labels =
            labelTexts
              [("source_id", sourceId), ("status_code", integerText code)]

/-- The page accounts for the calls. -/
structure Accounts (calls : List (MetricsCall Number)) (lines : List Line) :
    Prop where
  sources : ∀ sourceId,
    HasSource lines sourceId ↔ Named rules calls sourceId
  account : ∀ sourceId, Named rules calls sourceId →
    SourceAccount rules sourceId (callsFor rules sourceId calls) lines

omit rules in
/-- The metric of a field is among the metrics of a source. -/
theorem shows_of_fieldText
    {lines : List Line} {sourceId : String}
    {values : List (String × String)}
    (same : ∀ name, valuesOf lines name [("source_id", sourceId)] =
      valuesOf (sourceFamilies sourceId values) name
        [("source_id", sourceId)])
    {fieldMetric : FieldMetric} (isMetric : fieldMetric ∈ fieldMetrics)
    {text : String}
    (isText : fieldText fieldMetric.field values = text) :
    Shows lines sourceId fieldMetric.name text := by
  rw [Shows, same, valuesOf_field _ _ isMetric, isText]

/-- The status of a field which is shown is the text after its colon. -/
theorem code_of_mem_hashAfter
    {calls : List (MetricsCall Number)} {sourceId : String}
    (member : String × String)
    (isMember : member ∈ hashAfter rules calls sourceId)
    (isStatus : isStatusField member.1 = true) :
    member.1 = "http_status:" ++ afterColon member.1 := by
  rcases httpStatus_of_mem_hashAfter rules isMember isStatus with
    ⟨code, _, isField⟩
  rw [isField, afterColon_status]

/-- The field of a status holds how often it has been recorded. -/
theorem lookup_status
    (calls : List (MetricsCall Number)) (sourceId : String) (code : ℤ) :
    lookup ("http_status:" ++ integerText code)
        (hashAfter rules calls sourceId) =
      if (callsFor rules sourceId calls).any (MetricsCall.isStatus code) then
        some
          (countText (MetricsCall.isStatus code)
            (callsFor rules sourceId calls))
      else none := by
  have counted :=
    fieldText_count rules (statusField_not_mem_gaugeFields _)
      (total_status rules code) calls sourceId
  have isKey :
      "http_status:" ++ integerText code ∈
          (hashAfter rules calls sourceId).map Prod.fst ↔
        (callsFor rules sourceId calls).any (MetricsCall.isStatus code) =
          true := by
    rw [hashAfter, mem_keys_applyAll_iff, List.any_eq_true]
    constructor
    · rintro ⟨update, isUpdate, isField⟩
      rcases List.mem_flatMap.mp isUpdate with ⟨call, isCall, isUpdateOf⟩
      have isStatus : isStatusField update.field = true := by
        rw [isField]
        exact startsStatus _
      rcases httpStatus_of_isStatusField rules isUpdateOf isStatus with
        ⟨source, other, rfl, rfl⟩
      refine ⟨_, isCall, ?_⟩
      have codes := congrArg afterColon isField
      rw [FieldUpdate.field, afterColon_status, afterColon_status] at codes
      exact decide_eq_true (integerText_injective codes)
    · rintro ⟨call, isCall, isStatus⟩
      cases call with
      | httpStatus source other =>
          have same : other = code := of_decide_eq_true isStatus
          subst same
          exact ⟨_, List.mem_flatMap.mpr ⟨_, isCall, List.mem_cons_self⟩,
            rfl⟩
      | _ => cases isStatus
  cases found :
    lookup ("http_status:" ++ integerText code)
      (hashAfter rules calls sourceId) with
  | none =>
      rw [if_neg]
      rw [← isKey]
      intro member
      rcases List.mem_map.mp member with ⟨pair, isPair, isField⟩
      have present := lookup_of_mem (nodup_keys_applyAll _) isPair
      rw [isField] at present
      rw [hashAfter] at found
      rw [found] at present
      cases present
  | some value =>
      rw [if_pos (isKey.mp (List.mem_map_of_mem (mem_of_lookup found)))]
      rw [fieldText, found, Option.getD_some] at counted
      rw [counted]

/-- A status which a source shows has been recorded for it. -/
theorem httpStatus_of_mem_sourceFamilies
    {calls : List (MetricsCall Number)} {sourceId : String}
    {labels : List (Text × Text)} {value : Text}
    (member :
      .sample "crawler_http_status_total".toList labels value ∈
        sourceFamilies sourceId (hashAfter rules calls sourceId)) :
    ∃ code, .httpStatus sourceId code ∈ callsFor rules sourceId calls ∧
      labels =
        labelTexts
          [("source_id", sourceId), ("status_code", integerText code)] := by
  rw [sourceFamilies_eq, List.mem_append, List.mem_append] at member
  rcases member with (isRun | isField) | isStatus
  · have wrong :
        "crawler_http_status_total".toList = "crawler_run_total".toList :=
      name_of_mem_metricFamily isRun
    exact absurd wrong (by decide)
  · rcases name_of_mem_fieldFamilies _ _ isField with
      ⟨fieldMetric, isMetric, isName⟩
    exact absurd (String.toList_injective isName).symm
      (fieldMetric_names.2 fieldMetric isMetric).2.1
  · rcases List.mem_flatMap.mp isStatus with ⟨entry, isEntry, isLine⟩
    rcases mem_statusMembers_iff.mp isEntry with ⟨isMember, isStatusEntry⟩
    rcases httpStatus_of_mem_hashAfter rules isMember isStatusEntry with
      ⟨code, isCall, isField⟩
    refine ⟨code, isCall, ?_⟩
    rcases List.mem_cons.mp isLine with isType | isSample
    · cases isType
    · rw [List.map_map] at isSample
      rw [List.map_singleton, List.mem_singleton] at isSample
      cases isSample
      rw [isField, afterColon_status]
      rfl

/-- The page says of a source what has been recorded for it. -/
theorem sourceAccount_pageLines
    {calls : List (MetricsCall Number)} {sourceId : String}
    (named : Named rules calls sourceId) (queueDepths : QueueDepths) :
    SourceAccount rules sourceId (callsFor rules sourceId calls)
      (pageLines (snapshotAfter rules calls queueDepths)) := by
  have same (name : String) :
      valuesOf (pageLines (snapshotAfter rules calls queueDepths)) name
          [("source_id", sourceId)] =
        valuesOf (sourceFamilies sourceId (hashAfter rules calls sourceId))
          name [("source_id", sourceId)] :=
    valuesOf_pageLines rules named queueDepths name List.mem_cons_self
  have shows (fieldMetric : FieldMetric)
      (isMetric : fieldMetric ∈ fieldMetrics) {text : String}
      (isText :
        fieldText fieldMetric.field (hashAfter rules calls sourceId) =
          text) :
      Shows (pageLines (snapshotAfter rules calls queueDepths)) sourceId
        fieldMetric.name text :=
    shows_of_fieldText same isMetric isText
  constructor
  · intro outcome
    have notGauge : "run_total:" ++ outcome.value ∉ gaugeFields := by
      cases outcome <;> decide
    rw [valuesOf_pageLines rules named queueDepths _ (by simp),
      valuesOf_run,
      fieldText_count rules notGauge (total_run rules outcome)]
  · exact shows
      ⟨"crawler_run_failed_total", "run_failed_total", "counter"⟩
      (by simp [fieldMetrics])
      (fieldText_count rules (by decide) (total_failed rules) _ _)
  · exact shows ⟨"crawler_items_created", "items_created", "counter"⟩
      (by simp [fieldMetrics])
      (fieldText_sum rules (by decide) (total_created rules) _ _)
  · exact shows ⟨"crawler_items_updated", "items_updated", "counter"⟩
      (by simp [fieldMetrics])
      (fieldText_sum rules (by decide) (total_updated rules) _ _)
  · exact shows
      ⟨"crawler_parse_error_total", "parse_error_total", "counter"⟩
      (by simp [fieldMetrics])
      (fieldText_count rules (by decide) (total_parseError rules) _ _)
  · exact shows ⟨"crawler_lock_skip_total", "lock_skip_total", "counter"⟩
      (by simp [fieldMetrics])
      (fieldText_count rules (by decide) (total_lockSkip rules) _ _)
  · exact shows
      ⟨"crawler_run_duration_seconds", "run_duration_seconds", "gauge"⟩
      (by simp [fieldMetrics])
      (fieldText_last rules (by decide) (puts_duration rules) _ _)
  · exact shows ⟨"crawler_items_found", "items_found", "gauge"⟩
      (by simp [fieldMetrics])
      (fieldText_last rules (by decide) (puts_itemsFound rules) _ _)
  · exact shows
      ⟨"crawler_last_success_timestamp", "last_success_timestamp", "gauge"⟩
      (by simp [fieldMetrics])
      (fieldText_last rules (by decide) (puts_success rules) _ _)
  · exact shows
      ⟨"crawler_circuit_breaker_state", "circuit_breaker_state", "gauge"⟩
      (by simp [fieldMetrics])
      (fieldText_last rules (by decide) (puts_circuit rules) _ _)
  · intro code
    have distinct : ((hashAfter rules calls sourceId).map Prod.fst).Nodup :=
      nodup_keys_applyAll _
    rw [valuesOf_pageLines rules named queueDepths _ List.mem_cons_self,
      valuesOf_status sourceId distinct (code_of_mem_hashAfter rules),
      lookup_status]
    split_ifs <;> rfl
  · intro labels value member isSource
    exact httpStatus_of_mem_sourceFamilies rules
      (mem_of_source rules member isSource).2

/-- The page has the series of exactly the sources which have been named. -/
theorem hasSource_pageLines_iff
    (calls : List (MetricsCall Number)) (queueDepths : QueueDepths)
    (sourceId : String) :
    HasSource (pageLines (snapshotAfter rules calls queueDepths)) sourceId ↔
      Named rules calls sourceId := by
  constructor
  · rintro ⟨name, labels, value, member, isSource⟩
    exact (mem_of_source rules member isSource).1
  · intro named
    have runs :=
      (sourceAccount_pageLines rules named queueDepths).runs .succeeded
    have found :
        (countText (MetricsCall.isRun .succeeded)
            (callsFor rules sourceId calls)).toList ∈
          valuesOf (pageLines (snapshotAfter rules calls queueDepths))
            "crawler_run_total"
            [("outcome", RunOutcome.value .succeeded),
              ("source_id", sourceId)] := by
      rw [runs]
      exact List.mem_cons_self
    rcases List.mem_filterMap.mp found with ⟨line, member, isValue⟩
    cases line with
    | help other documentation => cases isValue
    | typed other kind => cases isValue
    | sample other labels value =>
        dsimp only at isValue
        split_ifs at isValue with isSample
        refine ⟨other, labels, value, member, ?_⟩
        rw [isSample.2]
        exact List.mem_map_of_mem
          (List.mem_cons_of_mem _ List.mem_cons_self)

/-! ## Run ids -/

/-- The page can be read, and accounts for the calls. -/
theorem accounts_pageAfter
    (calls : List (MetricsCall Number)) (queueDepths : QueueDepths) :
    ∃ page lines, pageAfter rules calls queueDepths = .ok page ∧
      readPage page.toList = some lines ∧ Accounts rules calls lines := by
  rcases readPage_pageAfter rules calls queueDepths with
    ⟨page, isPage, isRead⟩
  refine ⟨page, _, isPage, isRead, ?_⟩
  constructor
  · exact hasSource_pageLines_iff rules calls queueDepths
  · intro sourceId named
    exact sourceAccount_pageLines rules named queueDepths

end Accounts

end MultisiteCrawler.Metrics
