import MultisiteCrawler.Foundation.JsonOrder
import MultisiteCrawler.Metrics.Ledger

/-!
# The metrics page

`snapshot` reads the hash of every registered source and `renderPrometheus`
writes them as a page of the text exposition format.  `pageLines` are the lines
of this page.
-/

namespace MultisiteCrawler.Metrics

open Foundation.Exposition
open Foundation.Interaction
open Foundation.JsonOrder
open Foundation.JsonText
open Foundation.Lists
open Foundation.PythonErrors
open Foundation.PythonText
open Observability

/-! ## Snapshots -/

/-- `QueueDepths`. -/
structure QueueDepths where
  http : ℤ
  browser : ℤ
deriving DecidableEq, Repr

/-- `MetricsSnapshot`. -/
structure MetricsSnapshot where
  sources : List (String × List (String × String))
  queueDepths : QueueDepths

/-- The loop over the sources. -/
def readSources :
    List String → MetricsProgram (List (String × List (String × String)))
  | [] => pure []
  | sourceId :: rest => do
      let values ← MetricsProgram.hgetall (sourceKey sourceId)
      let others ← readSources rest
      pure ((sourceId, values) :: others)

/-- `snapshot`. -/
def snapshot (queueDepths : QueueDepths) :
    MetricsProgram MetricsSnapshot := do
  let members ← MetricsProgram.smembers sourcesKey
  let sources ← readSources (members.insertionSort (· ≤ ·))
  pure ⟨sources, queueDepths⟩

/-! ## Rendering -/

/-- `_metric`. -/
def metric (name value : String) (labels : List (String × String)) :
    String :=
  let renderedLabels :=
    ",".intercalate
      ((labels.insertionSort keyOrder).map fun label =>
        label.1 ++ "=\"" ++ label.2 ++ "\"")
  name ++ "\x7b" ++ renderedLabels ++ "\x7d " ++ value

/-- The comment which declares a type. -/
def typeLine (name kind : String) : String :=
  "# TYPE " ++ name ++ " " ++ kind

/-- The outcomes, in their order. -/
def outcomes : List RunOutcome :=
  [.succeeded, .failed, .skipped]

/-- `_run_total_lines`. -/
def runTotalLines (sourceId : String) (values : List (String × String)) :
    List String :=
  typeLine "crawler_run_total" "counter" ::
    outcomes.map fun outcome =>
      metric "crawler_run_total"
        (fieldText ("run_total:" ++ outcome.value) values)
        [("source_id", sourceId), ("outcome", outcome.value)]

/-- A metric which is read from one field. -/
structure FieldMetric where
  name : String
  field : String
  kind : String

/-- The metrics which are read from one field each. -/
def fieldMetrics : List FieldMetric :=
  [⟨"crawler_run_failed_total", "run_failed_total", "counter"⟩,
    ⟨"crawler_run_duration_seconds", "run_duration_seconds", "gauge"⟩,
    ⟨"crawler_items_found", "items_found", "gauge"⟩,
    ⟨"crawler_items_created", "items_created", "counter"⟩,
    ⟨"crawler_items_updated", "items_updated", "counter"⟩,
    ⟨"crawler_last_success_timestamp", "last_success_timestamp", "gauge"⟩,
    ⟨"crawler_parse_error_total", "parse_error_total", "counter"⟩,
    ⟨"crawler_lock_skip_total", "lock_skip_total", "counter"⟩,
    ⟨"crawler_circuit_breaker_state", "circuit_breaker_state", "gauge"⟩]

/-- `field.startswith("http_status:")`. -/
def isStatusField (field : String) : Bool :=
  "http_status:".toList.isPrefixOf field.toList

/-- `field.split(":", 1)[1]`. -/
def afterColon (field : String) : String :=
  .ofList ((field.toList.dropWhile fun character => character != ':').drop 1)

/-- The lines of one field of the hash of a source. -/
def statusLines (sourceId field value : String) : List String :=
  if isStatusField field then
    [typeLine "crawler_http_status_total" "counter",
      metric "crawler_http_status_total" value
        [("source_id", sourceId), ("status_code", afterColon field)]]
  else []

/-- The lines of one source. -/
def sourceLines (sourceId : String) (values : List (String × String)) :
    List String :=
  runTotalLines sourceId values ++
    (fieldMetrics.flatMap fun fieldMetric =>
      [typeLine fieldMetric.name fieldMetric.kind,
        metric fieldMetric.name (fieldText fieldMetric.field values)
          [("source_id", sourceId)]]) ++
    (values.insertionSort keyOrder).flatMap fun member =>
      statusLines sourceId member.1 member.2

/-- The first lines of the page. -/
def queueLines (queueDepths : QueueDepths) : List String :=
  ["# HELP crawler_queue_depth Current queue backlog.",
    typeLine "crawler_queue_depth" "gauge",
    metric "crawler_queue_depth" (integerText queueDepths.http)
      [("queue", "http")],
    metric "crawler_queue_depth" (integerText queueDepths.browser)
      [("queue", "browser")]]

/-- `render_prometheus`. -/
def renderPrometheus (snapshot : MetricsSnapshot) : String :=
  "\n".intercalate
      (queueLines snapshot.queueDepths ++
        snapshot.sources.flatMap fun source =>
          sourceLines source.1 source.2) ++
    "\n"

/-! ## The lines which are rendered -/

/-- A sample with texts as lists of characters. -/
def sampleLine (name value : String) (labels : List (String × String)) :
    Line :=
  .sample name.toList
    (labels.map fun label => (label.1.toList, label.2.toList)) value.toList

/-- The type of a metric and its samples. -/
def metricFamily (name kind : String)
    (samples : List (List (String × String) × String)) : List Line :=
  family name.toList kind.toList
    (samples.map fun sample =>
      (sample.1.map fun label => (label.1.toList, label.2.toList),
        sample.2.toList))

/-- The lines of one source. -/
def sourceFamilies (sourceId : String) (values : List (String × String)) :
    List Line :=
  metricFamily "crawler_run_total" "counter"
      (outcomes.map fun outcome =>
        ([("outcome", outcome.value), ("source_id", sourceId)],
          fieldText ("run_total:" ++ outcome.value) values)) ++
    (fieldMetrics.flatMap fun fieldMetric =>
      metricFamily fieldMetric.name fieldMetric.kind
        [([("source_id", sourceId)],
          fieldText fieldMetric.field values)]) ++
    ((values.insertionSort keyOrder).filter fun member =>
      isStatusField member.1).flatMap fun member =>
        metricFamily "crawler_http_status_total" "counter"
          [([("source_id", sourceId),
              ("status_code", afterColon member.1)], member.2)]

/-- The first lines of the page. -/
def queueFamily (queueDepths : QueueDepths) : List Line :=
  .help "crawler_queue_depth".toList "Current queue backlog.".toList ::
    metricFamily "crawler_queue_depth" "gauge"
      [([("queue", "http")], integerText queueDepths.http),
        ([("queue", "browser")], integerText queueDepths.browser)]

/-- The lines of the page. -/
def pageLines (snapshot : MetricsSnapshot) : List Line :=
  queueFamily snapshot.queueDepths ++
    snapshot.sources.flatMap fun source => sourceFamilies source.1 source.2

/-! ## The text of the lines -/

/-- A label value which needs no escapes. -/
def Plain (value : String) : Prop :=
  ∀ character ∈ value.toList,
    character ≠ '\\' ∧ character ≠ '"' ∧ character ≠ '\n'

instance (value : String) : Decidable (Plain value) :=
  List.decidableBAll _ _

theorem escape_of_plain {value : String} (plain : Plain value) :
    value.toList.flatMap escapeLabelChar = value.toList := by
  have all :
      value.toList.flatMap escapeLabelChar =
        value.toList.flatMap fun character => [character] := by
    apply List.flatMap_congr
    intro character member
    rcases plain character member with ⟨noBackslash, noQuote, noBreak⟩
    rw [escapeLabelChar, if_neg noBackslash, if_neg noQuote, if_neg noBreak]
  rw [all]
  exact List.flatMap_singleton' _

theorem toList_append_four (first second third fourth : String) :
    (first ++ second ++ third ++ fourth).toList =
      first.toList ++ second.toList ++ third.toList ++ fourth.toList := by
  simp only [String.toList_append]

theorem toList_label {label : String × String} (plain : Plain label.2) :
    (label.1 ++ "=\"" ++ label.2 ++ "\"").toList =
      labelText (label.1.toList, label.2.toList) := by
  rw [toList_append_four, labelText, escape_of_plain plain]
  simp

/-- A metric is written as a sample with its labels in order. -/
theorem toList_metric
    {labels ordered : List (String × String)}
    (sorted : labels.insertionSort keyOrder = ordered)
    (nonempty : ordered ≠ [])
    (plain : ∀ label ∈ ordered, Plain label.2) (name value : String) :
    (metric name value labels).toList =
      (sampleLine name value ordered).text := by
  have rendered :
      (ordered.map fun label =>
          label.1 ++ "=\"" ++ label.2 ++ "\"").map String.toList =
        (ordered.map fun label =>
          (label.1.toList, label.2.toList)).map labelText := by
    rw [List.map_map, List.map_map]
    apply List.map_congr_left
    intro label member
    exact toList_label (plain label member)
  have text (labels : List (Text × Text)) (some : labels ≠ []) :
      (Line.sample name.toList labels value.toList).text =
        name.toList ++
          '{' :: [','].intercalate (labels.map labelText) ++
            ('}' :: ' ' :: value.toList) := by
    cases labels with
    | nil => exact absurd rfl some
    | cons label labels => rfl
  rw [metric, sorted, sampleLine, text _ (by simpa using nonempty)]
  simp only [String.toList_append, String.toList_intercalate, rendered]
  simp

theorem toList_typeLine (name kind : String) :
    (typeLine name kind).toList =
      (Line.typed name.toList kind.toList).text := by
  rw [typeLine, toList_append_four]
  simp [Line.text]

theorem sorted_outcome (sourceId outcome : String) :
    [("source_id", sourceId), ("outcome", outcome)].insertionSort
        keyOrder =
      [("outcome", outcome), ("source_id", sourceId)] := by
  simp [List.insertionSort, List.orderedInsert, keyOrder]

theorem sorted_statusCode (sourceId code : String) :
    [("source_id", sourceId), ("status_code", code)].insertionSort
        keyOrder =
      [("source_id", sourceId), ("status_code", code)] := by
  simp [List.insertionSort, keyOrder]

/-- Labels of one metric, in order and without escapes. -/
theorem toList_metric_singleton
    {key label : String} (plain : Plain label) (name value : String) :
    (metric name value [(key, label)]).toList =
      (sampleLine name value [(key, label)]).text := by
  have sorted : [(key, label)].insertionSort keyOrder = [(key, label)] := rfl
  apply toList_metric sorted (List.cons_ne_nil _ _)
  intro other member
  rw [List.mem_singleton.mp member]
  exact plain

/-- The texts of the lines of one source. -/
structure PlainSource (sourceId : String)
    (values : List (String × String)) : Prop where
  sourceId : Plain sourceId
  codes : ∀ member ∈ values, isStatusField member.1 = true →
    Plain (afterColon member.1)

theorem plain_outcome (outcome : RunOutcome) : Plain outcome.value := by
  cases outcome <;> decide

theorem map_toList_runTotalLines
    {sourceId : String} (plain : Plain sourceId)
    (values : List (String × String)) :
    (runTotalLines sourceId values).map String.toList =
      (metricFamily "crawler_run_total" "counter"
        (outcomes.map fun outcome =>
          ([("outcome", outcome.value), ("source_id", sourceId)],
            fieldText ("run_total:" ++ outcome.value) values))).map
        Line.text := by
  rw [runTotalLines, metricFamily, family, List.map_cons, List.map_cons,
    toList_typeLine, List.map_map, List.map_map, List.map_map,
    List.map_map]
  refine congrArg (List.cons _) ?_
  apply List.map_congr_left
  intro outcome _
  apply toList_metric (sorted_outcome _ _) (List.cons_ne_nil _ _)
  intro label member
  rcases List.mem_cons.mp member with rfl | isSource
  · exact plain_outcome outcome
  · rw [List.mem_singleton.mp isSource]
    exact plain

theorem map_toList_statusLines
    {sourceId : String} {member : String × String}
    (plain : Plain sourceId)
    (isStatus : isStatusField member.1 = true)
    (plainCode : Plain (afterColon member.1)) :
    (statusLines sourceId member.1 member.2).map String.toList =
      (metricFamily "crawler_http_status_total" "counter"
        [([("source_id", sourceId),
            ("status_code", afterColon member.1)], member.2)]).map
        Line.text := by
  have sample :
      (metric "crawler_http_status_total" member.2
          [("source_id", sourceId),
            ("status_code", afterColon member.1)]).toList =
        (sampleLine "crawler_http_status_total" member.2
          [("source_id", sourceId),
            ("status_code", afterColon member.1)]).text := by
    apply toList_metric (sorted_statusCode _ _) (List.cons_ne_nil _ _)
    intro label isLabel
    rcases List.mem_cons.mp isLabel with rfl | isCode
    · exact plain
    · rw [List.mem_singleton.mp isCode]
      exact plainCode
  rw [statusLines, if_pos isStatus, List.map_cons, List.map_singleton,
    toList_typeLine, sample]
  rfl

/-- The lines of a source are those of its families. -/
theorem map_toList_sourceLines
    {sourceId : String} {values : List (String × String)}
    (plain : PlainSource sourceId values) :
    (sourceLines sourceId values).map String.toList =
      (sourceFamilies sourceId values).map Line.text := by
  rw [sourceLines, sourceFamilies, List.map_append, List.map_append,
    List.map_append, List.map_append,
    map_toList_runTotalLines plain.sourceId, List.map_flatMap,
    List.map_flatMap, List.map_flatMap, List.map_flatMap]
  refine congrArg₂ List.append (congrArg (List.append _) ?_) ?_
  · apply List.flatMap_congr
    intro fieldMetric _
    rw [List.map_cons, List.map_singleton, toList_typeLine,
      toList_metric_singleton plain.sourceId]
    rfl
  · rw [flatMap_filter]
    apply List.flatMap_congr
    intro member isMember
    have isValue : member ∈ values :=
      (List.mem_insertionSort keyOrder).mp isMember
    cases isStatus : isStatusField member.1 with
    | true =>
        rw [if_pos rfl]
        exact map_toList_statusLines plain.sourceId isStatus
          (plain.codes member isValue isStatus)
    | false =>
        rw [statusLines, isStatus]
        rfl

/-- Where every line is followed by a separator. -/
theorem intercalate_concat_nil
    {Item : Type} (separator : List Item) (parts : List (List Item))
    (nonempty : parts ≠ []) :
    separator.intercalate (parts ++ [[]]) =
      separator.intercalate parts ++ separator := by
  induction parts with
  | nil => exact absurd rfl nonempty
  | cons part others induction =>
      cases others with
      | nil => simp
      | cons next others =>
          have rest := induction (List.cons_ne_nil _ _)
          rw [List.cons_append, List.cons_append] at *
          rw [List.intercalate_cons_cons, rest, List.intercalate_cons_cons,
            List.append_assoc, List.append_assoc, List.append_assoc]

/-- The page has these lines. -/
theorem toList_renderPrometheus
    {snapshot : MetricsSnapshot}
    (plain : ∀ source ∈ snapshot.sources, PlainSource source.1 source.2) :
    (renderPrometheus snapshot).toList = pageText (pageLines snapshot) := by
  have queue :
      (queueLines snapshot.queueDepths).map String.toList =
        (queueFamily snapshot.queueDepths).map Line.text := by
    rw [queueLines, List.map_cons, List.map_cons, List.map_cons,
      List.map_singleton, toList_typeLine,
      toList_metric_singleton (by decide),
      toList_metric_singleton (by decide)]
    rfl
  have lines :
      (queueLines snapshot.queueDepths ++
          snapshot.sources.flatMap fun source =>
            sourceLines source.1 source.2).map String.toList =
        (pageLines snapshot).map Line.text := by
    rw [pageLines, List.map_append, List.map_append, queue,
      List.map_flatMap, List.map_flatMap]
    refine congrArg (List.append _) ?_
    apply List.flatMap_congr
    intro source member
    exact map_toList_sourceLines (plain source member)
  have lineBreak : "\n".toList = ['\n'] := rfl
  rw [renderPrometheus, String.toList_append, String.toList_intercalate,
    lines, lineBreak, pageText, intercalate_concat_nil]
  rw [pageLines, queueFamily]
  exact List.cons_ne_nil _ _

end MultisiteCrawler.Metrics
