import MultisiteCrawler.Metrics.Page

/-!
# Pages of recorded metrics

The page after any sequence of calls on a store which is empty at first.  It
can be read back line by line.  Its lines are grouped as the format demands
only while there is one source with one HTTP status.
-/

namespace MultisiteCrawler.Metrics

open Foundation.Exposition
open Foundation.Interaction
open Foundation.JsonOrder
open Foundation.JsonText
open Foundation.Lists
open Foundation.PythonErrors
open Foundation.PythonText hiding isSpace
open Observability

/-- The names of labels. -/
def labelNames : List String :=
  ["queue", "outcome", "source_id", "status_code"]

section Reports

variable {Number : Type} (rules : FloatRules Number)

/-! ## The page after a sequence of calls -/

/-- The page which is served after a sequence of calls. -/
def pageAfter (calls : List (MetricsCall Number))
    (queueDepths : QueueDepths) : Except PyError String :=
  ((do
      let read ← snapshot queueDepths
      pure (renderPrometheus read) : MetricsProgram String).run memoryRedis
    (storeAfter rules calls)).1

/-- The registered sources in order. -/
def sourcesAfter (calls : List (MetricsCall Number)) : List String :=
  ((storeAfter rules calls).sets sourcesKey).insertionSort (· ≤ ·)

/-- The hash of a source after a sequence of calls. -/
def hashAfter (calls : List (MetricsCall Number)) (sourceId : String) :
    List (String × String) :=
  applyAll (updatesFor rules sourceId calls) []

/-- The snapshot after a sequence of calls. -/
def snapshotAfter (calls : List (MetricsCall Number))
    (queueDepths : QueueDepths) : MetricsSnapshot :=
  ⟨(sourcesAfter rules calls).map fun sourceId =>
      (sourceId, hashAfter rules calls sourceId),
    queueDepths⟩

theorem run_readSources (sources : List String) (store : MetricsRedis) :
    (readSources sources).run memoryRedis store =
      (.ok
          (sources.map fun sourceId =>
            (sourceId, store.hashes (sourceKey sourceId))),
        store) := by
  induction sources with
  | nil => rfl
  | cons sourceId rest induction =>
      have read :
          (MetricsProgram.hgetall (sourceKey sourceId)).run memoryRedis
              store =
            (.ok (store.hashes (sourceKey sourceId)), store) := rfl
      rw [readSources, Program.run_bind, read]
      show (Program.run memoryRedis (_ >>= _) _) = _
      rw [Program.run_bind, induction]
      rfl

/-- The page is that of the snapshot. -/
theorem pageAfter_eq
    (calls : List (MetricsCall Number)) (queueDepths : QueueDepths) :
    pageAfter rules calls queueDepths =
      .ok (renderPrometheus (snapshotAfter rules calls queueDepths)) := by
  have members :
      (MetricsProgram.smembers sourcesKey).run memoryRedis
          (storeAfter rules calls) =
        (.ok ((storeAfter rules calls).sets sourcesKey),
          storeAfter rules calls) := rfl
  have read :
      (snapshot queueDepths).run memoryRedis (storeAfter rules calls) =
        (.ok (snapshotAfter rules calls queueDepths),
          storeAfter rules calls) := by
    rw [snapshot, Program.run_bind, members]
    show (Program.run memoryRedis (_ >>= _) _) = _
    rw [Program.run_bind, run_readSources]
    simp only [storeAfter_hashes]
    rfl
  rw [pageAfter, Program.run_bind, read]
  rfl

theorem nodup_sourcesAfter (calls : List (MetricsCall Number)) :
    (sourcesAfter rules calls).Nodup :=
  (List.perm_insertionSort _ _).nodup_iff.mpr (storeAfter_sets rules calls).1

theorem mem_sourcesAfter_iff
    (calls : List (MetricsCall Number)) (sourceId : String) :
    sourceId ∈ sourcesAfter rules calls ↔ Named rules calls sourceId := by
  rw [sourcesAfter, List.mem_insertionSort]
  exact (storeAfter_sets rules calls).2 sourceId

/-! ## What a hash holds -/

theorem startsStatus (code : String) :
    isStatusField ("http_status:" ++ code) = true := by
  rw [isStatusField, String.toList_append, List.isPrefixOf_iff_prefix]
  exact List.prefix_append _ _

theorem afterColon_status (code : String) :
    afterColon ("http_status:" ++ code) = code := by
  have dropped :
      (("http_status:" ++ code).toList.dropWhile fun character =>
        character != ':') = ':' :: code.toList := by
    rw [String.toList_append]
    rfl
  rw [afterColon, dropped, List.drop_one, List.tail_cons,
    String.ofList_toList]

/-- Only HTTP statuses are recorded in their fields. -/
theorem httpStatus_of_isStatusField
    {call : MetricsCall Number} {update : FieldUpdate}
    (member : update ∈ call.updates rules)
    (isStatus : isStatusField update.field = true) :
    ∃ sourceId code, call = .httpStatus sourceId code ∧
      update = .add ("http_status:" ++ integerText code) 1 := by
  cases call with
  | run sourceId runId outcome durationSeconds itemCount timestamp =>
      cases outcome <;>
        simp [MetricsCall.updates, RunOutcome.value] at member <;>
        rcases member with rfl | rfl | rfl | rfl | rfl <;>
        simp [isStatusField, FieldUpdate.field] at isStatus
  | httpStatus sourceId statusCode =>
      exact ⟨sourceId, statusCode, rfl, List.mem_singleton.mp member⟩
  | items sourceId created updated =>
      simp [MetricsCall.updates] at member
      rcases member with rfl | rfl <;>
        simp [isStatusField, FieldUpdate.field] at isStatus
  | parseError sourceId =>
      rw [List.mem_singleton.mp member] at isStatus
      simp [isStatusField, FieldUpdate.field] at isStatus
  | lockSkip sourceId =>
      rw [List.mem_singleton.mp member] at isStatus
      simp [isStatusField, FieldUpdate.field] at isStatus
  | circuitBreaker sourceId isOpen =>
      rw [List.mem_singleton.mp member] at isStatus
      simp [isStatusField, FieldUpdate.field] at isStatus

/-! ## The page can be read -/

omit rules in
theorem integerText_chars (value : ℤ) :
    integerText value ≠ "" ∧
      ∀ character ∈ (integerText value).toList,
        isNumberChar character = true := by
  constructor
  · intro isEmpty
    have read := readCounter_integerText value
    rw [isEmpty] at read
    cases read
  · rw [integerText, String.toList_ofList]
    exact List.all_eq_true.mp (intText_all_isNumberChar value)

theorem isSpace_of_isNumberChar
    {character : Char} (isNumber : isNumberChar character = true) :
    Foundation.PythonText.isSpace character = false ∧
      character ≠ '\\' ∧ character ≠ '"' ∧ character ≠ '\n' := by
  refine ⟨?_, ?_, ?_, ?_⟩
  · simp only [isNumberChar, Bool.or_eq_true, beq_iff_eq] at isNumber
    rcases isNumber with
      ((((isDigit | rfl) | rfl) | rfl) | rfl) | rfl
    · rw [Char.isDigit, Bool.and_eq_true, decide_eq_true_eq,
        decide_eq_true_eq] at isDigit
      have lower : 48 ≤ character.toNat := isDigit.1
      have upper : character.toNat ≤ 57 := isDigit.2
      exact isSpace_of_visible character (by omega) (by omega)
    · decide
    · decide
    · decide
    · decide
    · decide
  · rintro rfl
    revert isNumber
    decide
  · rintro rfl
    revert isNumber
    decide
  · rintro rfl
    revert isNumber
    decide

/-- Integers are written as values, and need no escapes. -/
theorem isValue_integerText (value : ℤ) :
    isValue (integerText value).toList = true := by
  rcases integerText_chars value with ⟨nonempty, chars⟩
  rw [isValue, Bool.and_eq_true, List.all_eq_true]
  refine ⟨by simpa using nonempty, ?_⟩
  intro character member
  rw [(isSpace_of_isNumberChar (chars character member)).1]
  rfl

theorem plain_integerText (value : ℤ) : Plain (integerText value) := by
  intro character member
  exact (isSpace_of_isNumberChar
    ((integerText_chars value).2 character member)).2

theorem plain_of_matchesSourceId
    {sourceId : String} (accepted : matchesSourceId sourceId = true) :
    Plain sourceId := by
  intro character member
  have allowed := ((fullmatch_iff _ _).mp accepted).2 character member
  refine ⟨?_, ?_, ?_⟩ <;> rintro rfl <;> revert allowed <;> decide

/-- The texts which a page shows are values. -/
theorem isValue_of_put
    {call : MetricsCall Number} {field text : String}
    (member : .put field text ∈ call.updates rules)
    (isShown : field ≠ "last_run_id") : isValue text.toList = true := by
  cases call with
  | run sourceId runId outcome durationSeconds itemCount timestamp =>
      cases outcome <;>
        simp [MetricsCall.updates, RunOutcome.value, isShown] at member
      · rcases member with ⟨_, rfl⟩ | ⟨_, rfl⟩ | ⟨_, rfl⟩
        · exact rules.isValue_text _
        · exact isValue_integerText _
        · exact rules.isValue_text _
      · rcases member with ⟨_, rfl⟩ | ⟨_, rfl⟩
        · exact rules.isValue_text _
        · exact isValue_integerText _
      · rcases member with ⟨_, rfl⟩ | ⟨_, rfl⟩
        · exact rules.isValue_text _
        · exact isValue_integerText _
  | httpStatus sourceId statusCode => simp [MetricsCall.updates] at member
  | items sourceId created updated => simp [MetricsCall.updates] at member
  | parseError sourceId => simp [MetricsCall.updates] at member
  | lockSkip sourceId => simp [MetricsCall.updates] at member
  | circuitBreaker sourceId isOpen =>
      simp [MetricsCall.updates] at member
      rw [member.2]
      cases isOpen <;> decide

theorem mem_of_lastPut
    {field text : String} {updates : List FieldUpdate}
    (isLast : lastPut field updates = some text) :
    .put field text ∈ updates := by
  have member := List.mem_of_getLast? isLast
  rcases List.mem_filterMap.mp member with ⟨update, isUpdate, isPut⟩
  cases update with
  | add other amount => cases isPut
  | put other found =>
      dsimp only at isPut
      split_ifs at isPut with same
      cases isPut
      rw [← same]
      exact isUpdate

/-- What a page shows of a hash are values. -/
theorem isValue_fieldText
    (calls : List (MetricsCall Number)) (sourceId : String)
    {field : String} (isShown : field ≠ "last_run_id") :
    isValue (fieldText field (hashAfter rules calls sourceId)).toList =
      true := by
  by_cases isGauge : field ∈ gaugeFields
  · rw [fieldText, hashAfter,
      lookup_applyAll_gauge isGauge fun _ => fits_updatesFor rules]
    cases isLast : lastPut field (updatesFor rules sourceId calls) with
    | none => decide
    | some text =>
        rcases List.mem_flatMap.mp (mem_of_lastPut isLast) with
          ⟨call, _, isPut⟩
        exact isValue_of_put rules isPut isShown
  · rw [hashAfter,
      fieldText_applyAll_counter isGauge fun _ => fits_updatesFor rules]
    exact isValue_integerText _

/-- The fields of HTTP statuses are those of recorded ones. -/
theorem httpStatus_of_mem_hashAfter
    {calls : List (MetricsCall Number)} {sourceId : String}
    {member : String × String}
    (isMember : member ∈ hashAfter rules calls sourceId)
    (isStatus : isStatusField member.1 = true) :
    ∃ code,
      .httpStatus sourceId code ∈ callsFor rules sourceId calls ∧
        member.1 = "http_status:" ++ integerText code := by
  have isKey : member.1 ∈ (hashAfter rules calls sourceId).map Prod.fst :=
    List.mem_map_of_mem isMember
  rw [hashAfter, mem_keys_applyAll_iff] at isKey
  rcases isKey with ⟨update, isUpdate, isField⟩
  rcases List.mem_flatMap.mp isUpdate with ⟨call, isCall, isUpdateOf⟩
  rw [← isField] at isStatus
  rcases httpStatus_of_isStatusField rules isUpdateOf isStatus with
    ⟨source, code, rfl, rfl⟩
  have isFor := List.of_mem_filter isCall
  rw [Bool.and_eq_true, decide_eq_true_eq] at isFor
  have same : source = sourceId := isFor.2
  rw [same] at isCall
  exact ⟨code, isCall, isField.symm⟩

/-- The value of a status is a count. -/
theorem isValue_of_mem_hashAfter
    {calls : List (MetricsCall Number)} {sourceId : String}
    {member : String × String}
    (isMember : member ∈ hashAfter rules calls sourceId)
    (isStatus : isStatusField member.1 = true) :
    isValue member.2.toList = true := by
  rcases httpStatus_of_mem_hashAfter rules isMember isStatus with
    ⟨code, _, isField⟩
  have shown :
      fieldText member.1 (hashAfter rules calls sourceId) = member.2 := by
    have found := lookup_of_mem (nodup_keys_applyAll _) isMember
    rw [fieldText, hashAfter, found]
    rfl
  rw [← shown]
  apply isValue_fieldText
  intro isRunId
  rw [isRunId] at isStatus
  revert isStatus
  decide

theorem plain_snapshotAfter
    {calls : List (MetricsCall Number)} {sourceId : String}
    (named : Named rules calls sourceId) :
    PlainSource sourceId (hashAfter rules calls sourceId) := by
  constructor
  · rcases named with ⟨call, _, accepted, rfl⟩
    rw [MetricsCall.accepted, Bool.and_eq_true] at accepted
    exact plain_of_matchesSourceId accepted.1
  · intro member isMember isStatus
    rcases httpStatus_of_mem_hashAfter rules isMember isStatus with
      ⟨code, _, isField⟩
    rw [isField, afterColon_status]
    exact plain_integerText code

omit rules in
theorem isLabelName_of_mem {key : String} (member : key ∈ labelNames) :
    isLabelName key.toList = true := by
  revert key
  decide

omit rules in
theorem proper_metricFamily
    {name kind : String} {samples : List (List (String × String) × String)}
    (named : isName name.toList = true) (isKind : kind.toList ∈ kinds)
    (labelled : ∀ sample ∈ samples, ∀ label ∈ sample.1,
      label.1 ∈ labelNames)
    (values : ∀ sample ∈ samples, isValue sample.2.toList = true)
    {line : Line} (member : line ∈ metricFamily name kind samples) :
    line.Proper := by
  rcases List.mem_cons.mp member with rfl | isSample
  · exact ⟨named, isKind⟩
  · rw [List.map_map] at isSample
    rcases List.mem_map.mp isSample with ⟨sample, isListed, rfl⟩
    refine ⟨named, ?_, values sample isListed⟩
    intro label isLabel
    rcases List.mem_map.mp isLabel with ⟨pair, isPair, rfl⟩
    exact isLabelName_of_mem (labelled sample isListed pair isPair)

/-- Every line of a source can be written. -/
theorem proper_sourceFamilies
    (calls : List (MetricsCall Number)) (sourceId : String) {line : Line}
    (member :
      line ∈ sourceFamilies sourceId (hashAfter rules calls sourceId)) :
    line.Proper := by
  rw [sourceFamilies, List.mem_append, List.mem_append] at member
  rcases member with (isRun | isField) | isStatus
  · refine proper_metricFamily (by decide) (by decide) ?_ ?_ isRun
    · intro sample isSample label isLabel
      rcases List.mem_map.mp isSample with ⟨outcome, _, rfl⟩
      rcases List.mem_cons.mp isLabel with rfl | isSource
      · simp [labelNames]
      · rw [List.mem_singleton.mp isSource]
        simp [labelNames]
    · intro sample isSample
      rcases List.mem_map.mp isSample with ⟨outcome, _, rfl⟩
      apply isValue_fieldText
      cases outcome <;> decide
  · rcases List.mem_flatMap.mp isField with ⟨fieldMetric, isMetric, isLine⟩
    have checks :
        ∀ fieldMetric ∈ fieldMetrics,
          isName fieldMetric.name.toList = true ∧
            fieldMetric.kind.toList ∈ kinds ∧
            fieldMetric.field ≠ "last_run_id" := by
      simp only [fieldMetrics, List.forall_mem_cons]
      decide
    rcases checks fieldMetric isMetric with ⟨named, isKind, isShown⟩
    refine proper_metricFamily named isKind ?_ ?_ isLine
    · intro sample isSample label isLabel
      rw [List.mem_singleton.mp isSample] at isLabel
      rw [List.mem_singleton.mp isLabel]
      simp [labelNames]
    · intro sample isSample
      rw [List.mem_singleton.mp isSample]
      exact isValue_fieldText rules calls sourceId isShown
  · rcases List.mem_flatMap.mp isStatus with ⟨entry, isEntry, isLine⟩
    rcases List.mem_filter.mp isEntry with ⟨isSorted, isStatusEntry⟩
    have isMember := (List.mem_insertionSort keyOrder).mp isSorted
    refine proper_metricFamily (by decide) (by decide) ?_ ?_ isLine
    · intro sample isSample label isLabel
      rw [List.mem_singleton.mp isSample] at isLabel
      rcases List.mem_cons.mp isLabel with rfl | isCode
      · simp [labelNames]
      · rw [List.mem_singleton.mp isCode]
        simp [labelNames]
    · intro sample isSample
      rw [List.mem_singleton.mp isSample]
      exact isValue_of_mem_hashAfter rules isMember isStatusEntry

/-- The page can be read, and has these lines. -/
theorem readPage_pageAfter
    (calls : List (MetricsCall Number)) (queueDepths : QueueDepths) :
    ∃ page, pageAfter rules calls queueDepths = .ok page ∧
      readPage page.toList =
        some (pageLines (snapshotAfter rules calls queueDepths)) := by
  refine ⟨_, pageAfter_eq rules calls queueDepths, ?_⟩
  rw [toList_renderPrometheus]
  · apply readPage_pageText
    intro line member
    rw [pageLines, List.mem_append] at member
    rcases member with isQueue | isSource
    · rcases List.mem_cons.mp isQueue with rfl | isFamily
      · exact ⟨by decide, by decide, by decide⟩
      · refine proper_metricFamily (by decide) (by decide) ?_ ?_ isFamily
        · intro sample isSample label isLabel
          rcases List.mem_cons.mp isSample with rfl | isLast
          · rw [List.mem_singleton.mp isLabel]
            decide
          · rw [List.mem_singleton.mp isLast] at isLabel
            rw [List.mem_singleton.mp isLabel]
            decide
        · intro sample isSample
          rcases List.mem_cons.mp isSample with rfl | isLast
          · exact isValue_integerText _
          · rw [List.mem_singleton.mp isLast]
            exact isValue_integerText _
    · rcases List.mem_flatMap.mp isSource with ⟨source, isListed, isLine⟩
      rcases List.mem_map.mp isListed with ⟨sourceId, _, rfl⟩
      exact proper_sourceFamilies rules calls sourceId isLine
  · intro source isListed
    rcases List.mem_map.mp isListed with ⟨sourceId, isSource, rfl⟩
    exact plain_snapshotAfter rules
      ((mem_sourcesAfter_iff rules calls sourceId).mp isSource)

/-! ## Groups of lines -/

/--
All accepted calls are about one source, and all accepted HTTP statuses are
the same.
-/
def OneSeries (calls : List (MetricsCall Number)) : Prop :=
  (∀ first ∈ calls, ∀ second ∈ calls,
      first.accepted rules = true → second.accepted rules = true →
        first.sourceId = second.sourceId) ∧
    ∀ source code otherSource other,
      .httpStatus source code ∈ calls →
        .httpStatus otherSource other ∈ calls →
          (MetricsCall.httpStatus source code).accepted rules = true →
            (MetricsCall.httpStatus otherSource other).accepted rules =
                true →
              code = other

omit rules in
theorem mem_statusMembers_iff
    {values : List (String × String)} {member : String × String} :
    (member ∈ (values.insertionSort keyOrder).filter fun member =>
        isStatusField member.1) ↔
      member ∈ values ∧ isStatusField member.1 = true := by
  rw [List.mem_filter, List.mem_insertionSort]

/-- The HTTP statuses of a source, as they are shown. -/
def shownStatuses (calls : List (MetricsCall Number)) (sourceId : String) :
    List (String × String) :=
  ((hashAfter rules calls sourceId).insertionSort keyOrder).filter
    fun member => isStatusField member.1

theorem mem_shownStatuses_iff
    {calls : List (MetricsCall Number)} {sourceId : String}
    {member : String × String} :
    member ∈ shownStatuses rules calls sourceId ↔
      member ∈ hashAfter rules calls sourceId ∧
        isStatusField member.1 = true :=
  mem_statusMembers_iff

theorem nodup_shownStatuses
    (calls : List (MetricsCall Number)) (sourceId : String) :
    ((shownStatuses rules calls sourceId).map Prod.fst).Nodup := by
  have distinct := nodup_keys_applyAll (updatesFor rules sourceId calls)
  have sorted :
      (((hashAfter rules calls sourceId).insertionSort keyOrder).map
        Prod.fst).Nodup :=
    (List.Perm.map Prod.fst (List.perm_insertionSort _ _)).nodup_iff.mpr
      distinct
  exact sorted.sublist (List.Sublist.map _ List.filter_sublist)

/-- A recorded status is shown. -/
theorem exists_shownStatus
    {calls : List (MetricsCall Number)} {sourceId : String} {code : ℤ}
    (isCall : .httpStatus sourceId code ∈ calls)
    (accepted :
      (MetricsCall.httpStatus sourceId code).accepted rules = true) :
    ∃ value,
      ("http_status:" ++ integerText code, value) ∈
        shownStatuses rules calls sourceId := by
  have isKey :
      "http_status:" ++ integerText code ∈
        (hashAfter rules calls sourceId).map Prod.fst := by
    rw [hashAfter, mem_keys_applyAll_iff]
    refine ⟨.add ("http_status:" ++ integerText code) 1, ?_, rfl⟩
    rw [updatesFor, List.mem_flatMap]
    refine ⟨.httpStatus sourceId code, ?_, List.mem_cons_self⟩
    rw [callsFor, List.mem_filter]
    refine ⟨isCall, ?_⟩
    rw [accepted]
    exact decide_eq_true rfl
  rcases List.mem_map.mp isKey with ⟨⟨field, value⟩, isMember, rfl⟩
  exact ⟨value,
    (mem_shownStatuses_iff rules).mpr ⟨isMember, startsStatus _⟩⟩

theorem integerText_injective : Function.Injective integerText := by
  intro left right same
  have read := readCounter_integerText left
  rw [same, readCounter_integerText] at read
  exact (Option.some.inj read).symm

omit rules in
theorem statusFamilies_sublist
    (sourceId : String) (values : List (String × String)) :
    List.Sublist
      (((values.insertionSort keyOrder).filter fun member =>
          isStatusField member.1).flatMap fun member =>
        metricFamily "crawler_http_status_total" "counter"
          [([("source_id", sourceId),
              ("status_code", afterColon member.1)], member.2)])
      (sourceFamilies sourceId values) :=
  List.sublist_append_right _ _

/-- A well-formed page has one source with one status at most. -/
theorem oneSeries_of_wellFormed
    {calls : List (MetricsCall Number)} {queueDepths : QueueDepths}
    (wellFormed :
      WellFormed (pageLines (snapshotAfter rules calls queueDepths))) :
    OneSeries rules calls := by
  have inPage (name : String) :
      (((sourcesAfter rules calls).flatMap fun sourceId =>
          sourceFamilies sourceId (hashAfter rules calls sourceId)).filter
        (Line.declares name.toList)).length ≤ 1 := by
    have whole := wellFormed.oneType name.toList
    rw [pageLines, List.filter_append, List.length_append, snapshotAfter,
      List.flatMap_map] at whole
    exact le_trans (Nat.le_add_left _ _) whole
  have fewSources : (sourcesAfter rules calls).length ≤ 1 := by
    refine le_trans (length_le_filter_declares ?_)
      (inPage "crawler_run_total")
    intro sourceId _
    refine ⟨.typed "crawler_run_total".toList "counter".toList, ?_,
      beq_self_eq_true _⟩
    rw [sourceFamilies, List.append_assoc]
    exact List.mem_cons_self
  have isSource (call : MetricsCall Number) (isCall : call ∈ calls)
      (accepted : call.accepted rules = true) :
      call.sourceId ∈ sourcesAfter rules calls :=
    (mem_sourcesAfter_iff rules calls _).mpr ⟨call, isCall, accepted, rfl⟩
  have sameSource : ∀ first ∈ calls, ∀ second ∈ calls,
      first.accepted rules = true → second.accepted rules = true →
        first.sourceId = second.sourceId := by
    intro first isFirst second isSecond firstAccepted secondAccepted
    exact eq_of_length_le_one fewSources
      (isSource first isFirst firstAccepted)
      (isSource second isSecond secondAccepted)
  refine ⟨sameSource, ?_⟩
  intro source code otherSource other isCall isOther accepted otherAccepted
  have same : source = otherSource :=
    sameSource _ isCall _ isOther accepted otherAccepted
  subst same
  have fewStatuses : (shownStatuses rules calls source).length ≤ 1 := by
    have listed : source ∈ sourcesAfter rules calls :=
      isSource _ isCall accepted
    have part :=
      (statusFamilies_sublist source (hashAfter rules calls source)).trans
        (sublist_flatMap_of_mem listed fun sourceId =>
          sourceFamilies sourceId (hashAfter rules calls sourceId))
    have fewer :=
      (part.filter
        (Line.declares "crawler_http_status_total".toList)).length_le
    refine le_trans (length_le_filter_declares ?_)
      (fewer.trans (inPage "crawler_http_status_total"))
    intro member _
    exact ⟨.typed "crawler_http_status_total".toList "counter".toList,
      List.mem_cons_self, beq_self_eq_true _⟩
  rcases exists_shownStatus rules isCall accepted with ⟨value, shown⟩
  rcases exists_shownStatus rules isOther otherAccepted with
    ⟨otherValue, otherShown⟩
  have sameField :=
    congrArg Prod.fst (eq_of_length_le_one fewStatuses shown otherShown)
  have characters := congrArg afterColon sameField
  rw [afterColon_status, afterColon_status] at characters
  exact integerText_injective characters

omit rules in
theorem name_of_mem_metricFamily
    {name kind : String} {samples : List (List (String × String) × String)}
    {line : Line} (member : line ∈ metricFamily name kind samples) :
    line.name = name.toList :=
  name_of_mem_family member

omit rules in
theorem wellFormed_queueFamily (queueDepths : QueueDepths) :
    WellFormed (queueFamily queueDepths) := by
  refine WellFormed.document (wellFormed_family ?_)
    (fun _ => name_of_mem_metricFamily) _
  show List.Pairwise _ [_, _]
  rw [List.pairwise_pair]
  intro same
  have member := same.subset List.mem_cons_self
  revert member
  simp

omit rules in
theorem wellFormed_runTotal
    (sourceId : String) (values : List (String × String)) :
    WellFormed
      (metricFamily "crawler_run_total" "counter"
        (outcomes.map fun outcome =>
          ([("outcome", outcome.value), ("source_id", sourceId)],
            fieldText ("run_total:" ++ outcome.value) values))) := by
  apply wellFormed_family
  rw [List.map_map, List.pairwise_map]
  have distinct : outcomes.Nodup := by decide
  refine distinct.imp ?_
  intro first second different same
  have member := same.subset List.mem_cons_self
  revert member different
  cases first <;> cases second <;> simp [RunOutcome.value]

omit rules in
theorem wellFormed_single
    (name kind : String) (sample : List (String × String) × String) :
    WellFormed (metricFamily name kind [sample]) :=
  wellFormed_family (List.pairwise_singleton _ _)

omit rules in
theorem wellFormed_fieldFamilies
    (sourceId : String) (values : List (String × String)) :
    WellFormed
      (fieldMetrics.flatMap fun fieldMetric =>
        metricFamily fieldMetric.name fieldMetric.kind
          [([("source_id", sourceId)],
            fieldText fieldMetric.field values)]) := by
  have distinct :
      (fieldMetrics.map fun fieldMetric =>
        fieldMetric.name.toList).Nodup := by
    decide
  refine wellFormed_flatMap (fun _ _ => wellFormed_single _ _ _) ?_ distinct
  intro fieldMetric _ line
  exact name_of_mem_metricFamily

/-- A source with one status at most. -/
theorem wellFormed_sourceFamilies
    (sourceId : String) {values : List (String × String)}
    (few :
      ((values.insertionSort keyOrder).filter fun member =>
        isStatusField member.1).length ≤ 1) :
    WellFormed (sourceFamilies sourceId values) := by
  have statuses :
      WellFormed
        (((values.insertionSort keyOrder).filter fun member =>
            isStatusField member.1).flatMap fun member =>
          metricFamily "crawler_http_status_total" "counter"
            [([("source_id", sourceId),
                ("status_code", afterColon member.1)], member.2)]) := by
    revert few
    generalize
      ((values.insertionSort keyOrder).filter fun member =>
        isStatusField member.1) = shown
    intro few
    match shown, few with
    | [], _ => exact wellFormed_nil
    | [only], _ =>
        rw [List.flatMap_singleton]
        exact wellFormed_single _ _ _
  have fieldNames :
      ∀ fieldMetric ∈ fieldMetrics,
        "crawler_run_total".toList ≠ fieldMetric.name.toList ∧
          fieldMetric.name.toList ≠
            "crawler_http_status_total".toList := by
    simp only [fieldMetrics, List.forall_mem_cons]
    decide
  refine ((wellFormed_runTotal sourceId values).append
    (wellFormed_fieldFamilies sourceId values) ?_).append statuses ?_
  · intro line isLine other isOther same
    rcases List.mem_flatMap.mp isOther with ⟨fieldMetric, isMetric, isField⟩
    rw [name_of_mem_metricFamily isLine, name_of_mem_metricFamily isField]
      at same
    exact (fieldNames fieldMetric isMetric).1 same
  · intro line isLine other isOther same
    rcases List.mem_flatMap.mp isOther with ⟨member, _, isStatus⟩
    rw [name_of_mem_metricFamily isStatus] at same
    rcases List.mem_append.mp isLine with isRun | isField
    · rw [name_of_mem_metricFamily isRun] at same
      revert same
      decide
    · rcases List.mem_flatMap.mp isField with
        ⟨fieldMetric, isMetric, isField⟩
      rw [name_of_mem_metricFamily isField] at same
      exact (fieldNames fieldMetric isMetric).2 same

/-- The queues are no metric of a source. -/
theorem name_ne_of_mem_sourceFamilies
    {sourceId : String} {values : List (String × String)} {line : Line}
    (member : line ∈ sourceFamilies sourceId values) :
    line.name ≠ "crawler_queue_depth".toList := by
  rw [sourceFamilies, List.mem_append, List.mem_append] at member
  rcases member with (isRun | isField) | isStatus
  · rw [name_of_mem_metricFamily isRun]
    decide
  · rcases List.mem_flatMap.mp isField with ⟨fieldMetric, isMetric, isLine⟩
    rw [name_of_mem_metricFamily isLine]
    have fieldNames :
        ∀ fieldMetric ∈ fieldMetrics,
          fieldMetric.name.toList ≠ "crawler_queue_depth".toList := by
      simp only [fieldMetrics, List.forall_mem_cons]
      decide
    exact fieldNames fieldMetric isMetric
  · rcases List.mem_flatMap.mp isStatus with ⟨entry, _, isLine⟩
    rw [name_of_mem_metricFamily isLine]
    decide

/-- A page with one source and one status is well formed. -/
theorem wellFormed_of_oneSeries
    {calls : List (MetricsCall Number)} (one : OneSeries rules calls)
    (queueDepths : QueueDepths) :
    WellFormed (pageLines (snapshotAfter rules calls queueDepths)) := by
  have fewStatuses (sourceId : String) :
      (shownStatuses rules calls sourceId).length ≤ 1 := by
    have distinct := nodup_shownStatuses rules calls sourceId
    apply length_le_one_of_forall_eq (.of_map _ distinct)
    intro first isFirst second isSecond
    have sameField : first.1 = second.1 := by
      rcases (mem_shownStatuses_iff rules).mp isFirst with ⟨inHash, isStatus⟩
      rcases (mem_shownStatuses_iff rules).mp isSecond with
        ⟨otherInHash, otherIsStatus⟩
      rcases httpStatus_of_mem_hashAfter rules inHash isStatus with
        ⟨code, isCall, isField⟩
      rcases httpStatus_of_mem_hashAfter rules otherInHash otherIsStatus with
        ⟨other, isOther, isOtherField⟩
      rcases List.mem_filter.mp isCall with ⟨inCalls, accepted⟩
      rcases List.mem_filter.mp isOther with ⟨otherInCalls, otherAccepted⟩
      rw [Bool.and_eq_true] at accepted otherAccepted
      rw [isField, isOtherField,
        one.2 _ _ _ _ inCalls otherInCalls accepted.1 otherAccepted.1]
    exact List.inj_on_of_nodup_map distinct isFirst isSecond sameField
  have fewSources : (sourcesAfter rules calls).length ≤ 1 := by
    apply length_le_one_of_forall_eq (nodup_sourcesAfter rules calls)
    intro first isFirst second isSecond
    rcases (mem_sourcesAfter_iff rules calls first).mp isFirst with
      ⟨call, isCall, accepted, rfl⟩
    rcases (mem_sourcesAfter_iff rules calls second).mp isSecond with
      ⟨other, isOther, otherAccepted, rfl⟩
    exact one.1 call isCall other isOther accepted otherAccepted
  rw [pageLines, snapshotAfter]
  generalize sourcesAfter rules calls = sources at fewSources ⊢
  cases sources with
  | nil =>
      rw [List.map_nil, List.flatMap_nil, List.append_nil]
      exact wellFormed_queueFamily queueDepths
  | cons sourceId rest =>
      have noRest : rest = [] := by
        rw [← List.length_eq_zero_iff]
        exact Nat.le_zero.mp (Nat.succ_le_succ_iff.mp fewSources)
      rw [noRest, List.map_singleton, List.flatMap_singleton]
      refine (wellFormed_queueFamily queueDepths).append
        (wellFormed_sourceFamilies sourceId (fewStatuses sourceId)) ?_
      intro line isQueue other isSource same
      apply name_ne_of_mem_sourceFamilies isSource
      rw [← same]
      rcases List.mem_cons.mp isQueue with rfl | isFamily
      · rfl
      · exact name_of_mem_metricFamily isFamily

/-! ## Well-formed pages -/

/-- The page is a well-formed text of the exposition format. -/
def IsExposition (calls : List (MetricsCall Number))
    (queueDepths : QueueDepths) : Prop :=
  ∃ page lines, pageAfter rules calls queueDepths = .ok page ∧
    readPage page.toList = some lines ∧ WellFormed lines

/--
The page is well formed just if there is one source with one status.  Of the
calls of `record_run` it knows those which get to their end.
-/
theorem isExposition_iff_oneSeries
    (calls : List (MetricsCall Number)) (queueDepths : QueueDepths) :
    IsExposition rules calls queueDepths ↔ OneSeries rules calls := by
  rcases readPage_pageAfter rules calls queueDepths with
    ⟨page, isPage, isRead⟩
  constructor
  · rintro ⟨other, lines, isOther, otherRead, wellFormed⟩
    rw [isPage] at isOther
    cases isOther
    rw [isRead] at otherRead
    cases otherRead
    exact oneSeries_of_wellFormed rules wellFormed
  · intro one
    exact ⟨page, _, isPage, isRead,
      wellFormed_of_oneSeries rules one queueDepths⟩

end Reports

/-- Whole numbers, written as floats. -/
def wholeFloats : FloatRules ℤ where
  isNegative number := decide (number < 0)
  text number := integerText number ++ ".0"
  isValue_text number := by
    have whole := isValue_integerText number
    rw [isValue, Bool.and_eq_true] at whole
    rw [String.toList_append, isValue, List.all_append, whole.2]
    cases integerText number |>.toList <;> rfl

/-- Two sources make a page which repeats every type. -/
theorem not_isExposition_twoSources :
    ¬ IsExposition wholeFloats [.parseError "first", .parseError "second"]
      ⟨0, 0⟩ := by
  rintro ⟨page, lines, isPage, isRead, wellFormed⟩
  rcases readPage_pageAfter wholeFloats
      [.parseError "first", .parseError "second"] ⟨0, 0⟩ with
    ⟨other, isOther, otherRead⟩
  rw [isPage] at isOther
  cases isOther
  rw [isRead] at otherRead
  cases otherRead
  have one := oneSeries_of_wellFormed wholeFloats wellFormed
  have same :=
    one.1 (.parseError "first") (by simp) (.parseError "second") (by simp)
      (by decide) (by decide)
  simp [MetricsCall.sourceId] at same

end MultisiteCrawler.Metrics
