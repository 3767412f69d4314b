import MultisiteCrawler.Metrics.Store

/-!
# What a sequence of calls records

Calls on one store, which is empty at first, and any of which may be refused.
The hash of a source is what the updates of its accepted calls make of an
empty hash: a counter is the sum of what was added to it, a gauge is the text
put last.
-/

namespace MultisiteCrawler.Metrics

open Foundation.Exposition
open Foundation.Interaction
open Foundation.JsonText
open Foundation.PythonErrors
open Foundation.PythonText
open Observability

/-! ## Updates -/

/-- The fields which are set and never added to. -/
def gaugeFields : List String :=
  ["run_duration_seconds", "items_found", "last_run_id",
    "last_success_timestamp", "circuit_breaker_state"]

/-- Gauges are set and counters are added to. -/
def FieldUpdate.Fits : FieldUpdate → Prop
  | .add field _ => field ∉ gaugeFields
  | .put field _ => field ∈ gaugeFields

/-- The hash after an update. -/
def FieldUpdate.apply (hash : List (String × String)) :
    FieldUpdate → List (String × String)
  | .add field amount =>
      assign field
        (integerText
          ((readCounter (fieldText field hash)).getD 0 + amount))
        hash
  | .put field text => assign field text hash

/-- The hash after a sequence of updates. -/
def applyAll (updates : List FieldUpdate) (hash : List (String × String)) :
    List (String × String) :=
  updates.foldl FieldUpdate.apply hash

/-- What a sequence of updates adds to a field. -/
def total (field : String) (updates : List FieldUpdate) : ℤ :=
  (updates.map fun update =>
    match update with
    | .add other amount => if other = field then amount else 0
    | .put _ _ => 0).sum

/-- What a sequence of updates puts into a field last. -/
def lastPut (field : String) (updates : List FieldUpdate) :
    Option String :=
  (updates.filterMap fun update =>
    match update with
    | .add _ _ => none
    | .put other text => if other = field then some text else none).getLast?

theorem applyAll_append
    (updates others : List FieldUpdate) (hash : List (String × String)) :
    applyAll (updates ++ others) hash =
      applyAll others (applyAll updates hash) :=
  List.foldl_append

theorem total_append
    (field : String) (updates others : List FieldUpdate) :
    total field (updates ++ others) =
      total field updates + total field others := by
  rw [total, List.map_append, List.sum_append]
  rfl

theorem lookup_apply_of_ne
    {field : String} {update : FieldUpdate}
    (different : field ≠ update.field) (hash : List (String × String)) :
    lookup field (update.apply hash) = lookup field hash := by
  cases update with
  | add other amount => exact lookup_assign_of_ne different _ _
  | put other text => exact lookup_assign_of_ne different _ _

theorem mem_keys_apply_iff
    {field : String} (update : FieldUpdate)
    (hash : List (String × String)) :
    field ∈ (update.apply hash).map Prod.fst ↔
      field = update.field ∨ field ∈ hash.map Prod.fst := by
  cases update with
  | add other amount => exact mem_keys_assign_iff _ _ _
  | put other text => exact mem_keys_assign_iff _ _ _

theorem nodup_keys_apply
    (update : FieldUpdate) {hash : List (String × String)}
    (distinct : (hash.map Prod.fst).Nodup) :
    ((update.apply hash).map Prod.fst).Nodup := by
  cases update with
  | add other amount => exact nodup_keys_assign _ _ distinct
  | put other text => exact nodup_keys_assign _ _ distinct

/-- A field is there if it was updated. -/
theorem mem_keys_applyAll_iff
    (field : String) (updates : List FieldUpdate) :
    field ∈ (applyAll updates []).map Prod.fst ↔
      ∃ update ∈ updates, update.field = field := by
  induction updates using List.reverseRecOn with
  | nil => simp [applyAll]
  | append_singleton updates update induction =>
      rw [applyAll_append]
      show field ∈ (update.apply _).map Prod.fst ↔ _
      rw [mem_keys_apply_iff, induction]
      constructor
      · rintro (isLast | ⟨earlier, member, isField⟩)
        · exact ⟨update, by simp, isLast.symm⟩
        · exact ⟨earlier, List.mem_append_left _ member, isField⟩
      · rintro ⟨other, member, isField⟩
        rcases List.mem_append.mp member with isEarlier | isLast
        · exact Or.inr ⟨other, isEarlier, isField⟩
        · rw [List.mem_singleton.mp isLast] at isField
          exact Or.inl isField.symm

theorem nodup_keys_applyAll (updates : List FieldUpdate) :
    ((applyAll updates []).map Prod.fst).Nodup := by
  induction updates using List.reverseRecOn with
  | nil => exact List.nodup_nil
  | append_singleton updates update induction =>
      rw [applyAll_append]
      exact nodup_keys_apply update induction

theorem integerText_zero : integerText 0 = "0" := by
  decide

/-- A counter is the sum of what was added to it. -/
theorem fieldText_applyAll_counter
    {field : String} (isCounter : field ∉ gaugeFields)
    {updates : List FieldUpdate}
    (fits : ∀ update ∈ updates, update.Fits) :
    fieldText field (applyAll updates []) =
      integerText (total field updates) := by
  induction updates using List.reverseRecOn with
  | nil => exact integerText_zero.symm
  | append_singleton updates update induction =>
      have earlier := induction fun other member =>
        fits other (List.mem_append_left _ member)
      have fit := fits update (by simp)
      rw [applyAll_append, total_append]
      show fieldText field (update.apply _) = _
      by_cases same : field = update.field
      · subst same
        cases update with
        | add other amount =>
            rw [fieldText, FieldUpdate.apply, FieldUpdate.field,
              lookup_assign_self]
            rw [FieldUpdate.field] at earlier
            rw [earlier, readCounter_integerText]
            simp [total]
        | put other text => exact absurd fit isCounter
      · rw [fieldText, lookup_apply_of_ne same]
        have nothing : total field [update] = 0 := by
          cases update with
          | add other amount =>
              simp only [total, List.map_singleton, List.sum_singleton]
              exact if_neg (Ne.symm same)
          | put other text => rfl
        rw [nothing, add_zero]
        exact earlier

/-- A gauge is the text put last. -/
theorem lookup_applyAll_gauge
    {field : String} (isGauge : field ∈ gaugeFields)
    {updates : List FieldUpdate}
    (fits : ∀ update ∈ updates, update.Fits) :
    lookup field (applyAll updates []) = lastPut field updates := by
  induction updates using List.reverseRecOn with
  | nil => rfl
  | append_singleton updates update induction =>
      have earlier := induction fun other member =>
        fits other (List.mem_append_left _ member)
      have fit := fits update (by simp)
      rw [applyAll_append, lastPut, List.filterMap_append]
      show lookup field (update.apply _) = _
      by_cases same : field = update.field
      · subst same
        cases update with
        | add other amount => exact absurd isGauge fit
        | put other text =>
            rw [FieldUpdate.apply, FieldUpdate.field, lookup_assign_self]
            simp
      · rw [lookup_apply_of_ne same, earlier, lastPut]
        cases update with
        | add other amount => simp
        | put other text =>
            have different : other ≠ field := Ne.symm same
            simp [different]

/-! ## One call -/

/-- Perform an update of the hash at a key. -/
def performUpdate (key : String) : FieldUpdate → MetricsProgram Unit
  | .add field amount => do
      let _ ← MetricsProgram.hincrby key field amount
      pure ()
  | .put field text => do
      let _ ← MetricsProgram.hset key field text
      pure ()

/-- Perform updates one after the other. -/
def performUpdates (key : String) : List FieldUpdate → MetricsProgram Unit
  | [] => pure ()
  | update :: rest => do
      performUpdate key update
      performUpdates key rest

@[simp]
theorem performUpdates_nil (key : String) :
    performUpdates key [] = .done () := rfl

@[simp]
theorem performUpdates_add
    (key field : String) (amount : ℤ) (rest : List FieldUpdate) :
    performUpdates key (.add field amount :: rest) = (do
      let _ ← MetricsProgram.hincrby key field amount
      performUpdates key rest) :=
  Program.bind_assoc _ _ _

@[simp]
theorem performUpdates_put
    (key field text : String) (rest : List FieldUpdate) :
    performUpdates key (.put field text :: rest) = (do
      let _ ← MetricsProgram.hset key field text
      performUpdates key rest) :=
  Program.bind_assoc _ _ _

variable {Number : Type} (rules : FloatRules Number)

/-- An accepted call registers its source and updates its hash. -/
theorem program_of_accepted
    {call : MetricsCall Number} (accepted : call.accepted rules = true) :
    call.program rules = (do
      register call.sourceId
      performUpdates (sourceKey call.sourceId) (call.updates rules)) := by
  rw [MetricsCall.accepted, Bool.and_eq_true] at accepted
  rcases accepted with ⟨isSource, inRange⟩
  cases call with
  | run sourceId runId outcome durationSeconds itemCount timestamp =>
      simp only [MetricsCall.inRange, Bool.and_eq_true,
        Bool.not_eq_true', decide_eq_true_eq] at inRange
      simp only [MetricsCall.sourceId] at isSource ⊢
      simp only [MetricsCall.program, recordRun, validateSource, isSource,
        if_true, Program.pure_eq, Program.bind_done, inRange.1,
        Bool.false_or, decide_eq_true_eq, not_lt.mpr inRange.2, if_false]
      cases outcome <;> simp [MetricsCall.updates]
  | httpStatus sourceId statusCode =>
      simp only [MetricsCall.inRange, decide_eq_true_eq] at inRange
      simp only [MetricsCall.sourceId] at isSource ⊢
      have fits : ¬ (statusCode < 100 ∨ 599 < statusCode) := by omega
      simp only [MetricsCall.program, recordHttpStatus, validateSource,
        isSource, if_true, Program.pure_eq, Program.bind_done, fits,
        if_false]
      simp [MetricsCall.updates]
  | items sourceId created updated =>
      simp only [MetricsCall.inRange, decide_eq_true_eq] at inRange
      simp only [MetricsCall.sourceId] at isSource ⊢
      have fits : ¬ (created < 0 ∨ updated < 0) := by omega
      simp only [MetricsCall.program, recordItems, validateSource,
        isSource, if_true, Program.pure_eq, Program.bind_done, fits,
        if_false]
      simp [MetricsCall.updates]
  | parseError sourceId =>
      simp only [MetricsCall.sourceId] at isSource ⊢
      simp only [MetricsCall.program, recordParseError, increment,
        validateSource, isSource, if_true, Program.pure_eq,
        Program.bind_done]
      simp [MetricsCall.updates]
  | lockSkip sourceId =>
      simp only [MetricsCall.sourceId] at isSource ⊢
      simp only [MetricsCall.program, recordLockSkip, increment,
        validateSource, isSource, if_true, Program.pure_eq,
        Program.bind_done]
      simp [MetricsCall.updates]
  | circuitBreaker sourceId isOpen =>
      simp only [MetricsCall.sourceId] at isSource ⊢
      simp only [MetricsCall.program, recordCircuitBreaker,
        validateSource, isSource, if_true, Program.pure_eq,
        Program.bind_done]
      simp [MetricsCall.updates]

/-- A call with other arguments raises before its first command. -/
theorem program_of_refused
    {call : MetricsCall Number} (refused : ¬ call.accepted rules = true) :
    ∃ message, call.program rules = .fail (.value message) := by
  rw [MetricsCall.accepted, Bool.and_eq_true, not_and] at refused
  by_cases isSource : matchesSourceId call.sourceId = true
  · have outOfRange := refused isSource
    cases call with
    | run sourceId runId outcome durationSeconds itemCount timestamp =>
        refine ⟨"run metrics must not be negative", ?_⟩
        have negative :
            (rules.isNegative durationSeconds ||
              decide (itemCount < 0)) = true := by
          simp only [MetricsCall.inRange, Bool.and_eq_true,
            Bool.not_eq_true', decide_eq_true_eq, not_and, not_le]
            at outOfRange
          rw [Bool.or_eq_true, decide_eq_true_eq]
          cases isNegative : rules.isNegative durationSeconds with
          | true => exact Or.inl rfl
          | false => exact Or.inr (outOfRange isNegative)
        rw [MetricsCall.sourceId] at isSource
        rw [MetricsCall.program, recordRun, validateSource, if_pos isSource,
          if_pos negative]
        rfl
    | httpStatus sourceId statusCode =>
        refine ⟨"status_code must be an HTTP status", ?_⟩
        have outside : statusCode < 100 ∨ 599 < statusCode := by
          simp only [MetricsCall.inRange, decide_eq_true_eq] at outOfRange
          omega
        rw [MetricsCall.sourceId] at isSource
        rw [MetricsCall.program, recordHttpStatus, validateSource,
          if_pos isSource, if_pos outside]
        rfl
    | items sourceId created updated =>
        refine ⟨"item metrics must not be negative", ?_⟩
        have negative : created < 0 ∨ updated < 0 := by
          simp only [MetricsCall.inRange, decide_eq_true_eq] at outOfRange
          omega
        rw [MetricsCall.sourceId] at isSource
        rw [MetricsCall.program, recordItems, validateSource,
          if_pos isSource, if_pos negative]
        rfl
    | parseError sourceId => exact absurd rfl outOfRange
    | lockSkip sourceId => exact absurd rfl outOfRange
    | circuitBreaker sourceId isOpen => exact absurd rfl outOfRange
  · refine ⟨"source_id must match [a-z0-9_-]+", ?_⟩
    cases call <;>
      simp only [MetricsCall.sourceId] at isSource <;>
      simp only [MetricsCall.program, recordRun, recordHttpStatus,
        recordItems, recordParseError, recordLockSkip,
        recordCircuitBreaker, increment, validateSource, isSource] <;>
      rfl

/-- The field of an HTTP status is no gauge. -/
theorem statusField_not_mem_gaugeFields (code : String) :
    "http_status:" ++ code ∉ gaugeFields := by
  intro member
  have head (field : String) (isGauge : field ∈ gaugeFields) :
      field.toList.head? ≠ some 'h' := by
    revert field
    decide
  apply head _ member
  rw [String.toList_append]
  rfl

/-- Every call updates gauges and counters as they are. -/
theorem fits_of_mem_updates
    {call : MetricsCall Number} {update : FieldUpdate}
    (member : update ∈ call.updates rules) : update.Fits := by
  cases call with
  | run sourceId runId outcome durationSeconds itemCount timestamp =>
      cases outcome <;>
        simp [MetricsCall.updates, RunOutcome.value] at member <;>
        rcases member with rfl | rfl | rfl | rfl | rfl <;>
        simp [FieldUpdate.Fits, gaugeFields]
  | httpStatus sourceId statusCode =>
      rw [MetricsCall.updates, List.mem_singleton] at member
      subst member
      exact statusField_not_mem_gaugeFields _
  | items sourceId created updated =>
      simp [MetricsCall.updates] at member
      rcases member with rfl | rfl <;> simp [FieldUpdate.Fits, gaugeFields]
  | parseError sourceId =>
      rw [MetricsCall.updates, List.mem_singleton] at member
      subst member
      simp [FieldUpdate.Fits, gaugeFields]
  | lockSkip sourceId =>
      rw [MetricsCall.updates, List.mem_singleton] at member
      subst member
      simp [FieldUpdate.Fits, gaugeFields]
  | circuitBreaker sourceId isOpen =>
      rw [MetricsCall.updates, List.mem_singleton] at member
      subst member
      simp [FieldUpdate.Fits, gaugeFields]

/-! ## Runs -/

/-- A hash of updates stays one. -/
theorem run_performUpdates
    (key : String) {earlier updates : List FieldUpdate}
    (fits : ∀ update ∈ earlier ++ updates, update.Fits)
    {store : MetricsRedis}
    (isHash : store.hashes key = applyAll earlier []) :
    (performUpdates key updates).run memoryRedis store =
      (.ok (),
        { store with
          hashes :=
            Function.update store.hashes key
              (applyAll (earlier ++ updates) []) }) := by
  induction updates generalizing earlier store with
  | nil =>
      rw [List.append_nil, ← isHash, Function.update_eq_self]
      rfl
  | cons update rest induction =>
      have split :
          earlier ++ update :: rest = (earlier ++ [update]) ++ rest := by
        simp
      have hashAfter :
          applyAll (earlier ++ [update]) [] =
            update.apply (applyAll earlier []) :=
        applyAll_append _ _ _
      rw [split] at fits ⊢
      have later (hashes : String → List (String × String))
          (isUpdate :
            hashes =
              Function.update store.hashes key
                (update.apply (applyAll earlier []))) :
          (performUpdates key rest).run memoryRedis
              { store with hashes := hashes } =
            (.ok (),
              { store with
                hashes :=
                  Function.update store.hashes key
                    (applyAll ((earlier ++ [update]) ++ rest) []) }) := by
        subst isUpdate
        rw [induction fits]
        · dsimp only
          rw [Function.update_idem]
        · dsimp only
          rw [Function.update_self, hashAfter]
      cases update with
      | add field amount =>
          have isCounter : field ∉ gaugeFields :=
            fits (.add field amount) (by simp)
          have readable :
              readCounter (fieldText field (store.hashes key)) =
                some (total field earlier) := by
            rw [isHash, fieldText_applyAll_counter isCounter
              (fun other member => fits other (by simp [member])),
              readCounter_integerText]
          have command :
              memoryRedis (.hincrby key field amount) store =
                (.ok (total field earlier + amount),
                  { store with
                    hashes :=
                      Function.update store.hashes key
                        ((FieldUpdate.add field amount).apply
                          (applyAll earlier [])) }) := by
            simp only [memoryRedis, readable, FieldUpdate.apply, ← isHash,
              Option.getD_some]
          have issued :
              (MetricsProgram.hincrby key field amount).run memoryRedis
                  store =
                memoryRedis (.hincrby key field amount) store :=
            Program.run_ofOutcome _ _ _
          rw [performUpdates_add, Program.run_bind, issued, command]
          exact later _ rfl
      | put field text =>
          have issued :
              (MetricsProgram.hset key field text).run memoryRedis store =
                memoryRedis (.hset key field text) store :=
            Program.run_ofOutcome _ _ _
          rw [performUpdates_put, Program.run_bind, issued, memoryRedis,
            isHash]
          exact later _ rfl

theorem sourceKey_injective : Function.Injective sourceKey := by
  intro left right equal
  exact (String.append_right_inj _).mp equal

/-- The store after a call, whatever the call raises. -/
def storeNext (store : MetricsRedis) (call : MetricsCall Number) :
    MetricsRedis :=
  ((call.program rules).run memoryRedis store).2

/-- The store after a sequence of calls. -/
def storeAfter (calls : List (MetricsCall Number)) : MetricsRedis :=
  calls.foldl (storeNext rules) .empty

/-- The accepted calls for a source. -/
def callsFor (sourceId : String) (calls : List (MetricsCall Number)) :
    List (MetricsCall Number) :=
  calls.filter fun call =>
    call.accepted rules && decide (call.sourceId = sourceId)

/-- What the calls for a source do to its hash. -/
def updatesFor (sourceId : String) (calls : List (MetricsCall Number)) :
    List FieldUpdate :=
  (callsFor rules sourceId calls).flatMap (MetricsCall.updates rules)

theorem storeAfter_concat
    (calls : List (MetricsCall Number)) (call : MetricsCall Number) :
    storeAfter rules (calls ++ [call]) =
      storeNext rules (storeAfter rules calls) call :=
  List.foldl_concat _ _ _ _

theorem fits_updatesFor
    {sourceId : String} {calls : List (MetricsCall Number)}
    {update : FieldUpdate}
    (member : update ∈ updatesFor rules sourceId calls) : update.Fits := by
  rcases List.mem_flatMap.mp member with ⟨call, _, isUpdate⟩
  exact fits_of_mem_updates rules isUpdate

/-- What an accepted call leaves. -/
theorem run_of_accepted
    {call : MetricsCall Number} (accepted : call.accepted rules = true)
    {store : MetricsRedis} {earlier : List FieldUpdate}
    (fits : ∀ update ∈ earlier, update.Fits)
    (isHash : store.hashes (sourceKey call.sourceId) = applyAll earlier []) :
    (call.program rules).run memoryRedis store =
      (.ok (),
        ⟨Function.update store.hashes (sourceKey call.sourceId)
            (applyAll (earlier ++ call.updates rules) []),
          Function.update store.sets sourcesKey
            (addMember call.sourceId (store.sets sourcesKey))⟩) := by
  have allFit :
      ∀ update ∈ earlier ++ call.updates rules, update.Fits := by
    intro update member
    rcases List.mem_append.mp member with isEarlier | isUpdate
    · exact fits update isEarlier
    · exact fits_of_mem_updates rules isUpdate
  have registered :
      (register call.sourceId).run memoryRedis store =
        (.ok (),
          { store with
            sets :=
              Function.update store.sets sourcesKey
                (addMember call.sourceId (store.sets sourcesKey)) }) := rfl
  rw [program_of_accepted rules accepted, Program.run_bind, registered]
  exact run_performUpdates _ allFit isHash

/-- A call which is refused raises and leaves the store as it is. -/
theorem run_of_refused
    {call : MetricsCall Number} (refused : ¬ call.accepted rules = true)
    (store : MetricsRedis) :
    ∃ message,
      (call.program rules).run memoryRedis store =
        (.error (.value message), store) := by
  rcases program_of_refused rules refused with ⟨message, isFailure⟩
  refine ⟨message, ?_⟩
  rw [isFailure]
  rfl

/-- The hash of a source and the set of sources, after any calls. -/
theorem storeAfter_hashes
    (calls : List (MetricsCall Number)) (sourceId : String) :
    (storeAfter rules calls).hashes (sourceKey sourceId) =
      applyAll (updatesFor rules sourceId calls) [] := by
  induction calls using List.reverseRecOn generalizing sourceId with
  | nil => rfl
  | append_singleton calls call induction =>
      rw [storeAfter_concat, updatesFor, callsFor, List.filter_append,
        List.flatMap_append]
      by_cases accepted : call.accepted rules = true
      · rw [storeNext, run_of_accepted rules accepted
          (fun _ => fits_updatesFor rules) (induction call.sourceId)]
        by_cases same : call.sourceId = sourceId
        · subst same
          dsimp only
          rw [Function.update_self]
          simp [accepted, updatesFor, callsFor]
        · have other : sourceKey sourceId ≠ sourceKey call.sourceId :=
            fun equal => same (sourceKey_injective equal).symm
          dsimp only
          rw [Function.update_of_ne other, induction sourceId]
          simp [same, updatesFor, callsFor]
      · rcases run_of_refused rules accepted (storeAfter rules calls) with
          ⟨message, refused⟩
        rw [storeNext, refused, induction sourceId]
        simp [accepted, updatesFor, callsFor]

theorem mem_addMember_iff
    {value other : String} {members : List String} :
    other ∈ addMember value members ↔ other = value ∨ other ∈ members := by
  unfold addMember
  split_ifs with present
  · constructor
    · exact Or.inr
    · rintro (rfl | member)
      · exact present
      · exact member
  · rw [List.mem_append, List.mem_singleton, or_comm]

theorem nodup_addMember
    {value : String} {members : List String} (distinct : members.Nodup) :
    (addMember value members).Nodup := by
  unfold addMember
  split_ifs with present
  · exact distinct
  · rw [List.nodup_append]
    refine ⟨distinct, List.nodup_singleton _, ?_⟩
    rintro first isFirst second isSecond rfl
    rw [List.mem_singleton.mp isSecond] at isFirst
    exact present isFirst

/-- The sources an accepted call has named. -/
def Named (calls : List (MetricsCall Number)) (sourceId : String) : Prop :=
  ∃ call ∈ calls, call.accepted rules = true ∧ call.sourceId = sourceId

/-- The registered sources are those which have been named. -/
theorem storeAfter_sets (calls : List (MetricsCall Number)) :
    ((storeAfter rules calls).sets sourcesKey).Nodup ∧
      ∀ sourceId, sourceId ∈ (storeAfter rules calls).sets sourcesKey ↔
        Named rules calls sourceId := by
  induction calls using List.reverseRecOn with
  | nil =>
      refine ⟨List.nodup_nil, ?_⟩
      intro sourceId
      refine iff_of_false List.not_mem_nil ?_
      rintro ⟨call, member, _⟩
      cases member
  | append_singleton calls call induction =>
      rw [storeAfter_concat]
      by_cases accepted : call.accepted rules = true
      · rw [storeNext, run_of_accepted rules accepted
          (fun _ => fits_updatesFor rules)
          (storeAfter_hashes rules calls call.sourceId)]
        dsimp only
        rw [Function.update_self]
        refine ⟨nodup_addMember induction.1, ?_⟩
        intro sourceId
        rw [mem_addMember_iff, induction.2]
        constructor
        · rintro (rfl | ⟨other, member, named⟩)
          · exact ⟨call, by simp, accepted, rfl⟩
          · exact ⟨other, List.mem_append_left _ member, named⟩
        · rintro ⟨other, member, isAccepted, named⟩
          rcases List.mem_append.mp member with isEarlier | isLast
          · exact Or.inr ⟨other, isEarlier, isAccepted, named⟩
          · rw [List.mem_singleton.mp isLast] at named
            exact Or.inl named.symm
      · rcases run_of_refused rules accepted (storeAfter rules calls) with
          ⟨message, refused⟩
        rw [storeNext, refused]
        refine ⟨induction.1, ?_⟩
        intro sourceId
        rw [induction.2]
        constructor
        · rintro ⟨other, member, named⟩
          exact ⟨other, List.mem_append_left _ member, named⟩
        · rintro ⟨other, member, isAccepted, named⟩
          rcases List.mem_append.mp member with isEarlier | isLast
          · exact ⟨other, isEarlier, isAccepted, named⟩
          · rw [List.mem_singleton.mp isLast] at isAccepted
            exact absurd isAccepted accepted

end MultisiteCrawler.Metrics
