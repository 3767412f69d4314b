import MultisiteCrawler.Foundation.Lists
import MultisiteCrawler.Redis.Runs

/-!
# Metrics recorded by processes at once

A call of the metrics store is several commands, and the commands of calls
made at the same time mix.  Nothing is lost or counted twice: what has been
done to the hashes is what each call has made of its updates, which is all of
them when it has returned.  A call whose counter would leave 64 bits raises
after the updates it has made by then.

The calls are those whose number of items has a text and whose time has a
timestamp; `record_run` asks for both after its first commands.
-/

namespace MultisiteCrawler.Redis

open Foundation.Interaction
open Foundation.Interaction.Program
open Foundation.JsonText
open Foundation.Lists
open Foundation.PythonErrors
open Foundation.SharedServer
open MultisiteCrawler.Metrics

variable {Number : Type}

/-! ## What is left of an operation -/

/-- The updates a program still makes if nothing raises, with their keys. -/
def pending {Result : Type} :
    MetricsProgram Result → List (String × FieldUpdate)
  | .done _ => []
  | .fail _ => []
  | .perform (.hincrby name field amount) next =>
      (name, .add field amount) :: pending (next (.ok 0))
  | .perform (.hset name field text) next =>
      (name, .put field text) :: pending (next (.ok 0))
  | .perform (.hgetall _) next => pending (next (.ok []))
  | .perform (.sadd _ _) next => pending (next (.ok 0))
  | .perform (.smembers _) next => pending (next (.ok []))

/-- The program has raised. -/
def isFailed {Result : Type} : MetricsProgram Result → Bool
  | .fail _ => true
  | _ => false

/-- The program has returned. -/
def isReturned {Result : Type} : MetricsProgram Result → Bool
  | .done _ => true
  | _ => false

section Operations

variable (floats : FloatRules Number)

/-- The operation records something for the source. -/
def MetricsOperation.Names (operation : MetricsOperation Number)
    (sourceId : String) : Prop :=
  ∃ call, operation = .record call ∧ call.accepted floats = true ∧
    call.sourceId = sourceId

/-- The operation is a call with arguments which are refused. -/
def MetricsOperation.Refused (operation : MetricsOperation Number) : Prop :=
  ∃ call, operation = .record call ∧ ¬ call.accepted floats = true

/-- The updates an operation makes, with their keys. -/
def MetricsOperation.updates :
    MetricsOperation Number → List (String × FieldUpdate)
  | .record call =>
      if call.accepted floats then
        (call.updates floats).map fun update =>
          (sourceKey call.sourceId, update)
      else []
  | .snapshot _ => []

/--
What is left of an operation when some sources are registered: it updates
hashes of registered sources, registers the source it names, makes the same
updates whatever it is answered, raises only if a counter does, and does not
return if it is refused.
-/
def Steady (operation : MetricsOperation Number) :
    MetricsProgram (Option MetricsSnapshot) → List String → Prop
  | .done _, members =>
      ¬ operation.Refused floats ∧
        ∀ sourceId, operation.Names floats sourceId → sourceId ∈ members
  | .fail _, _ => False
  | .perform (.hincrby name field _) next, members =>
      (∃ sourceId ∈ members, name = sourceKey sourceId) ∧
        field ∉ gaugeFields ∧
        (∀ error, next (.error error) = .fail error) ∧
        ∀ reply,
          pending (next (.ok reply)) = pending (next (.ok 0)) ∧
            Steady operation (next (.ok reply)) members
  | .perform (.hset name field _) next, members =>
      (∃ sourceId ∈ members, name = sourceKey sourceId) ∧
        field ∈ gaugeFields ∧
        ∀ reply,
          pending (next (.ok reply)) = pending (next (.ok 0)) ∧
            Steady operation (next (.ok reply)) members
  | .perform (.hgetall _) next, members =>
      ∀ reply,
        pending (next (.ok reply)) = pending (next (.ok [])) ∧
          Steady operation (next (.ok reply)) members
  | .perform (.sadd name sourceId) next, members =>
      name = sourcesKey ∧ operation.Names floats sourceId ∧
        ∀ reply,
          pending (next (.ok reply)) = pending (next (.ok 0)) ∧
            Steady operation (next (.ok reply)) (sourceId :: members)
  | .perform (.smembers _) next, members =>
      ∀ reply,
        pending (next (.ok reply)) = pending (next (.ok [])) ∧
          Steady operation (next (.ok reply)) members

variable {floats}

theorem Steady.not_failed {operation : MetricsOperation Number}
    {program : MetricsProgram (Option MetricsSnapshot)}
    {members : List String}
    (steady : Steady floats operation program members) :
    isFailed program = false := by
  cases program with
  | fail error => cases steady
  | done result => rfl
  | perform command next => rfl

/-- More sources may be registered meanwhile. -/
theorem Steady.mono {operation : MetricsOperation Number}
    {program : MetricsProgram (Option MetricsSnapshot)}
    {members more : List String}
    (steady : Steady floats operation program members)
    (included : members ⊆ more) : Steady floats operation program more := by
  induction program generalizing members more with
  | done result =>
      exact
        ⟨steady.1, fun sourceId names => included (steady.2 sourceId names)⟩
  | fail error => exact steady
  | perform command next induction =>
      cases command with
      | hincrby name field amount =>
          rcases steady with
            ⟨⟨sourceId, isMember, isKey⟩, isCounter, raises, continues⟩
          exact
            ⟨⟨sourceId, included isMember, isKey⟩, isCounter, raises,
              fun reply =>
                ⟨(continues reply).1,
                  induction _ (continues reply).2 included⟩⟩
      | hset name field text =>
          rcases steady with ⟨⟨sourceId, isMember, isKey⟩, isGauge, continues⟩
          exact
            ⟨⟨sourceId, included isMember, isKey⟩, isGauge, fun reply =>
              ⟨(continues reply).1,
                induction _ (continues reply).2 included⟩⟩
      | hgetall name =>
          exact fun reply =>
            ⟨(steady reply).1, induction _ (steady reply).2 included⟩
      | sadd name sourceId =>
          rcases steady with ⟨isSources, names, continues⟩
          exact
            ⟨isSources, names, fun reply =>
              ⟨(continues reply).1,
                induction _ (continues reply).2
                  (List.cons_subset_cons sourceId included)⟩⟩
      | smembers name =>
          exact fun reply =>
            ⟨(steady reply).1, induction _ (steady reply).2 included⟩

/-! ## The operations at their start -/

/-- A call which has registered its source makes its updates. -/
theorem steady_performUpdates
    {call : MetricsCall Number} (accepted : call.accepted floats = true)
    {members : List String} (isMember : call.sourceId ∈ members)
    (updates : List FieldUpdate) (fits : ∀ update ∈ updates, update.Fits) :
    pending
          (performUpdates (sourceKey call.sourceId) updates >>=
            fun _ => (pure none : MetricsProgram (Option MetricsSnapshot))) =
        updates.map (fun update => (sourceKey call.sourceId, update)) ∧
      Steady floats (.record call)
        (performUpdates (sourceKey call.sourceId) updates >>= fun _ =>
          pure none)
        members := by
  induction updates with
  | nil =>
      refine ⟨rfl, ?_, ?_⟩
      · rintro ⟨other, same, refused⟩
        cases same
        exact refused accepted
      · rintro sourceId ⟨other, same, _, rfl⟩
        cases same
        exact isMember
  | cons update rest induction =>
      rcases induction fun other member =>
        fits other (List.mem_cons_of_mem _ member) with ⟨isPending, steady⟩
      have fit := fits update (List.mem_cons_self ..)
      cases update with
      | add field amount =>
          exact
            ⟨congrArg _ isPending, ⟨_, isMember, rfl⟩, fit, fun error => rfl,
              fun reply => ⟨rfl, steady⟩⟩
      | put field text =>
          exact
            ⟨congrArg _ isPending, ⟨_, isMember, rfl⟩, fit,
              fun reply => ⟨rfl, steady⟩⟩

/-- Reading the sources updates nothing, and ends. -/
theorem steady_readSources
    (queueDepths : QueueDepths) (sourceIds members : List String)
    (continuation :
      List (String × List (String × String)) →
        MetricsProgram (Option MetricsSnapshot))
    (rest : ∀ read,
      pending (continuation read) = [] ∧
        Steady floats (.snapshot queueDepths) (continuation read) members) :
    pending (readSources sourceIds >>= continuation) = [] ∧
      Steady floats (.snapshot queueDepths)
        (readSources sourceIds >>= continuation) members := by
  induction sourceIds generalizing continuation with
  | nil => exact rest []
  | cons sourceId others induction =>
      have later (values : List (String × String)) :=
        induction (fun read => continuation ((sourceId, values) :: read))
          fun read => rest _
      have shape :
          (readSources (sourceId :: others) >>= continuation) =
            .perform (.hgetall (sourceKey sourceId)) fun reply =>
              ofOutcome reply >>= fun values =>
                readSources others >>= fun read =>
                  continuation ((sourceId, values) :: read) := by
        simp only [readSources, bind_bind, pure_eq, bind_done]
        rfl
      rw [shape]
      refine ⟨(later []).1, fun reply => ⟨?_, (later reply).2⟩⟩
      exact (later reply).1.trans (later []).1.symm

/-- A call which is accepted registers its source first. -/
theorem program_record
    {call : MetricsCall Number} (accepted : call.accepted floats = true) :
    (MetricsOperation.record call).program floats =
      .perform (.sadd sourcesKey call.sourceId) fun reply =>
        ofOutcome reply >>= fun _ =>
          performUpdates (sourceKey call.sourceId) (call.updates floats) >>=
            fun _ => pure none := by
  rw [MetricsOperation.program, program_of_accepted floats accepted,
    bind_bind, register, bind_bind]
  rfl

/-- A snapshot asks for the sources first. -/
theorem program_snapshot (queueDepths : QueueDepths) :
    (MetricsOperation.snapshot queueDepths).program floats =
      .perform (.smembers sourcesKey) fun reply =>
        ofOutcome reply >>= fun found =>
          readSources (found.insertionSort (· ≤ ·)) >>= fun sources =>
            .done (some ⟨sources, queueDepths⟩) := by
  simp only [MetricsOperation.program, snapshot, bind_bind, pure_eq,
    bind_done]
  rfl

/-- Before its first command an operation has all its updates to make. -/
theorem steady_program
    (operation : MetricsOperation Number) (members : List String) :
    pending (operation.program floats) = operation.updates floats ∧
      (isFailed (operation.program floats) = false →
        Steady floats operation (operation.program floats) members) := by
  cases operation with
  | record call =>
      by_cases accepted : call.accepted floats = true
      · have started (more : List String) (isMember : call.sourceId ∈ more) :=
          steady_performUpdates accepted isMember (call.updates floats)
            fun update member => fits_of_mem_updates floats member
        rw [program_record accepted, MetricsOperation.updates,
          if_pos accepted]
        have first := started (call.sourceId :: members)
          (List.mem_cons_self ..)
        exact
          ⟨first.1, fun _ =>
            ⟨rfl, ⟨call, rfl, accepted, rfl⟩, fun reply => ⟨rfl, first.2⟩⟩⟩
      · rcases program_of_refused floats accepted with ⟨message, isFailure⟩
        rw [MetricsOperation.program, isFailure, MetricsOperation.updates,
          if_neg accepted]
        exact ⟨rfl, fun isRunning => by cases isRunning⟩
  | snapshot queueDepths =>
      have ended (result : MetricsSnapshot) :
          Steady floats (.snapshot queueDepths)
            (.done (some result)) members := by
        refine ⟨?_, ?_⟩
        · rintro ⟨call, same, _⟩
          cases same
        · rintro sourceId ⟨call, same, _⟩
          cases same
      have read (sourceIds : List String) :=
        steady_readSources queueDepths sourceIds members
          (fun sources => .done (some ⟨sources, queueDepths⟩))
          fun sources => ⟨rfl, ended ⟨sources, queueDepths⟩⟩
      rw [program_snapshot]
      exact
        ⟨(read _).1, fun _ reply =>
          ⟨(read _).1.trans (read _).1.symm, (read _).2⟩⟩

/-- What raises before its first command is refused. -/
theorem refused_of_isFailed
    {operation : MetricsOperation Number}
    (failed : isFailed (operation.program floats) = true) :
    operation.Refused floats := by
  cases operation with
  | record call =>
      by_cases accepted : call.accepted floats = true
      · rw [program_record accepted] at failed
        cases failed
      · exact ⟨call, rfl, accepted⟩
  | snapshot queueDepths =>
      rw [program_snapshot] at failed
      cases failed

/-! ## What has been done -/

/-- The updates made to the hash at a key. -/
def updatesAt (name : String) (log : List (String × FieldUpdate)) :
    List FieldUpdate :=
  (log.filter fun entry => decide (entry.1 = name)).map Prod.snd

theorem updatesAt_append
    (name : String) (log more : List (String × FieldUpdate)) :
    updatesAt name (log ++ more) =
      updatesAt name log ++ updatesAt name more := by
  rw [updatesAt, List.filter_append, List.map_append]
  rfl

theorem updatesAt_perm
    {log other : List (String × FieldUpdate)} (same : log.Perm other)
    (name : String) : (updatesAt name log).Perm (updatesAt name other) :=
  (same.filter _).map _

theorem total_perm
    {updates others : List FieldUpdate} (same : updates.Perm others)
    (field : String) : total field updates = total field others :=
  (same.map _).sum_eq

/-- The operations of the metrics store, each with what is left of it. -/
abbrev MetricsTasks (Number : Type) : Type :=
  List
    (MetricsOperation Number × MetricsProgram (Option MetricsSnapshot))

/-- The call of an operation which records something. -/
def MetricsOperation.call? :
    MetricsOperation Number → Option (MetricsCall Number)
  | .record call => some call
  | .snapshot _ => none

theorem record_of_call?
    {operation : MetricsOperation Number} {call : MetricsCall Number}
    (isCall : operation.call? = some call) : operation = .record call := by
  cases operation with
  | record other => exact congrArg _ (Option.some.inj isCall)
  | snapshot queueDepths => cases isCall

/-- The calls which were made. -/
def startedCalls (tasks : MetricsTasks Number) : List (MetricsCall Number) :=
  tasks.filterMap fun task => task.1.call?

/-- The calls which were made and have returned. -/
def returnedCalls (tasks : MetricsTasks Number) : List (MetricsCall Number) :=
  startedCalls (tasks.filter fun task => isReturned task.2)

variable (floats) in
/-- The calls add more to a counter of the call than it can hold. -/
def CutOff (calls : List (MetricsCall Number)) (call : MetricsCall Number) :
    Prop :=
  ∃ field amount, FieldUpdate.add field amount ∈ call.updates floats ∧
    2 ^ 63 ≤ total field (updatesFor floats call.sourceId calls)

variable (floats) in
/-- What an operation has made of its updates, all but those left to make. -/
structure Made
    (task : MetricsOperation Number × MetricsProgram (Option MetricsSnapshot))
    (made : List (String × FieldUpdate)) : Prop where
  begins : made <+: task.1.updates floats
  complete : isFailed task.2 = false →
    made ++ pending task.2 = task.1.updates floats

variable (floats) in
/-- What the operations have done to the store by now. -/
structure Logged (tasks : MetricsTasks Number)
    (store : MetricsRedis) (log : List (String × FieldUpdate)) : Prop where
  hashes : ∀ name, store.hashes name = applyAll (updatesAt name log) []
  fits : ∀ entry ∈ log, entry.2.Fits
  registered : ∀ entry ∈ log,
    ∃ sourceId ∈ store.sets sourcesKey, entry.1 = sourceKey sourceId
  made : ∃ mades, List.Forall₂ (Made floats) tasks mades ∧
    log.Perm mades.flatten

/-! ## Counting -/

theorem updatesAt_updates
    (operation : MetricsOperation Number) (sourceId : String) :
    updatesAt (sourceKey sourceId) (operation.updates floats) =
      updatesFor floats sourceId operation.call?.toList := by
  cases operation with
  | snapshot queueDepths => rfl
  | record call =>
      have parts :
          updatesFor floats sourceId
              (MetricsOperation.record call).call?.toList =
            if call.accepted floats = true ∧ call.sourceId = sourceId then
              call.updates floats
            else [] := by
        by_cases isFor :
            call.accepted floats = true ∧ call.sourceId = sourceId
        · simp [updatesFor, callsFor, MetricsOperation.call?, isFor]
        · rw [if_neg isFor]
          simp only [updatesFor, callsFor, MetricsOperation.call?,
            Option.toList_some]
          rw [List.filter_cons_of_neg (by simpa using isFor)]
          rfl
      rw [parts, MetricsOperation.updates, updatesAt]
      by_cases accepted : call.accepted floats = true
      · by_cases same : call.sourceId = sourceId
        · subst same
          simp [accepted, List.filter_map, Function.comp_def]
        · have other : sourceKey call.sourceId ≠ sourceKey sourceId :=
            fun equal => same (sourceKey_injective equal)
          simp [accepted, same, other, List.filter_map, Function.comp_def]
      · simp [accepted]

theorem updatesFor_append
    (sourceId : String) (calls others : List (MetricsCall Number)) :
    updatesFor floats sourceId (calls ++ others) =
      updatesFor floats sourceId calls ++
        updatesFor floats sourceId others := by
  rw [updatesFor, callsFor, List.filter_append, List.flatMap_append]
  rfl

theorem startedCalls_cons
    (task : MetricsOperation Number × MetricsProgram (Option MetricsSnapshot))
    (rest : MetricsTasks Number) :
    startedCalls (task :: rest) =
      task.1.call?.toList ++ startedCalls rest := by
  unfold startedCalls
  cases called : task.1.call? <;> simp [called]

/-- All updates of the operations are those of the calls which were made. -/
theorem updatesAt_tasks
    (tasks : MetricsTasks Number) (sourceId : String) :
    updatesAt (sourceKey sourceId)
        (tasks.flatMap fun task => task.1.updates floats) =
      updatesFor floats sourceId (startedCalls tasks) := by
  induction tasks with
  | nil => rfl
  | cons task rest induction =>
      rw [List.flatMap_cons, updatesAt_append, updatesAt_updates, induction,
        startedCalls_cons, updatesFor_append]

/-- No call counts down. -/
theorem amount_nonneg
    {call : MetricsCall Number} (accepted : call.accepted floats = true)
    {field : String} {amount : ℤ}
    (member : FieldUpdate.add field amount ∈ call.updates floats) :
    0 ≤ amount := by
  rw [MetricsCall.accepted, Bool.and_eq_true] at accepted
  rcases accepted with ⟨_, inRange⟩
  cases call with
  | run sourceId runId outcome durationSeconds itemCount timestamp =>
      cases outcome <;>
        simp [MetricsCall.updates] at member <;>
        omega
  | httpStatus sourceId statusCode =>
      rw [MetricsCall.updates, List.mem_singleton] at member
      cases member
      exact Int.one_nonneg
  | items sourceId created updated =>
      simp only [MetricsCall.inRange, decide_eq_true_eq] at inRange
      simp only [MetricsCall.updates, List.mem_cons, List.not_mem_nil,
        or_false] at member
      rcases member with same | same
      · cases same
        exact inRange.1
      · cases same
        exact inRange.2
  | parseError sourceId =>
      rw [MetricsCall.updates, List.mem_singleton] at member
      cases member
      exact Int.one_nonneg
  | lockSkip sourceId =>
      rw [MetricsCall.updates, List.mem_singleton] at member
      cases member
      exact Int.one_nonneg
  | circuitBreaker sourceId isOpen =>
      rw [MetricsCall.updates, List.mem_singleton] at member
      cases member

/-- What operations add to a counter is not negative. -/
theorem total_nonneg
    {made : List (String × FieldUpdate)}
    (ofOperations : ∀ entry ∈ made, ∃ operation : MetricsOperation Number,
      entry ∈ operation.updates floats)
    (field name : String) :
    0 ≤ total field (updatesAt name made) := by
  apply List.sum_nonneg
  intro amount member
  rcases List.mem_map.mp member with ⟨update, isUpdate, rfl⟩
  rcases List.mem_map.mp isUpdate with ⟨entry, isEntry, rfl⟩
  rcases ofOperations entry (List.mem_of_mem_filter isEntry) with
    ⟨operation, isMade⟩
  cases operation with
  | snapshot queueDepths => cases isMade
  | record call =>
      rw [MetricsOperation.updates] at isMade
      split_ifs at isMade with accepted
      · rcases List.mem_map.mp isMade with ⟨update, isOfCall, rfl⟩
        cases update with
        | add other amount =>
            dsimp only
            split_ifs
            · exact amount_nonneg accepted isOfCall
            · exact le_refl 0
        | put other text => exact le_refl 0
      · cases isMade

/-- What begins some updates adds no more than all of them. -/
theorem total_le_of_prefix
    {operation : MetricsOperation Number} {made : List (String × FieldUpdate)}
    (begins : made <+: operation.updates floats) (field name : String) :
    total field (updatesAt name made) ≤
      total field (updatesAt name (operation.updates floats)) := by
  rcases begins with ⟨rest, isAll⟩
  have asked : ∀ entry ∈ rest, ∃ asking : MetricsOperation Number,
      entry ∈ asking.updates floats := fun entry member =>
    ⟨operation, isAll ▸ List.mem_append_right _ member⟩
  rw [← isAll, updatesAt_append, total_append]
  exact le_add_of_nonneg_right (total_nonneg asked field name)

/-- An operation which has returned has made all its updates. -/
theorem Made.eq_of_isReturned
    {task : MetricsOperation Number × MetricsProgram (Option MetricsSnapshot)}
    {made : List (String × FieldUpdate)} (isMade : Made floats task made)
    (returned : isReturned task.2 = true) :
    made = task.1.updates floats := by
  rcases task with ⟨operation, program⟩
  cases program with
  | done result =>
      have complete := isMade.complete rfl
      rwa [pending, List.append_nil] at complete
  | fail error => cases returned
  | perform command next => cases returned

/-- What is made lies between what returned and what was started. -/
theorem total_made_bounds
    {tasks : MetricsTasks Number} {mades : List (List (String × FieldUpdate))}
    (all : List.Forall₂ (Made floats) tasks mades) (field name : String) :
    total field
          (updatesAt name
            ((tasks.filter fun task => isReturned task.2).flatMap
              fun task => task.1.updates floats)) ≤
        total field (updatesAt name mades.flatten) ∧
      total field (updatesAt name mades.flatten) ≤
        total field
          (updatesAt name
            (tasks.flatMap fun task => task.1.updates floats)) := by
  induction all with
  | nil => exact ⟨le_rfl, le_rfl⟩
  | @cons task made rest mades isMade all induction =>
      have upper := total_le_of_prefix isMade.begins field name
      rw [List.flatten_cons, updatesAt_append, total_append,
        List.flatMap_cons, updatesAt_append, total_append]
      refine ⟨?_, add_le_add upper induction.2⟩
      by_cases returned : isReturned task.2 = true
      · have kept :
            (task :: rest).filter (fun task => isReturned task.2) =
              task :: rest.filter fun task => isReturned task.2 :=
          List.filter_cons_of_pos returned
        rw [kept, List.flatMap_cons, updatesAt_append, total_append,
          isMade.eq_of_isReturned returned]
        exact add_le_add_right induction.1 _
      · have dropped :
            (task :: rest).filter (fun task => isReturned task.2) =
              rest.filter fun task => isReturned task.2 :=
          List.filter_cons_of_neg returned
        have asked : ∀ entry ∈ made, ∃ asking : MetricsOperation Number,
            entry ∈ asking.updates floats := fun entry member =>
          ⟨task.1, isMade.begins.subset member⟩
        rw [dropped]
        exact
          le_add_of_nonneg_of_le (total_nonneg asked field name) induction.1

/-! ## What holds at every moment -/

variable (floats) in
/-- What holds of the operations and the store at every moment of a run. -/
structure Counted (tasks : MetricsTasks Number) (store : MetricsRedis) :
    Prop where
  steady : ∀ task ∈ tasks, isFailed task.2 = false →
    Steady floats task.1 task.2 (store.sets sourcesKey)
  failed : ∀ task ∈ tasks, isFailed task.2 = true →
    task.1.Refused floats ∨
      ∃ call, task.1 = .record call ∧
        CutOff floats (startedCalls tasks) call
  logged : ∃ log, Logged floats tasks store log
  distinct : (store.sets sourcesKey).Nodup
  named : ∀ sourceId ∈ store.sets sourcesKey,
    ∃ task ∈ tasks, task.1.Names floats sourceId

theorem counted_empty : Counted floats [] MetricsRedis.empty where
  steady := List.forall_mem_nil _
  failed := List.forall_mem_nil _
  logged := by
    refine ⟨[], fun name => rfl, ?_, ?_, [], .nil, List.Perm.refl _⟩
    · exact List.forall_mem_nil _
    · exact List.forall_mem_nil _
  distinct := List.nodup_nil
  named := List.forall_mem_nil _

/-- More calls do not take back what was added. -/
theorem CutOff.cons
    {tasks : MetricsTasks Number} {call : MetricsCall Number}
    (cutOff : CutOff floats (startedCalls tasks) call)
    (task : MetricsOperation Number × MetricsProgram (Option MetricsSnapshot)) :
    CutOff floats (startedCalls (task :: tasks)) call := by
  rcases cutOff with ⟨field, amount, isUpdate, tooMuch⟩
  refine ⟨field, amount, isUpdate, tooMuch.trans ?_⟩
  have asked : ∀ entry ∈ task.1.updates floats,
      ∃ asking : MetricsOperation Number, entry ∈ asking.updates floats :=
    fun entry member => ⟨task.1, member⟩
  rw [← updatesAt_tasks, ← updatesAt_tasks, List.flatMap_cons,
    updatesAt_append, total_append]
  exact
    le_add_of_nonneg_left
      (total_nonneg asked field (sourceKey call.sourceId))

/-- Starting an operation leaves all its updates to be made. -/
theorem Counted.start {tasks : MetricsTasks Number} {store : MetricsRedis}
    (counted : Counted floats tasks store)
    (operation : MetricsOperation Number) :
    Counted floats ((operation, operation.program floats) :: tasks)
      store where
  steady :=
    List.forall_mem_cons.mpr
      ⟨(steady_program operation _).2, counted.steady⟩
  failed := by
    refine List.forall_mem_cons.mpr ⟨?_, ?_⟩
    · exact fun failed => Or.inl (refused_of_isFailed failed)
    · intro task member failed
      rcases counted.failed task member failed with
        refused | ⟨call, isCall, cutOff⟩
      · exact Or.inl refused
      · exact Or.inr ⟨call, isCall, cutOff.cons _⟩
  logged := by
    rcases counted.logged with
      ⟨log, hashes, fits, registered, mades, all, isLog⟩
    refine ⟨log, hashes, fits, registered, [] :: mades, .cons ?_ all, isLog⟩
    exact ⟨List.nil_prefix, fun _ => (steady_program operation []).1⟩
  distinct := counted.distinct
  named sourceId isMember := by
    rcases counted.named sourceId isMember with ⟨task, member, names⟩
    exact ⟨task, List.mem_cons_of_mem _ member, names⟩

/-- What is logged was asked for by an operation. -/
theorem Logged.asked {tasks : MetricsTasks Number} {store : MetricsRedis}
    {log : List (String × FieldUpdate)}
    (logged : Logged floats tasks store log) :
    ∀ entry ∈ log, ∃ operation : MetricsOperation Number,
      entry ∈ operation.updates floats := by
  intro entry isLogged
  rcases logged.made with ⟨mades, all, isLog⟩
  rcases List.mem_flatten.mp (isLog.subset isLogged) with
    ⟨made, isMade, member⟩
  rcases exists_of_mem_forall₂ all isMade with ⟨task, _, begins, _⟩
  exact ⟨task.1, begins.subset member⟩

/-- An update of an operation is one of an accepted call. -/
theorem exists_call_of_update
    {operation : MetricsOperation Number} {name : String}
    {update : FieldUpdate}
    (member : (name, update) ∈ operation.updates floats) :
    ∃ call, operation = .record call ∧ call.accepted floats = true ∧
      sourceKey call.sourceId = name ∧ update ∈ call.updates floats := by
  cases operation with
  | snapshot queueDepths => cases member
  | record call =>
      rw [MetricsOperation.updates] at member
      split_ifs at member with accepted
      · rcases List.mem_map.mp member with ⟨other, isUpdate, same⟩
        cases same
        exact ⟨call, rfl, accepted, rfl, isUpdate⟩
      · cases member

/-! ## One command -/

section Step

variable {before after : MetricsTasks Number} {store changed : MetricsRedis}
variable {operation : MetricsOperation Number}
variable {current next : MetricsProgram (Option MetricsSnapshot)}

/-- Which calls were made does not depend on what is left of them. -/
theorem startedCalls_middle :
    startedCalls (before ++ (operation, next) :: after) =
      startedCalls (before ++ (operation, current) :: after) := by
  simp [startedCalls, List.filterMap_append, List.filterMap_cons]

/-- What one command of an operation has to leave. -/
theorem Counted.move
    (counted :
      Counted floats (before ++ (operation, current) :: after) store)
    (steady : isFailed next = false →
      Steady floats operation next (changed.sets sourcesKey))
    (failed : isFailed next = true →
      ∃ call, operation = .record call ∧
        CutOff floats
          (startedCalls (before ++ (operation, current) :: after)) call)
    (grows : store.sets sourcesKey ⊆ changed.sets sourcesKey)
    (logged : ∃ log,
      Logged floats (before ++ (operation, next) :: after) changed log)
    (distinct : (changed.sets sourcesKey).Nodup)
    (named : ∀ sourceId ∈ changed.sets sourcesKey,
      sourceId ∈ store.sets sourcesKey ∨ operation.Names floats sourceId) :
    Counted floats (before ++ (operation, next) :: after) changed where
  steady := by
    have others := counted.steady
    rw [List.forall_mem_append, List.forall_mem_cons] at others ⊢
    exact
      ⟨fun task member goesOn => (others.1 task member goesOn).mono grows,
        steady,
        fun task member goesOn =>
          (others.2.2 task member goesOn).mono grows⟩
  failed := by
    have others := counted.failed
    rw [startedCalls_middle]
    rw [List.forall_mem_append, List.forall_mem_cons] at others ⊢
    exact ⟨others.1, fun isFailed => Or.inr (failed isFailed), others.2.2⟩
  logged := logged
  distinct := distinct
  named sourceId isMember := by
    rcases named sourceId isMember with wasMember | names
    · rcases counted.named sourceId wasMember with ⟨task, member, names⟩
      rcases List.mem_append.mp member with isBefore | isRest
      · exact ⟨task, List.mem_append_left _ isBefore, names⟩
      · rcases List.mem_cons.mp isRest with rfl | isAfter
        · exact ⟨(operation, next), by simp, names⟩
        · exact ⟨task, by simp [isAfter], names⟩
    · exact ⟨(operation, next), by simp, names⟩

/-- What a command has to leave whose reply is no error. -/
theorem Counted.goOn
    (counted :
      Counted floats (before ++ (operation, current) :: after) store)
    (steady : Steady floats operation next (changed.sets sourcesKey))
    (grows : store.sets sourcesKey ⊆ changed.sets sourcesKey)
    (logged : ∃ log,
      Logged floats (before ++ (operation, next) :: after) changed log)
    (distinct : (changed.sets sourcesKey).Nodup)
    (named : ∀ sourceId ∈ changed.sets sourcesKey,
      sourceId ∈ store.sets sourcesKey ∨ operation.Names floats sourceId) :
    Counted floats (before ++ (operation, next) :: after) changed := by
  refine
    counted.move (fun _ => steady) ?_ grows logged distinct named
  intro failed
  rw [steady.not_failed] at failed
  cases failed

/-- A command which leaves the hashes does not touch the log. -/
theorem Logged.sameHashes {log : List (String × FieldUpdate)}
    (logged :
      Logged floats (before ++ (operation, current) :: after) store log)
    (isRunning : isFailed current = false)
    (samePending : isFailed next = false → pending next = pending current)
    (sameHashes : changed.hashes = store.hashes)
    (grows : store.sets sourcesKey ⊆ changed.sets sourcesKey) :
    Logged floats (before ++ (operation, next) :: after) changed log where
  hashes name := by
    rw [sameHashes]
    exact logged.hashes name
  fits := logged.fits
  registered entry member := by
    rcases logged.registered entry member with ⟨sourceId, isMember, isKey⟩
    exact ⟨sourceId, grows isMember, isKey⟩
  made := by
    rcases logged.made with ⟨mades, all, isLog⟩
    rcases exists_of_forall₂_middle all with
      ⟨first, made, rest, rfl, isFirst, isMade, isRest⟩
    refine ⟨first ++ made :: rest,
      List.rel_append isFirst (.cons ⟨isMade.begins, ?_⟩ isRest), isLog⟩
    intro goesOn
    rw [samePending goesOn]
    exact isMade.complete isRunning

/-- An update which is made is the next one of its operation. -/
theorem exists_mades {log : List (String × FieldUpdate)} {name : String}
    (logged :
      Logged floats (before ++ (operation, current) :: after) store log)
    (isRunning : isFailed current = false) (update : FieldUpdate)
    (isPending : pending current = (name, update) :: pending next) :
    ∃ mades,
      List.Forall₂ (Made floats) (before ++ (operation, next) :: after)
          mades ∧
        (log ++ [(name, update)]).Perm mades.flatten := by
  rcases logged.made with ⟨mades, all, isLog⟩
  rcases exists_of_forall₂_middle all with
    ⟨first, made, rest, rfl, isFirst, isMade, isRest⟩
  have complete := isMade.complete isRunning
  dsimp only at complete
  rw [isPending] at complete
  have begins : made ++ [(name, update)] <+: operation.updates floats :=
    ⟨pending next, by rw [← complete, List.append_assoc]; rfl⟩
  refine ⟨first ++ (made ++ [(name, update)]) :: rest,
    List.rel_append isFirst (.cons ⟨begins, fun _ => ?_⟩ isRest), ?_⟩
  · rw [← complete, List.append_assoc]
    rfl
  · rw [List.flatten_append, List.flatten_cons] at isLog ⊢
    refine (isLog.append_right _).trans ?_
    rw [List.append_assoc, List.append_assoc, List.append_assoc]
    exact
      ((List.perm_append_comm.append_left made).append_left first.flatten)

/-- An update of a hash moves from what is left to the log. -/
theorem Logged.update {log : List (String × FieldUpdate)} {name : String}
    (logged :
      Logged floats (before ++ (operation, current) :: after) store log)
    (isRunning : isFailed current = false) (update : FieldUpdate)
    (isPending : pending current = (name, update) :: pending next)
    (fits : update.Fits)
    (registered :
      ∃ sourceId ∈ store.sets sourcesKey, name = sourceKey sourceId) :
    Logged floats (before ++ (operation, next) :: after)
      { store with
        hashes :=
          Function.update store.hashes name
            (update.apply (store.hashes name)) }
      (log ++ [(name, update)]) where
  hashes other := by
    rw [updatesAt_append, applyAll_append, ← logged.hashes other]
    by_cases same : other = name
    · subst same
      show Function.update store.hashes other _ other = _
      rw [Function.update_self]
      simp [updatesAt, applyAll]
    · show Function.update store.hashes name _ other = _
      rw [Function.update_of_ne same]
      simp [updatesAt, applyAll, Ne.symm same]
  fits := by
    rw [List.forall_mem_append, List.forall_mem_singleton]
    exact ⟨logged.fits, fits⟩
  registered := by
    rw [List.forall_mem_append, List.forall_mem_singleton]
    exact ⟨logged.registered, registered⟩
  made := exists_mades logged isRunning update isPending

/-- A counter is readable when its hash was made by the operations. -/
theorem Logged.readCounter {log : List (String × FieldUpdate)}
    {tasks : MetricsTasks Number} (logged : Logged floats tasks store log)
    {field : String} (isCounter : field ∉ gaugeFields) (name : String) :
    Metrics.readCounter (fieldText field (store.hashes name)) =
      some (total field (updatesAt name log)) := by
  have fits : ∀ update ∈ updatesAt name log, update.Fits := by
    intro update member
    rcases List.mem_map.mp member with ⟨entry, isLogged, rfl⟩
    exact logged.fits entry (List.mem_of_mem_filter isLogged)
  rw [logged.hashes name, fieldText_applyAll_counter isCounter fits,
    readCounter_integerText]

theorem incrementField_of_readCounter
    {field : String} {amount value : ℤ} {fields : List (String × String)}
    (readable : Metrics.readCounter (fieldText field fields) = some value) :
    incrementField field amount fields =
      if [amount, value, value + amount].all isSigned64 then
        some (value + amount, (FieldUpdate.add field amount).apply fields)
      else none := by
  rw [incrementField, readable, FieldUpdate.apply, readable]
  rfl

/-- What is not negative and not in range is too large. -/
theorem le_of_not_isSigned64
    {amount value : ℤ} (amountNonneg : 0 ≤ amount) (valueNonneg : 0 ≤ value)
    (beyond : ¬ [amount, value, value + amount].all isSigned64 = true) :
    2 ^ 63 ≤ value + amount := by
  by_contra below
  apply beyond
  simp only [List.all_cons, List.all_nil, isSigned64, Bool.and_true,
    Bool.and_eq_true, decide_eq_true_eq]
  omega

/-- What is left to an operation is one of its updates. -/
theorem Logged.pending_subset {log : List (String × FieldUpdate)}
    (logged :
      Logged floats (before ++ (operation, current) :: after) store log)
    (isRunning : isFailed current = false) :
    pending current ⊆ operation.updates floats := by
  rcases logged.made with ⟨mades, all, _⟩
  rcases exists_of_forall₂_middle all with ⟨_, made, _, _, _, isMade, _⟩
  intro entry member
  rw [← isMade.complete isRunning]
  exact List.mem_append_right _ member

/-- A counter raises only when the calls add more than it can hold. -/
theorem Logged.cutOff {log : List (String × FieldUpdate)}
    {name field : String} {amount : ℤ}
    {next : Except PyError ℤ → MetricsProgram (Option MetricsSnapshot)}
    (logged :
      Logged floats
        (before ++
          (operation, perform (.hincrby name field amount) next) :: after)
        store log)
    (beyond :
      ¬ [amount, total field (updatesAt name log),
        total field (updatesAt name log) + amount].all isSigned64 = true) :
    ∃ call, operation = .record call ∧
      CutOff floats
        (startedCalls
          (before ++
            (operation, perform (.hincrby name field amount) next) :: after))
        call := by
  have isPending :
      pending (perform (.hincrby name field amount) next) =
        (name, .add field amount) :: pending (next (.ok 0)) := rfl
  rcases exists_mades logged rfl (.add field amount) isPending with
    ⟨mades, all, isLog⟩
  -- The update is one of an accepted call, which is not negative.
  have asked :
      (name, FieldUpdate.add field amount) ∈ operation.updates floats := by
    refine logged.pending_subset rfl ?_
    rw [isPending]
    exact List.mem_cons_self
  rcases exists_call_of_update asked with
    ⟨call, rfl, accepted, rfl, isUpdate⟩
  refine ⟨call, rfl, field, amount, isUpdate, ?_⟩
  have logNonneg := total_nonneg logged.asked field (sourceKey call.sourceId)
  have tooMuch :=
    le_of_not_isSigned64 (amount_nonneg accepted isUpdate) logNonneg beyond
  have bounds := (total_made_bounds all field (sourceKey call.sourceId)).2
  rw [← total_perm (updatesAt_perm isLog _), updatesAt_append, total_append,
    updatesAt_tasks, startedCalls_middle] at bounds
  refine tooMuch.trans (le_trans (le_of_eq ?_) bounds)
  simp [updatesAt, total]

/-- A counter is added to, unless the call is cut off. -/
theorem Counted.hincrby
    {name field : String} {amount : ℤ}
    {next : Except PyError ℤ → MetricsProgram (Option MetricsSnapshot)}
    (counted :
      Counted floats
        (before ++
          (operation, perform (.hincrby name field amount) next) :: after)
        store) :
    Counted floats
      (before ++
        (operation,
          next (metricsHandler (.hincrby name field amount) store).1) :: after)
      (metricsHandler (.hincrby name field amount) store).2 := by
  have steady :=
    counted.steady (operation, perform (.hincrby name field amount) next)
      (by simp) rfl
  rcases steady with ⟨registered, isCounter, raises, continues⟩
  rcases counted.logged with ⟨log, logged⟩
  have readable := logged.readCounter isCounter name
  by_cases inRange :
      [amount, total field (updatesAt name log),
        total field (updatesAt name log) + amount].all isSigned64 = true
  · have handled :
        metricsHandler (.hincrby name field amount) store =
          (.ok (total field (updatesAt name log) + amount),
            { store with
              hashes :=
                Function.update store.hashes name
                  ((FieldUpdate.add field amount).apply
                    (store.hashes name)) }) := by
      rw [metricsHandler, incrementField_of_readCounter readable,
        if_pos inRange]
    rw [handled]
    rcases continues (total field (updatesAt name log) + amount) with
      ⟨samePending, continuesSteady⟩
    have isPending :
        pending (perform (.hincrby name field amount) next) =
          (name, .add field amount) ::
            pending
              (next (.ok (total field (updatesAt name log) + amount))) := by
      rw [pending, samePending]
    exact
      counted.goOn continuesSteady (List.Subset.refl _)
        ⟨log ++ [(name, .add field amount)],
          logged.update rfl (.add field amount) isPending isCounter registered⟩
        counted.distinct fun _ => Or.inl
  · have handled :
        metricsHandler (.hincrby name field amount) store =
          (.error responseError, store) := by
      rw [metricsHandler, incrementField_of_readCounter readable,
        if_neg inRange]
    rw [handled, raises]
    have hasFailed :
        isFailed
            (fail responseError :
              MetricsProgram (Option MetricsSnapshot)) ≠ false :=
      Bool.true_eq_false.mp
    exact
      counted.move (fun isRunning => absurd isRunning hasFailed)
        (fun _ => logged.cutOff inRange) (List.Subset.refl _)
        ⟨log,
          logged.sameHashes rfl (fun isRunning => absurd isRunning hasFailed)
            rfl (List.Subset.refl _)⟩
        counted.distinct fun _ => Or.inl

/-- A gauge is set. -/
theorem Counted.hset
    {name field text : String}
    {next : Except PyError ℤ → MetricsProgram (Option MetricsSnapshot)}
    (counted :
      Counted floats
        (before ++
          (operation, perform (.hset name field text) next) :: after)
        store) :
    Counted floats
      (before ++
        (operation,
          next (metricsHandler (.hset name field text) store).1) :: after)
      (metricsHandler (.hset name field text) store).2 := by
  have steady :=
    counted.steady (operation, perform (.hset name field text) next)
      (by simp) rfl
  rcases steady with ⟨registered, isGauge, continues⟩
  rcases counted.logged with ⟨log, logged⟩
  rcases continues
    (newlyAdded (decide (field ∈ (store.hashes name).map Prod.fst))) with
    ⟨samePending, continuesSteady⟩
  have handled :
      metricsHandler (.hset name field text) store =
        (.ok
            (newlyAdded
              (decide (field ∈ (store.hashes name).map Prod.fst))),
          { store with
            hashes :=
              Function.update store.hashes name
                ((FieldUpdate.put field text).apply (store.hashes name)) }) :=
    rfl
  have isPending :
      pending (perform (.hset name field text) next) =
        (name, .put field text) ::
          pending
            (next
              (.ok
                (newlyAdded
                  (decide (field ∈ (store.hashes name).map Prod.fst))))) := by
    rw [pending, samePending]
  rw [handled]
  exact
    counted.goOn continuesSteady (List.Subset.refl _)
      ⟨log ++ [(name, .put field text)],
        logged.update rfl (.put field text) isPending isGauge registered⟩
      counted.distinct fun _ => Or.inl

/-- A source is registered. -/
theorem Counted.sadd
    {name sourceId : String}
    {next : Except PyError ℤ → MetricsProgram (Option MetricsSnapshot)}
    (counted :
      Counted floats
        (before ++ (operation, perform (.sadd name sourceId) next) :: after)
        store) :
    Counted floats
      (before ++
        (operation, next (metricsHandler (.sadd name sourceId) store).1) ::
          after)
      (metricsHandler (.sadd name sourceId) store).2 := by
  have steady :=
    counted.steady (operation, perform (.sadd name sourceId) next)
      (by simp) rfl
  rcases steady with ⟨rfl, names, continues⟩
  rcases counted.logged with ⟨log, logged⟩
  rcases continues
    (newlyAdded (decide (sourceId ∈ store.sets sourcesKey))) with
    ⟨samePending, continuesSteady⟩
  have isSet :
      (metricsHandler (.sadd sourcesKey sourceId) store).2.sets sourcesKey =
        addMember sourceId (store.sets sourcesKey) := by
    rw [metricsHandler]
    dsimp only
    rw [Function.update_self]
  have grows :
      store.sets sourcesKey ⊆
        (metricsHandler (.sadd sourcesKey sourceId) store).2.sets
          sourcesKey := by
    intro other member
    rw [isSet, mem_addMember_iff]
    exact Or.inr member
  refine counted.goOn (continuesSteady.mono ?_) grows
    ⟨log, logged.sameHashes rfl (fun _ => samePending) rfl grows⟩ ?_ ?_
  · intro other member
    rw [isSet, mem_addMember_iff]
    exact List.mem_cons.mp member
  · rw [isSet]
    exact nodup_addMember counted.distinct
  · intro other member
    rw [isSet, mem_addMember_iff] at member
    rcases member with rfl | wasMember
    · exact Or.inr names
    · exact Or.inl wasMember

/-- A command which changes nothing keeps the account. -/
theorem Counted.reads
    (counted :
      Counted floats (before ++ (operation, current) :: after) store)
    (isRunning : isFailed current = false)
    (samePending : pending next = pending current)
    (steady : Steady floats operation next (store.sets sourcesKey)) :
    Counted floats (before ++ (operation, next) :: after) store := by
  rcases counted.logged with ⟨log, logged⟩
  exact
    counted.goOn steady (List.Subset.refl _)
      ⟨log,
        logged.sameHashes isRunning (fun _ => samePending) rfl
          (List.Subset.refl _)⟩
      counted.distinct fun _ => Or.inl

/-- Every command keeps the account. -/
theorem Counted.step
    {command : MetricsCommand}
    {next : command.Reply → MetricsProgram (Option MetricsSnapshot)}
    (counted :
      Counted floats (before ++ (operation, perform command next) :: after)
        store) :
    Counted floats
      (before ++ (operation, next (metricsHandler command store).1) :: after)
      (metricsHandler command store).2 := by
  have steady :=
    counted.steady (operation, perform command next) (by simp) rfl
  cases command with
  | hincrby name field amount => exact counted.hincrby
  | hset name field text => exact counted.hset
  | hgetall name =>
      rcases steady (store.hashes name) with ⟨samePending, continuesSteady⟩
      exact counted.reads rfl samePending continuesSteady
  | sadd name sourceId => exact counted.sadd
  | smembers name =>
      rcases steady (store.sets name) with ⟨samePending, continuesSteady⟩
      exact counted.reads rfl samePending continuesSteady

end Step

/-- At every moment of every run the account is kept. -/
theorem counted_of_alone {Time : Type} [LE Time] {started now : Time}
    {tasks : MetricsTasks Number} {store : MetricsRedis}
    (alone :
      Alone (fun _ => metricsHandler) (MetricsOperation.program floats)
        started MetricsRedis.empty tasks now store) :
    Counted floats tasks store := by
  induction alone with
  | nothing => exact counted_empty
  | start operation alone induction => exact induction.start operation
  | step alone induction => exact induction.step
  | wait later ordered alone induction => exact induction

/-! ## What the store says about the calls -/

/-- What the hashes and the set of sources say about the calls made so far. -/
structure MetricsAccount (floats : FloatRules Number)
    (tasks : MetricsTasks Number)
    (hash : String → List (String × String)) (members : List String) :
    Prop where
  /-- A counter has what calls added which have returned, and no more than all
  calls add. -/
  counters : ∀ sourceId field, field ∉ gaugeFields →
    ∃ value : ℤ,
      fieldText field (hash sourceId) = integerText value ∧
        total field (updatesFor floats sourceId (returnedCalls tasks)) ≤
          value ∧
        value ≤ total field (updatesFor floats sourceId (startedCalls tasks))
  /-- A gauge shows what one of the calls put there. -/
  gauges : ∀ sourceId, ∀ field ∈ gaugeFields, ∀ text,
    lookup field (hash sourceId) = some text →
      FieldUpdate.put field text ∈
        updatesFor floats sourceId (startedCalls tasks)
  gaugesSet : ∀ sourceId field text,
    FieldUpdate.put field text ∈
        updatesFor floats sourceId (returnedCalls tasks) →
      ∃ other, lookup field (hash sourceId) = some other
  distinct : members.Nodup
  registered : ∀ sourceId,
    Named floats (returnedCalls tasks) sourceId → sourceId ∈ members
  named : ∀ sourceId ∈ members, Named floats (startedCalls tasks) sourceId
  hashOfMember : ∀ sourceId, hash sourceId ≠ [] → sourceId ∈ members
  /-- A call whose arguments are refused does not return. -/
  returns : ∀ call result,
    (MetricsOperation.record call, .done result) ∈ tasks →
      call.accepted floats = true
  /-- A call raises for its arguments, or because it is cut off. -/
  raises : ∀ call error,
    (MetricsOperation.record call, .fail error) ∈ tasks →
      call.accepted floats = false ∨ CutOff floats (startedCalls tasks) call
  /-- A snapshot is taken without an exception. -/
  snapshots : ∀ queueDepths error,
    (MetricsOperation.snapshot queueDepths, .fail error) ∉ tasks

section Account

variable {tasks : MetricsTasks Number} {store : MetricsRedis}
variable {log : List (String × FieldUpdate)}

theorem Logged.updatesAt_subset (logged : Logged floats tasks store log)
    (sourceId : String) :
    updatesAt (sourceKey sourceId) log ⊆
      updatesFor floats sourceId (startedCalls tasks) := by
  rcases logged.made with ⟨mades, all, isLog⟩
  rw [← updatesAt_tasks]
  intro update isUpdate
  rcases List.mem_map.mp isUpdate with ⟨entry, isEntry, rfl⟩
  rcases List.mem_filter.mp isEntry with ⟨isLogged, atKey⟩
  rcases List.mem_flatten.mp (isLog.subset isLogged) with
    ⟨made, isMade, member⟩
  rcases exists_of_mem_forall₂ all isMade with ⟨task, isTask, begins, _⟩
  refine List.mem_map_of_mem (List.mem_filter.mpr ⟨?_, atKey⟩)
  exact List.mem_flatMap.mpr ⟨task, isTask, begins.subset member⟩

/-- What calls put which have returned is logged. -/
theorem Logged.returned_subset (logged : Logged floats tasks store log)
    (sourceId : String) :
    updatesFor floats sourceId (returnedCalls tasks) ⊆
      updatesAt (sourceKey sourceId) log := by
  rcases logged.made with ⟨mades, all, isLog⟩
  rw [returnedCalls, ← updatesAt_tasks]
  intro update isUpdate
  rcases List.mem_map.mp isUpdate with ⟨entry, isEntry, rfl⟩
  rcases List.mem_filter.mp isEntry with ⟨isAsked, atKey⟩
  rcases List.mem_flatMap.mp isAsked with ⟨task, isReturnedTask, member⟩
  rcases List.mem_filter.mp isReturnedTask with ⟨isTask, returned⟩
  rcases exists_of_mem_forall₂ all.flip isTask with ⟨made, inMades, isMade⟩
  rw [← isMade.eq_of_isReturned returned] at member
  refine List.mem_map_of_mem (List.mem_filter.mpr ⟨?_, atKey⟩)
  exact isLog.symm.subset (List.mem_flatten.mpr ⟨made, inMades, member⟩)

/-- A counter lies between what returned and what was started. -/
theorem Logged.total_bounds (logged : Logged floats tasks store log)
    (field sourceId : String) :
    total field (updatesFor floats sourceId (returnedCalls tasks)) ≤
        total field (updatesAt (sourceKey sourceId) log) ∧
      total field (updatesAt (sourceKey sourceId) log) ≤
        total field (updatesFor floats sourceId (startedCalls tasks)) := by
  rcases logged.made with ⟨mades, all, isLog⟩
  rw [returnedCalls, ← updatesAt_tasks, ← updatesAt_tasks,
    total_perm (updatesAt_perm isLog _)]
  exact total_made_bounds all field (sourceKey sourceId)

/-- A gauge is there when a call which puts it has returned. -/
theorem Logged.gaugesSet (logged : Logged floats tasks store log)
    {sourceId field text : String}
    (isPut :
      FieldUpdate.put field text ∈
        updatesFor floats sourceId (returnedCalls tasks)) :
    ∃ other,
      lookup field (store.hashes (sourceKey sourceId)) = some other := by
  have isLogged := logged.returned_subset sourceId isPut
  have isKey : field ∈ (store.hashes (sourceKey sourceId)).map Prod.fst := by
    rw [logged.hashes, mem_keys_applyAll_iff]
    exact ⟨_, isLogged, rfl⟩
  rcases List.mem_map.mp isKey with ⟨⟨key, other⟩, member, rfl⟩
  refine ⟨other, lookup_of_mem ?_ member⟩
  rw [logged.hashes]
  exact nodup_keys_applyAll _

/-- What has a hash is registered. -/
theorem Logged.hashOfMember (logged : Logged floats tasks store log)
    {sourceId : String} (filled : store.hashes (sourceKey sourceId) ≠ []) :
    sourceId ∈ store.sets sourcesKey := by
  have updated : updatesAt (sourceKey sourceId) log ≠ [] := by
    intro nothing
    apply filled
    rw [logged.hashes, nothing]
    rfl
  rcases List.exists_mem_of_ne_nil _ updated with ⟨update, member⟩
  rcases List.mem_map.mp member with ⟨entry, isEntry, rfl⟩
  rcases List.mem_filter.mp isEntry with ⟨isLogged, atKey⟩
  rcases logged.registered entry isLogged with ⟨other, isMember, isKey⟩
  rw [of_decide_eq_true atKey] at isKey
  rw [sourceKey_injective isKey]
  exact isMember

/-- What a call names which has returned is registered. -/
theorem Counted.registered (counted : Counted floats tasks store)
    {sourceId : String}
    (isNamed : Named floats (returnedCalls tasks) sourceId) :
    sourceId ∈ store.sets sourcesKey := by
  rcases isNamed with ⟨call, member, accepted, rfl⟩
  rcases List.mem_filterMap.mp member with
    ⟨⟨operation, program⟩, isReturnedTask, isCall⟩
  rcases List.mem_filter.mp isReturnedTask with ⟨isTask, returned⟩
  cases program with
  | done result =>
      have steady := counted.steady _ isTask rfl
      exact
        steady.2 call.sourceId
          ⟨call, record_of_call? isCall, accepted, rfl⟩
  | fail error => cases returned
  | perform command next => cases returned

/-- The account which is kept is one of the calls. -/
theorem Counted.account (counted : Counted floats tasks store) :
    MetricsAccount floats tasks
      (fun sourceId => store.hashes (sourceKey sourceId))
      (store.sets sourcesKey) := by
  rcases counted.logged with ⟨log, logged⟩
  have fits : ∀ sourceId,
      ∀ update ∈ updatesAt (sourceKey sourceId) log, update.Fits :=
    fun sourceId update member =>
      fits_updatesFor floats (logged.updatesAt_subset sourceId member)
  constructor
  · intro sourceId field isCounter
    refine
      ⟨total field (updatesAt (sourceKey sourceId) log), ?_,
        logged.total_bounds field sourceId⟩
    rw [logged.hashes, fieldText_applyAll_counter isCounter (fits sourceId)]
  · intro sourceId field isGauge text found
    rw [logged.hashes, lookup_applyAll_gauge isGauge (fits sourceId)] at found
    exact logged.updatesAt_subset sourceId (mem_of_lastPut found)
  · exact fun sourceId field text isPut => logged.gaugesSet isPut
  · exact counted.distinct
  · exact fun sourceId isNamed => counted.registered isNamed
  · intro sourceId isMember
    rcases counted.named sourceId isMember with
      ⟨task, isTask, call, isRecord, accepted, isSource⟩
    refine ⟨call, List.mem_filterMap.mpr ⟨task, isTask, ?_⟩, accepted,
      isSource⟩
    rw [isRecord]
    rfl
  · exact fun sourceId filled => logged.hashOfMember filled
  · intro call result isTask
    have steady := counted.steady _ isTask rfl
    by_contra refused
    exact steady.1 ⟨call, rfl, refused⟩
  · intro call error isTask
    rcases counted.failed _ isTask rfl with
      ⟨other, same, refused⟩ | ⟨other, same, cutOff⟩
    · cases same
      exact Or.inl (eq_false_of_ne_true refused)
    · cases same
      exact Or.inr cutOff
  · intro queueDepths error isTask
    rcases counted.failed _ isTask rfl with
      ⟨other, same, _⟩ | ⟨other, same, _⟩
    · cases same
    · cases same

end Account

end Operations

/-! ## On the crawler's server -/

section Server

variable {Time Ratio : Type} [LE Ratio] [DecidableLE Ratio]
variable [CommRing Time] [LinearOrder Time]

/--
At every moment of a run of the whole crawler the keys of the metrics account
for the calls made so far, however the calls overlap.  A call of `record_run`
here has a timestamp and a text for its number of items.
-/
theorem metrics_account_for_calls
    {rules : CrawlerRules Time Number} {started now : Time}
    {initial world : RedisWorld Time}
    {running : (client : Client) → client.Tasks Time Number Ratio}
    (run : Run rules started initial running now world)
    (untouched : Untouched initial) :
    ∃ (hash : String → List (String × String)) (members : List String),
      MetricsAccount rules.floats (running .metrics) hash members ∧
        world.entries sourcesKey = setCell members ∧
        ∀ sourceId,
          world.entries (sourceKey sourceId) = hashCell (hash sourceId) := by
  rcases run.ownRun untouched.holds .metrics with ⟨store, alone, holds, _⟩
  have counted : Counted rules.floats (running .metrics) store :=
    counted_of_alone alone
  refine ⟨_, _, counted.account, ?_, ?_⟩
  · rw [holds.entries sourcesKey Client.metrics_owns_sources, cells,
      if_pos rfl]
  · intro sourceId
    rw [holds.entries _ (Client.metrics_owns_source sourceId), cells,
      if_neg (sourceKey_ne_sourcesKey sourceId)]

end Server

/-! ## Two calls which mix -/

/-- The operations of the metrics under way, and their store. -/
abbrev MetricsRun (tasks : MetricsTasks ℤ) (store : MetricsRedis) : Prop :=
  @OwnRun ℤ ℤ ℚ _ _ _ _ wholeRules 0 .metrics
    (emptyStore queuedWorld .metrics) tasks 0 store

theorem MetricsRun.step {before after : MetricsTasks ℤ}
    {store : MetricsRedis} {operation : MetricsOperation ℤ}
    {command : MetricsCommand}
    {next : command.Reply → MetricsProgram (Option MetricsSnapshot)}
    (run :
      MetricsRun (before ++ (operation, perform command next) :: after)
        store) :
    MetricsRun
      (before ++ (operation, next (metricsHandler command store).1) :: after)
      (metricsHandler command store).2 :=
  Alone.step run

/-- A skipped call is recorded. -/
def skipping : MetricsOperation ℤ :=
  .record (.lockSkip "demo")

/--
The first call registers the source, the second one does both of its commands,
and the first one counts.
-/
theorem exists_mixedRun :
    ∃ store, MetricsRun [(skipping, .done none), (skipping, .done none)]
      store := by
  have none : MetricsRun [] _ := Alone.nothing
  have first :
      MetricsRun ([] ++ (skipping, skipping.program wholeFloats) :: []) _ :=
    Alone.start skipping none
  have registered := first.step
  have second :
      MetricsRun ([] ++ (skipping, skipping.program wholeFloats) :: [_]) _ :=
    Alone.start skipping registered
  have counted := second.step.step
  have waiting : MetricsRun ([_] ++ (skipping, _) :: []) _ := counted
  exact ⟨_, waiting.step⟩

/-- Both calls have counted. -/
theorem overlapping_calls_account :
    ∃ (running : (client : Client) → client.Tasks ℤ ℤ ℚ)
        (world : RedisWorld ℤ) (hash : String → List (String × String))
        (members : List String),
      running .metrics = [(skipping, .done none), (skipping, .done none)] ∧
        MetricsAccount wholeFloats (running .metrics) hash members ∧
        world.entries sourcesKey = setCell members ∧
        (∀ sourceId,
          world.entries (sourceKey sourceId) = hashCell (hash sourceId)) ∧
        fieldText "lock_skip_total" (hash "demo") = "2" := by
  rcases exists_mixedRun with ⟨store, alone⟩
  rcases exists_run_of_ownRun untouched_queuedWorld.holds alone with
    ⟨running, world, run, isTasks, _⟩
  rcases metrics_account_for_calls run untouched_queuedWorld with
    ⟨hash, members, account, isSet, isHash⟩
  refine ⟨running, world, hash, members, isTasks, account, isSet, isHash, ?_⟩
  have isCounter : "lock_skip_total" ∉ gaugeFields := by decide
  rcases account.counters "demo" "lock_skip_total" isCounter with
    ⟨value, isText, lower, upper⟩
  rw [isTasks] at lower upper
  have isTwo : value = 2 := le_antisymm upper lower
  rw [isText, isTwo]
  rfl

end MultisiteCrawler.Redis
