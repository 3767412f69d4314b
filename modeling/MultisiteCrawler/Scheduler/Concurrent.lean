import MultisiteCrawler.Foundation.Processes
import MultisiteCrawler.Scheduler.Operations
import MultisiteCrawler.Scheduler.Schedule

/-!
# Overlapping scheduler operations

Processes which share one store interleave their operations command by
command.  An operation reads the document of its source once and writes it
back at most once, so two operations are serial unless both read before either
writes.  Then the document written last stands as if the other operation had
not run, while both dispatch what they decided on when reading.
`SafeOverlap` says which overlaps are serial all the same.
-/

namespace MultisiteCrawler.Scheduler

open Foundation.AwareTime
open Foundation.CivilTime
open Foundation.Interaction
open Foundation.JsonText
open Foundation.Processes
open Foundation.PythonErrors

/-! ## Operations as updates -/

/-- The operation reads a document and may write it back. -/
def Operation.Modifies : Operation → Prop
  | .registerIfMissing _ _ _ => True
  | .pause _ _ => True
  | .tick _ _ => True
  | .manualTrigger _ => False
  | .nextRun _ => False

/-- The document a registration writes after reading a text. -/
def registrationWrite (interval : ℤ) (current : NaiveDateTime) :
    Option String → Option StateDocument
  | some _ => none
  | none =>
      match nextRunAt current interval with
      | .ok _ => some (registeredState interval current)
      | .error _ => none

/-- The document a pause writes after reading a text. -/
def pauseWrite (sourceId : String) (paused : Bool) (read : Option String) :
    Option StateDocument :=
  match parseState sourceId read with
  | .ok state => some (assign "paused" (.bool paused) state)
  | .error _ => none

/-- The document a tick writes after reading a text. -/
def tickWrite (sourceId : String) (current : NaiveDateTime)
    (read : Option String) : Option StateDocument :=
  match tickDecision sourceId current read with
  | .ok decision => decision
  | .error _ => none

/-- What an operation does with the text it reads. -/
def Operation.update : Operation → Update String String
  | .registerIfMissing _ interval current =>
      ⟨fun read => (registrationWrite interval current read).map stateText,
        fun _ => []⟩
  | .pause sourceId paused =>
      ⟨fun read => (pauseWrite sourceId paused read).map stateText,
        fun _ => []⟩
  | .tick sourceId current =>
      ⟨fun read => (tickWrite sourceId current read).map stateText,
        fun read =>
          ((tickWrite sourceId current read).map fun _ => sourceId).toList⟩
  | .manualTrigger _ => ⟨fun _ => none, fun _ => []⟩
  | .nextRun _ => ⟨fun _ => none, fun _ => []⟩

theorem pause_eq (sourceId : String) (paused : Bool) :
    pause sourceId paused =
      .perform (.get (stateKey sourceId)) fun read =>
        match parseState sourceId read with
        | .error error => .fail error
        | .ok state =>
            .perform
              (.set (stateKey sourceId)
                (stateText (assign "paused" (.bool paused) state)) none)
              .done := by
  simp only [pause, load, StoreProgram.bind_get, Program.bind_perform]
  congr 1
  funext read
  cases parseState sourceId read <;> rfl

/-- A registration, a pause or a tick performs its update. -/
theorem performs_program (operation : Operation)
    (modifies : operation.Modifies) :
    Performs (stateKey operation.sourceId) operation.update
      operation.program := by
  cases operation with
  | registerIfMissing sourceId interval current =>
      refine ⟨_, rfl, ?_⟩
      intro read
      cases read with
      | some text => exact ⟨.ok (.flag false), rfl⟩
      | none =>
          dsimp only [Operation.update, registrationWrite, register]
          cases nextRunAt current interval with
          | error error => exact ⟨.error error, rfl⟩
          | ok next => exact ⟨none, _, rfl, .ok (.flag true), rfl⟩
  | pause sourceId paused =>
      refine ⟨_, by rw [Operation.program, pause_eq]; rfl, ?_⟩
      intro read
      dsimp only [Operation.update, pauseWrite]
      cases parseState sourceId read with
      | error error => exact ⟨.error error, rfl⟩
      | ok state => exact ⟨none, _, rfl, .ok .nothing, rfl⟩
  | tick sourceId current =>
      refine ⟨_, by rw [Operation.program, tick_eq]; rfl, ?_⟩
      intro read
      dsimp only [Operation.update, tickWrite]
      cases tickDecision sourceId current read with
      | error error => exact ⟨.error error, rfl⟩
      | ok decision =>
          cases decision with
          | none => exact ⟨.ok (.flag false), rfl⟩
          | some state =>
              refine ⟨none, _, rfl, _, rfl, ?_⟩
              intro answer
              cases answer with
              | error error => exact ⟨.error error, rfl⟩
              | ok _ => exact ⟨.ok (.flag true), rfl⟩
  | manualTrigger sourceId => cases modifies
  | nextRun sourceId => cases modifies

/-! ## Stores shared by any number of processes -/

/-- A store left by any number of processes running operations. -/
def SharedStore (answer : DispatchCallback) (store : SchedulerStore) : Prop :=
  ∃ running : List (SchedulerProgram OperationResult),
    Reached (storeHandler answer)
      (fun program => ∃ operation : Operation, program = operation.program)
      .empty running store

/-- The text is that of a schedule. -/
def IsScheduleText (text : String) : Prop :=
  ∃ schedule : Schedule, text = schedule.text

/-- The schedule an operation saves when it reads a schedule. -/
def Operation.saved : Operation → Schedule → Option Schedule
  | .registerIfMissing _ _ _, _ => none
  | .pause _ paused, schedule => some (schedule.setPaused paused)
  | .tick _ current, schedule =>
      if schedule.due current then schedule.advance current else none
  | .manualTrigger _, _ => none
  | .nextRun _, _ => none

theorem update_write_text
    (operation : Operation) (schedule : Schedule) :
    operation.update.write (some schedule.text) =
      (operation.saved schedule).map Schedule.text := by
  cases operation with
  | registerIfMissing sourceId interval current => rfl
  | pause sourceId paused =>
      simp only [Operation.update, pauseWrite, Schedule.parseState_text,
        Schedule.assign_paused]
      rfl
  | tick sourceId current =>
      simp only [Operation.update, tickWrite, Schedule.tickDecision_text,
        Operation.saved]
      split_ifs
      · cases schedule.advance current <;> rfl
      · rfl
  | manualTrigger sourceId => rfl
  | nextRun sourceId => rfl

/-- What an operation writes on reading nothing is the text of a schedule. -/
theorem update_write_none
    (operation : Operation) (written : String)
    (isWritten : operation.update.write none = some written) :
    IsScheduleText written := by
  cases operation with
  | registerIfMissing sourceId interval current =>
      simp only [Operation.update, registrationWrite, nextRunAt] at isWritten
      split_ifs at isWritten with short
      · cases isWritten
      · cases added : current.addSeconds interval with
        | none =>
            rw [added] at isWritten
            cases isWritten
        | some next =>
            rw [added] at isWritten
            cases isWritten
            exact ⟨.registered interval current (not_lt.mp short), rfl⟩
  | pause sourceId paused => cases isWritten
  | tick sourceId current => cases isWritten
  | manualTrigger sourceId => cases isWritten
  | nextRun sourceId => cases isWritten

theorem keeps_program (operation : Operation) :
    Keeps (fun _ => IsScheduleText) operation.program := by
  have updateKeeps :
      ∀ read : Option String, (∀ text ∈ read, IsScheduleText text) →
        ∀ written ∈ operation.update.write read, IsScheduleText written := by
    intro read readValid written isWritten
    cases read with
    | none => exact update_write_none operation written isWritten
    | some text =>
        rcases readValid text rfl with ⟨schedule, rfl⟩
        rw [update_write_text] at isWritten
        rcases Option.map_eq_some_iff.mp isWritten with ⟨saved, _, rfl⟩
        exact ⟨saved, rfl⟩
  cases operation with
  | registerIfMissing sourceId interval current =>
      exact keeps_of_performs (performs_program _ trivial) updateKeeps
  | pause sourceId paused =>
      exact keeps_of_performs (performs_program _ trivial) updateKeeps
  | tick sourceId current =>
      exact keeps_of_performs (performs_program _ trivial) updateKeeps
  | manualTrigger sourceId =>
      intro answer
      cases answer <;> trivial
  | nextRun sourceId =>
      intro read _
      change
        Keeps _ (Program.bind (Program.bind (attempt _) _) _)
      cases parseState sourceId read with
      | error error => trivial
      | ok state =>
          change Keeps _ (Program.bind (attempt (readNext state)) _)
          cases readNext state <;> trivial

/-- A shared store holds texts of schedules only. -/
theorem SharedStore.isScheduleText
    {answer : DispatchCallback} {store : SchedulerStore}
    (shared : SharedStore answer store) :
    AllValid (fun _ => IsScheduleText) store.values := by
  rcases shared with ⟨running, reached⟩
  refine (reached.allValid ?_ ?_).1
  · rintro program ⟨operation, rfl⟩
    exact keeps_program operation
  · rintro key text ⟨⟩

theorem sharedStore_empty (answer : DispatchCallback) :
    SharedStore answer .empty :=
  ⟨[], .nothing⟩

/-- A process may run an operation without being overlapped. -/
theorem SharedStore.runOperation
    {answer : DispatchCallback} {store : SchedulerStore}
    (shared : SharedStore answer store) (operation : Operation) :
    SharedStore answer (runOperation answer operation store).2 := by
  rcases shared with ⟨running, reached⟩
  have started :
      Reached (storeHandler answer)
        (fun program => ∃ operation : Operation, program = operation.program)
        .empty ([] ++ operation.program :: running) store :=
    reached.start operation.program ⟨operation, rfl⟩
  rcases started.run with ⟨outcome, finished⟩
  exact ⟨_, finished⟩

/-! ## Which overlaps are serial -/

/-- The result is the same up to the order of the dispatches. -/
def SameResult (first second : SchedulerStore) : Prop :=
  first.values = second.values ∧
    (first.events : Multiset String) = second.events

/-- The result is that of running the two operations one after the other. -/
def Serializable (answer : DispatchCallback) (left right : Operation)
    (store final : SchedulerStore) : Prop :=
  SameResult final
      (runOperation answer right (runOperation answer left store).2).2 ∨
    SameResult final
      (runOperation answer left (runOperation answer right store).2).2

/--
An overlap of two operations is serial although the first one saved is lost:
unless a pause and a tick or two ticks overlap, always; a tick undoes only the
pause which asked for what was the case already, and a second tick must be one
interval after the first.
-/
def SafeOverlap (interval : ℤ) : Operation → Operation → Prop
  | .pause _ paused, .tick _ _ => paused = false
  | .tick _ _, .pause _ _ => False
  | .tick _ earlier, .tick _ later => Spaced interval earlier later
  | _, _ => True

/-- What an operation dispatches when it reads a schedule. -/
def Operation.dispatched (operation : Operation) (schedule : Schedule) :
    List String :=
  match operation with
  | .tick sourceId _ =>
      ((operation.saved schedule).map fun _ => sourceId).toList
  | _ => []

theorem update_events_text
    (operation : Operation) (schedule : Schedule) :
    operation.update.events (some schedule.text) =
      operation.dispatched schedule := by
  cases operation with
  | tick sourceId current =>
      simp only [Operation.update, tickWrite, Schedule.tickDecision_text,
        Operation.dispatched, Operation.saved]
      split_ifs
      · cases schedule.advance current <;> rfl
      · rfl
  | registerIfMissing sourceId interval current => rfl
  | pause sourceId paused => rfl
  | manualTrigger sourceId => rfl
  | nextRun sourceId => rfl

theorem update_after_text
    (operation : Operation) (schedule : Schedule) :
    operation.update.after (some schedule.text) =
      some ((operation.saved schedule).getD schedule).text := by
  unfold Update.after
  rw [update_write_text]
  cases operation.saved schedule <;> rfl

/-- A tick which saves was due, and moves the next run forward. -/
theorem exists_of_saved_tick
    {sourceId : String} {current : NaiveDateTime}
    {schedule advanced : Schedule}
    (saved :
      (Operation.tick sourceId current).saved schedule = some advanced) :
    schedule.due current = true ∧
      ∃ next, ∃ isNext : current.addSeconds schedule.interval = some next,
        advanced = schedule.dispatched current next isNext := by
  simp only [Operation.saved] at saved
  split_ifs at saved with due
  exact ⟨due, Schedule.exists_of_advance saved⟩

/-- A tick keeps the pause flag. -/
theorem paused_of_tick
    (sourceId : String) (current : NaiveDateTime) (schedule : Schedule) :
    (((Operation.tick sourceId current).saved schedule).getD
        schedule).paused =
      schedule.paused := by
  cases saved : (Operation.tick sourceId current).saved schedule with
  | none => rfl
  | some advanced =>
      rcases exists_of_saved_tick saved with ⟨_, next, isNext, rfl⟩
      rfl

theorem next_lt_of_saved_tick
    {sourceId : String} {current : NaiveDateTime}
    {schedule advanced : Schedule}
    (saved :
      (Operation.tick sourceId current).saved schedule = some advanced) :
    schedule.next < advanced.next := by
  rcases exists_of_saved_tick saved with ⟨due, next, isNext, rfl⟩
  simp only [Schedule.due, Bool.and_eq_true, decide_eq_true_eq] at due
  have positive : 0 < schedule.interval :=
    lt_of_lt_of_le (by norm_num) schedule.interval_ge
  exact lt_of_le_of_lt due.2
    (NaiveDateTime.lt_of_addSeconds _ _ _ positive isNext)

theorem dispatched_of_saved_tick
    {sourceId : String} {current : NaiveDateTime}
    {schedule advanced : Schedule}
    (saved :
      (Operation.tick sourceId current).saved schedule = some advanced) :
    (Operation.tick sourceId current).dispatched schedule = [sourceId] := by
  simp only [Operation.dispatched, saved]
  rfl

theorem saved_of_dispatched_tick
    {sourceId : String} {current : NaiveDateTime} {schedule : Schedule}
    (dispatched :
      ((Operation.tick sourceId current).dispatched schedule :
          Multiset String) =
        [sourceId]) :
    ∃ advanced,
      (Operation.tick sourceId current).saved schedule = some advanced := by
  cases saved : (Operation.tick sourceId current).saved schedule with
  | some advanced => exact ⟨advanced, rfl⟩
  | none =>
      simp only [Operation.dispatched, saved] at dispatched
      cases Multiset.coe_eq_coe.mp dispatched |>.length_eq

/--
Two operations read the same schedule and both save; what the first one saves
is lost.  Still the result is that of running them one after the other.
-/
def SavesAreSerial (first last : Operation) (schedule lost kept : Schedule) :
    Prop :=
  ((last.saved lost).getD lost = kept ∧
      (last.dispatched lost : Multiset String) = last.dispatched schedule) ∨
    ((first.saved kept).getD kept = kept ∧
      (first.dispatched kept : Multiset String) = first.dispatched schedule)

theorem overlapIsSerial_iff_saves
    {first last : Operation} {schedule lost kept : Schedule}
    (firstSaves : first.saved schedule = some lost)
    (lastSaves : last.saved schedule = some kept) :
    OverlapIsSerial first.update last.update (some schedule.text) ↔
      SavesAreSerial first last schedule lost kept := by
  simp only [OverlapIsSerial, SavesAreSerial, update_after_text,
    update_events_text, firstSaves, lastSaves, Option.getD_some,
    Option.some.injEq,
    Schedule.text_injective.eq_iff]

theorem savesAreSerial_pause_tick
    {pausedId sourceId : String} {paused : Bool} {current : NaiveDateTime}
    {schedule kept : Schedule}
    (lastSaves :
      (Operation.tick sourceId current).saved schedule = some kept) :
    SavesAreSerial (.pause pausedId paused) (.tick sourceId current) schedule
        (schedule.setPaused paused) kept ↔
      paused = false := by
  rcases exists_of_saved_tick lastSaves with ⟨due, next, isNext, rfl⟩
  simp only [Schedule.due, Bool.and_eq_true, Bool.not_eq_true'] at due
  constructor
  · rintro (⟨_, dispatched⟩ | ⟨stays, _⟩)
    · rw [dispatched_of_saved_tick lastSaves] at dispatched
      rcases saved_of_dispatched_tick dispatched with ⟨advanced, saved⟩
      have dueAfter := (exists_of_saved_tick saved).1
      simp only [Schedule.due, Bool.and_eq_true, Bool.not_eq_true']
        at dueAfter
      exact dueAfter.1
    · have flag := congrArg Schedule.paused stays
      exact flag.trans due.1
  · rintro rfl
    have same : schedule.setPaused false = schedule := by
      rw [Schedule.setPaused, ← due.1]
    rw [same]
    left
    rw [lastSaves]
    exact ⟨rfl, rfl⟩

theorem not_savesAreSerial_tick_pause
    {sourceId pausedId : String} {paused : Bool} {current : NaiveDateTime}
    {schedule lost : Schedule}
    (firstSaves :
      (Operation.tick sourceId current).saved schedule = some lost) :
    ¬ SavesAreSerial (.tick sourceId current) (.pause pausedId paused) schedule
        lost (schedule.setPaused paused) := by
  rintro (⟨same, _⟩ | ⟨same, dispatched⟩)
  · have next := next_lt_of_saved_tick firstSaves
    have unchanged := congrArg Schedule.next same
    exact absurd unchanged (ne_of_gt next)
  · rw [dispatched_of_saved_tick firstSaves] at dispatched
    rcases saved_of_dispatched_tick dispatched with ⟨advanced, saved⟩
    rw [saved] at same
    have next := next_lt_of_saved_tick saved
    exact absurd (congrArg Schedule.next same) (ne_of_gt next)

theorem savesAreSerial_tick_tick
    {firstId lastId : String} {earlier later : NaiveDateTime}
    {schedule lost kept : Schedule}
    (firstSaves :
      (Operation.tick firstId earlier).saved schedule = some lost)
    (lastSaves :
      (Operation.tick lastId later).saved schedule = some kept) :
    SavesAreSerial (.tick firstId earlier) (.tick lastId later) schedule
        lost kept ↔
      Spaced schedule.interval earlier later := by
  have lastDispatches := dispatched_of_saved_tick lastSaves
  have firstDispatches := dispatched_of_saved_tick firstSaves
  rcases exists_of_saved_tick firstSaves with ⟨due, next, isNext, rfl⟩
  constructor
  · rintro (⟨_, dispatched⟩ | ⟨same, dispatched⟩)
    · rw [lastDispatches] at dispatched
      rcases saved_of_dispatched_tick dispatched with ⟨advanced, saved⟩
      have isLast :
          (schedule.dispatched earlier next isNext).lastDispatch =
            some earlier := rfl
      have spaced :=
        Schedule.spaced_of_due isLast (exists_of_saved_tick saved).1
      exact spaced
    · rw [firstDispatches] at dispatched
      rcases saved_of_dispatched_tick dispatched with ⟨advanced, saved⟩
      rw [saved] at same
      have next := next_lt_of_saved_tick saved
      exact absurd (congrArg Schedule.next same) (ne_of_gt next)
  · intro spaced
    rcases exists_of_saved_tick lastSaves with
      ⟨lastDue, lastNext, isLastNext, rfl⟩
    have reached : next ≤ later := by
      rw [NaiveDateTime.le_iff]
      rw [NaiveDateTime.addSeconds_eq_some_iff] at isNext
      unfold Spaced at spaced
      omega
    have dueAfter :
        (schedule.dispatched earlier next isNext).due later = true := by
      simp only [Schedule.due, Bool.and_eq_true, decide_eq_true_eq]
        at lastDue ⊢
      exact ⟨lastDue.1, reached⟩
    have saved :
        (Operation.tick lastId later).saved
            (schedule.dispatched earlier next isNext) =
          some (schedule.dispatched later lastNext isLastNext) := by
      rw [Operation.saved, if_pos dueAfter]
      exact Schedule.advance_of_some isLastNext
    left
    rw [saved, dispatched_of_saved_tick saved, lastDispatches]
    exact ⟨rfl, rfl⟩

theorem savesAreSerial_iff_safeOverlap
    {first last : Operation} {schedule lost kept : Schedule}
    (firstSaves : first.saved schedule = some lost)
    (lastSaves : last.saved schedule = some kept) :
    SavesAreSerial first last schedule lost kept ↔
      SafeOverlap schedule.interval first last := by
  cases first with
  | registerIfMissing sourceId interval current => cases firstSaves
  | manualTrigger sourceId => cases firstSaves
  | nextRun sourceId => cases firstSaves
  | pause pausedId paused =>
      cases firstSaves
      cases last with
      | registerIfMissing sourceId interval current => cases lastSaves
      | manualTrigger sourceId => cases lastSaves
      | nextRun sourceId => cases lastSaves
      | tick sourceId current => exact savesAreSerial_pause_tick lastSaves
      | pause sourceId again =>
          cases lastSaves
          exact iff_of_true (Or.inl ⟨rfl, rfl⟩) trivial
  | tick sourceId earlier =>
      cases last with
      | registerIfMissing sourceId interval current => cases lastSaves
      | manualTrigger sourceId => cases lastSaves
      | nextRun sourceId => cases lastSaves
      | tick lastId later => exact savesAreSerial_tick_tick firstSaves lastSaves
      | pause pausedId paused =>
          cases lastSaves
          exact iff_of_false (not_savesAreSerial_tick_pause firstSaves) id

/-- A registration finds the document another one has written meanwhile. -/
theorem overlapIsSerial_none
    {first last : Operation} {lost kept : String}
    (firstWrites : first.update.write none = some lost)
    (lastWrites : last.update.write none = some kept) :
    OverlapIsSerial first.update last.update none := by
  right
  have lastAfter : last.update.after none = some kept := by
    unfold Update.after
    rw [lastWrites]
  rw [lastAfter]
  cases first with
  | registerIfMissing sourceId interval current => exact ⟨rfl, rfl⟩
  | pause sourceId paused => cases firstWrites
  | tick sourceId current => cases firstWrites
  | manualTrigger sourceId => cases firstWrites
  | nextRun sourceId => cases firstWrites

theorem overlapIsSerial_iff_safeOverlap
    {first last : Operation} {read : Option String} {lost kept : String}
    (readValid : ∀ text ∈ read, IsScheduleText text)
    (firstWrites : first.update.write read = some lost)
    (lastWrites : last.update.write read = some kept) :
    OverlapIsSerial first.update last.update read ↔
      ∀ schedule : Schedule, read = some schedule.text →
        SafeOverlap schedule.interval first last := by
  cases read with
  | none =>
      refine iff_of_true (overlapIsSerial_none firstWrites lastWrites) ?_
      rintro schedule ⟨⟩
  | some text =>
      rcases readValid text rfl with ⟨schedule, rfl⟩
      rw [update_write_text] at firstWrites lastWrites
      rcases Option.map_eq_some_iff.mp firstWrites with
        ⟨firstSaved, firstSaves, _⟩
      rcases Option.map_eq_some_iff.mp lastWrites with
        ⟨lastSaved, lastSaves, _⟩
      rw [overlapIsSerial_iff_saves firstSaves lastSaves,
        savesAreSerial_iff_safeOverlap firstSaves lastSaves]
      constructor
      · intro safe other same
        rw [← Schedule.text_injective (Option.some.inj same)]
        exact safe
      · intro safe
        exact safe schedule rfl

/-! ## Two interleaved operations -/

/-- What one of the operations would have saved alone stands; both dispatch. -/
def LastSaveStands (answer : DispatchCallback) (left right last : Operation)
    (store final : SchedulerStore) : Prop :=
  final.values = (runOperation answer last store).2.values ∧
    (final.events : Multiset String) =
      store.events +
        (emitted store (runOperation answer left store).2 +
          emitted store (runOperation answer right store).2 :
          Multiset String)

section Interleaved

variable {answer : DispatchCallback} {left right : Operation}
variable {store : SchedulerStore}

theorem runOperation_of_modifies
    (answer : DispatchCallback) {operation : Operation}
    (modifies : operation.Modifies) (store : SchedulerStore) :
    (runOperation answer operation store).2 =
      ⟨put (stateKey operation.sourceId)
          (operation.update.write
            (store.values (stateKey operation.sourceId)))
          store.values,
        store.events ++
          operation.update.events
            (store.values (stateKey operation.sourceId))⟩ :=
  run_performs (performs_program operation modifies) answer store

theorem runOperation_values_self
    (answer : DispatchCallback) (operation : Operation)
    (modifies : operation.Modifies) (store : SchedulerStore) :
    (runOperation answer operation store).2.values
        (stateKey operation.sourceId) =
      operation.update.after
        (store.values (stateKey operation.sourceId)) := by
  rw [runOperation_of_modifies answer modifies]
  exact put_self _ _ _

theorem sameResult_serial_iff
    {first second : Operation}
    (firstModifies : first.Modifies) (secondModifies : second.Modifies)
    (sameSource : first.sourceId = second.sourceId)
    {final : SchedulerStore} {events : Multiset String}
    (total : (final.events : Multiset String) = store.events + events) :
    SameResult final
        (runOperation answer second (runOperation answer first store).2).2 ↔
      final.values =
          serialValues (stateKey first.sourceId) first.update second.update
            store.values ∧
        events =
          serialEvents first.update second.update
            (store.values (stateKey first.sourceId)) := by
  have secondPerforms := performs_program second secondModifies
  rw [← sameSource] at secondPerforms
  have result :=
    run_performs_performs (performs_program first firstModifies)
      secondPerforms answer store
  unfold SameResult runOperation
  rw [result, total, ← Multiset.coe_add, ← Multiset.coe_add, add_assoc,
    add_right_inj]
  exact Iff.rfl

theorem serializable_iff_serialResult
    (leftModifies : left.Modifies) (rightModifies : right.Modifies)
    (sameSource : left.sourceId = right.sourceId)
    {final : SchedulerStore} {events : Multiset String}
    (total : (final.events : Multiset String) = store.events + events) :
    Serializable answer left right store final ↔
      SerialResult (stateKey left.sourceId) left.update right.update
        store.values final.values events := by
  unfold Serializable SerialResult
  rw [sameResult_serial_iff leftModifies rightModifies sameSource total,
    sameResult_serial_iff rightModifies leftModifies sameSource.symm total,
    sameSource]

theorem emitted_of_modifies
    (answer : DispatchCallback) {operation : Operation}
    (modifies : operation.Modifies) (store : SchedulerStore) :
    emitted store (runOperation answer operation store).2 =
      operation.update.events
        (store.values (stateKey operation.sourceId)) := by
  rw [runOperation_of_modifies answer modifies]
  exact List.drop_left

theorem pick_modifies
    (leftModifies : left.Modifies) (rightModifies : right.Modifies)
    (side : Side) :
    (side.pick left right).Modifies := by
  cases side with
  | left => exact leftModifies
  | right => exact rightModifies

theorem pick_sourceId
    (sameSource : left.sourceId = right.sourceId) (side : Side) :
    (side.pick left right).sourceId = left.sourceId := by
  cases side with
  | left => rfl
  | right => exact sameSource.symm

theorem pick_update (side : Side) :
    side.pick left.update right.update = (side.pick left right).update := by
  cases side <;> rfl

/-- In an overlap the last save stands. -/
theorem lastSaveStands_of_merged
    (leftModifies : left.Modifies) (rightModifies : right.Modifies)
    (sameSource : left.sourceId = right.sourceId)
    {final : SchedulerStore} {events : Multiset String}
    {order : List (Side × Access)}
    (total : (final.events : Multiset String) = store.events + events)
    (merged :
      Merged (stateKey left.sourceId) left.update right.update store.values
        order final.values events)
    {last : Side} (overlap : Overlap last order) :
    LastSaveStands answer left right (last.pick left right) store final := by
  have lastModifies := pick_modifies leftModifies rightModifies last
  unfold LastSaveStands
  rw [runOperation_of_modifies answer lastModifies,
    emitted_of_modifies answer leftModifies,
    emitted_of_modifies answer rightModifies, total,
    pick_sourceId sameSource, ← pick_update, ← sameSource]
  rcases merged.of_overlap overlap with ⟨values, rfl⟩
  exact ⟨values, rfl⟩

/--
Two operations on one source, interleaved in any order over a store shared by
any number of processes.  The result is serial exactly if they do not overlap
or their overlap is safe; in an overlap the last save stands.
-/
theorem serializable_iff_safeOverlap
    {trace : List (Side × StoreCommand String String String)}
    {final : SchedulerStore}
    (shared : SharedStore answer store)
    (leftModifies : left.Modifies) (rightModifies : right.Modifies)
    (sameSource : left.sourceId = right.sourceId)
    (interleaved :
      Interleaves (storeHandler answer) left.program right.program store
        trace final) :
    (Serializable answer left right store final ↔
      ∀ last, Overlap last (accesses trace) →
        ∀ schedule : Schedule,
          store.values (stateKey left.sourceId) = some schedule.text →
            SafeOverlap schedule.interval (last.other.pick left right)
              (last.pick left right)) ∧
      ∀ last, Overlap last (accesses trace) →
        LastSaveStands answer left right (last.pick left right) store
          final := by
  have rightPerforms := performs_program right rightModifies
  rw [← sameSource] at rightPerforms
  rcases interleaving_cases interleaved
      (performs_program left leftModifies) rightPerforms with
    ⟨events, total, merged⟩
  constructor
  · rw [serializable_iff_serialResult leftModifies rightModifies sameSource
      total, merged.serialResult_iff]
    refine forall_congr' fun last => forall_congr' fun overlap => ?_
    rcases merged.writes_of_overlap overlap with
      ⟨⟨kept, lastWrites⟩, lost, firstWrites⟩
    rw [pick_update] at lastWrites firstWrites
    rw [pick_update, pick_update]
    exact overlapIsSerial_iff_safeOverlap (shared.isScheduleText _)
      firstWrites lastWrites
  · intro last overlap
    exact lastSaveStands_of_merged leftModifies rightModifies sameSource
      total merged overlap

end Interleaved

/-! ## A pause undone by a tick -/

/-- The order in which a tick which loads first also saves last. -/
def overtakingTrace (sourceId : String) (paused advanced : Schedule) :
    List (Side × StoreCommand String String String) :=
  [(.right, .get (stateKey sourceId)), (.left, .get (stateKey sourceId)),
    (.left, .set (stateKey sourceId) paused.text none),
    (.right, .set (stateKey sourceId) advanced.text none),
    (.right, .emit sourceId)]

theorem not_overlap_left_overtakingTrace
    (sourceId : String) (paused advanced : Schedule) :
    ¬ Overlap .left
      (accesses (overtakingTrace sourceId paused advanced)) := by
  rintro (equal | equal) <;> cases equal

/-- A tick which is due can overtake a pause. -/
theorem interleaves_overtaking
    (answer : DispatchCallback) {sourceId : String} (paused : Bool)
    {current : NaiveDateTime} {schedule advanced : Schedule}
    {store : SchedulerStore}
    (stored : store.values (stateKey sourceId) = some schedule.text)
    (saved :
      (Operation.tick sourceId current).saved schedule = some advanced) :
    Interleaves (storeHandler answer)
      (Operation.pause sourceId paused).program
      (Operation.tick sourceId current).program store
      (overtakingTrace sourceId (schedule.setPaused paused) advanced)
      (SchedulerStore.emit
        (SchedulerStore.write
          (SchedulerStore.write store sourceId
            (schedule.setPaused paused).state)
          sourceId advanced.state)
        sourceId) := by
  have decision :
      tickDecision sourceId current (some schedule.text) =
        .ok (some advanced.state) := by
    simp only [Operation.saved] at saved
    split_ifs at saved with due
    rw [Schedule.tickDecision_text, if_pos due, saved]
  simp only [Operation.program, pause_eq, tick_eq, Program.bind_perform]
  apply Interleaves.stepRight
  rw [storeHandler_get]
  apply Interleaves.stepLeft
  rw [storeHandler_get]
  simp only [stored, decision, Schedule.parseState_text,
    Program.bind_perform]
  apply Interleaves.stepLeft
  apply Interleaves.stepRight
  apply Interleaves.stepRight
  rw [storeHandler_set, storeHandler_set, storeHandler_emit]
  cases answer store.events sourceId with
  | error error =>
      exact .finished (.ok OperationResult.nothing) (.error error) _
  | ok _ =>
      exact .finished (.ok OperationResult.nothing)
        (.ok (OperationResult.flag true)) _

/-- The first moment of the calendar. -/
def dawn : NaiveDateTime :=
  ⟨0, zero_lt_calendar⟩

/-- The store after a source was registered to run every minute. -/
def demoStore : SchedulerStore :=
  (runOperation (fun _ _ => .ok ()) (.registerIfMissing "demo" 60 dawn)
    .empty).2

theorem sharedStore_demoStore :
    SharedStore (fun _ _ => .ok ()) demoStore :=
  (sharedStore_empty _).runOperation _

/-- The schedule of that source. -/
def demoSchedule : Schedule :=
  .registered 60 dawn minute_accepted

theorem demoStore_values :
    demoStore.values (stateKey "demo") = some demoSchedule.text := by
  rfl

theorem exists_saved_demo :
    ∃ advanced,
      (Operation.tick "demo" dawn).saved demoSchedule = some advanced :=
  ⟨_, rfl⟩

/-- Run one after the other, a pause and a tick leave a paused schedule. -/
theorem paused_of_serializable
    {sourceId : String} {current : NaiveDateTime} {schedule left : Schedule}
    {store final : SchedulerStore}
    (serializable :
      Serializable answer (.pause sourceId true) (.tick sourceId current)
        store final)
    (stored : store.values (stateKey sourceId) = some schedule.text)
    (result : final.values (stateKey sourceId) = some left.text) :
    left.paused = true := by
  have pauseValue := runOperation_values_self answer
    (Operation.pause sourceId true) trivial
  have tickValue := runOperation_values_self answer
    (Operation.tick sourceId current) trivial
  dsimp only [Operation.sourceId] at pauseValue tickValue
  rcases serializable with ⟨values, _⟩ | ⟨values, _⟩
  · rw [values, tickValue, pauseValue, stored, update_after_text,
      update_after_text] at result
    rw [← Schedule.text_injective (Option.some.inj result),
      paused_of_tick]
    rfl
  · rw [values, pauseValue, tickValue, stored, update_after_text,
      update_after_text] at result
    rw [← Schedule.text_injective (Option.some.inj result)]
    rfl

/-- A completed pause is undone by a tick which overlaps it. -/
theorem pause_undone_by_tick :
    ∃ trace final,
      SharedStore (fun _ _ => .ok ()) demoStore ∧
        Interleaves (storeHandler fun _ _ => .ok ())
          (Operation.pause "demo" true).program
          (Operation.tick "demo" dawn).program demoStore trace final ∧
        ¬ Serializable (fun _ _ => .ok ()) (.pause "demo" true)
          (.tick "demo" dawn) demoStore final := by
  rcases exists_saved_demo with ⟨advanced, saved⟩
  refine ⟨_, _, sharedStore_demoStore,
    interleaves_overtaking _ true demoStore_values saved, ?_⟩
  intro serializable
  have paused : advanced.paused = true := by
    refine paused_of_serializable serializable demoStore_values ?_
    rw [emit_values]
    exact write_values_self _ _ _
  have unpaused : advanced.paused = demoSchedule.paused := by
    have kept := paused_of_tick "demo" dawn demoSchedule
    rw [saved] at kept
    exact kept
  rw [paused] at unpaused
  cases unpaused

/-- Overtaking is harmless if the pause asks for nothing. -/
theorem serializable_unpause_overtaken :
    ∃ trace final,
      Interleaves (storeHandler fun _ _ => .ok ())
          (Operation.pause "demo" false).program
          (Operation.tick "demo" dawn).program demoStore trace final ∧
        Serializable (fun _ _ => .ok ()) (.pause "demo" false)
          (.tick "demo" dawn) demoStore final := by
  rcases exists_saved_demo with ⟨advanced, saved⟩
  have interleaved :=
    interleaves_overtaking (fun _ _ => .ok ()) false demoStore_values saved
  have pauseModifies : (Operation.pause "demo" false).Modifies := trivial
  have tickModifies : (Operation.tick "demo" dawn).Modifies := trivial
  refine ⟨_, _, interleaved, ?_⟩
  apply (serializable_iff_safeOverlap sharedStore_demoStore pauseModifies
    tickModifies rfl interleaved).1.mpr
  intro last overlap schedule stored
  cases last with
  | left => exact absurd overlap (not_overlap_left_overtakingTrace _ _ _)
  | right => rfl

end MultisiteCrawler.Scheduler
