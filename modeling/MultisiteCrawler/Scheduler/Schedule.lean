import MultisiteCrawler.Scheduler.Service

/-!
# Schedules

What a state document of the scheduler stands for: an interval of at least a
minute, a pause flag, the next run and the last dispatch.  The next run is one
interval after the last dispatch.  A schedule is stored as the text of its
document, and the operations of the service act on these texts as the
operations below act on schedules.
-/

namespace MultisiteCrawler.Scheduler

open Foundation.AwareTime
open Foundation.CivilTime
open Foundation.Interaction
open Foundation.JsonText
open Foundation.PythonErrors

/-- The later reading is at least the interval after the earlier one. -/
def Spaced (interval : ℤ) (earlier later : NaiveDateTime) : Prop :=
  (earlier.microseconds : ℤ) + interval * 1000000 ≤ later.microseconds

/-- A source may be polled every minute. -/
theorem minute_accepted : (60 : ℤ) ≤ 60 :=
  le_rfl

/-- The schedule of one source. -/
structure Schedule where
  interval : ℤ
  paused : Bool
  next : NaiveDateTime
  lastDispatch : Option NaiveDateTime
  interval_ge : 60 ≤ interval
  next_eq : ∀ last ∈ lastDispatch, last.addSeconds interval = some next

namespace Schedule

/-- The schedule a registration creates. -/
def registered (interval : ℤ) (current : NaiveDateTime)
    (interval_ge : 60 ≤ interval) : Schedule :=
  ⟨interval, false, current, none, interval_ge, by simp⟩

/-- The schedule with its pause flag set. -/
def setPaused (schedule : Schedule) (paused : Bool) : Schedule :=
  { schedule with paused := paused }

/-- A tick at the time dispatches. -/
def due (schedule : Schedule) (current : NaiveDateTime) : Bool :=
  !schedule.paused && decide (schedule.next ≤ current)

/-- The schedule after a dispatch whose next run is known. -/
def dispatched (schedule : Schedule) (current next : NaiveDateTime)
    (isNext : current.addSeconds schedule.interval = some next) :
    Schedule where
  interval := schedule.interval
  paused := schedule.paused
  next := next
  lastDispatch := some current
  interval_ge := schedule.interval_ge
  next_eq := by
    rintro last member
    cases member
    exact isNext

/--
The schedule after a dispatch; there is none if the next run is beyond the
calendar.
-/
def advance (schedule : Schedule) (current : NaiveDateTime) :
    Option Schedule :=
  match isNext : current.addSeconds schedule.interval with
  | some next => some (schedule.dispatched current next isNext)
  | none => none

/-- The document of a schedule. -/
def state (schedule : Schedule) : StateDocument :=
  ("interval", .int schedule.interval) ::
    ("paused", .bool schedule.paused) ::
      ("next", .str (naiveText schedule.next)) ::
        match schedule.lastDispatch with
        | none => []
        | some last => [("last_dispatch", .str (naiveText last))]

/-- The text of a schedule. -/
def text (schedule : Schedule) : String :=
  stateText schedule.state

theorem loads_text (schedule : Schedule) :
    loads schedule.text = some (.obj schedule.state) := by
  refine loads_dumps _ _ ?_
  unfold state
  cases schedule.lastDispatch with
  | none => exact ⟨by simp, trivial, trivial, trivial, trivial⟩
  | some last => exact ⟨by simp, trivial, trivial, trivial, trivial, trivial⟩

@[simp]
theorem parseState_text (schedule : Schedule) (sourceId : String) :
    parseState sourceId (some schedule.text) = .ok schedule.state := by
  simp only [parseState, loads_text]

@[simp]
theorem readNext_state (schedule : Schedule) :
    readNext schedule.state = .ok (naive schedule.next) := by
  simp [readNext, state, lookup, fromisoformat_naiveText]

@[simp]
theorem readPaused_state (schedule : Schedule) :
    readPaused schedule.state = .ok schedule.paused := by
  simp [readPaused, state, lookup, Json.truthy]

@[simp]
theorem readInterval_state (schedule : Schedule) :
    readInterval schedule.state = .ok schedule.interval := by
  simp [readInterval, state, lookup]

theorem lookup_lastDispatch (schedule : Schedule) :
    lookup "last_dispatch" schedule.state =
      schedule.lastDispatch.map fun last => .str (naiveText last) := by
  unfold state
  cases schedule.lastDispatch <;> simp [lookup]

/-- Different schedules have different texts. -/
theorem text_injective : Function.Injective text := by
  intro left right equal
  have states : left.state = right.state := by
    have parsed := parseState_text left ""
    rw [equal, parseState_text] at parsed
    exact (Except.ok.inj parsed).symm
  have interval : left.interval = right.interval := by
    have read := readInterval_state left
    rw [states, readInterval_state] at read
    exact (Except.ok.inj read).symm
  have paused : left.paused = right.paused := by
    have read := readPaused_state left
    rw [states, readPaused_state] at read
    exact (Except.ok.inj read).symm
  have next : left.next = right.next := by
    have read := readNext_state left
    rw [states, readNext_state] at read
    exact (congrArg DateTime.wall (Except.ok.inj read)).symm
  have lastDispatch : left.lastDispatch = right.lastDispatch := by
    have member := lookup_lastDispatch left
    rw [states, lookup_lastDispatch] at member
    refine Option.map_injective ?_ member.symm
    intro first second same
    exact naiveText_injective (Json.str.inj same)
  cases left
  cases right
  rw [Schedule.mk.injEq]
  exact ⟨interval, paused, next, lastDispatch⟩

@[simp]
theorem assign_paused (schedule : Schedule) (paused : Bool) :
    assign "paused" (.bool paused) schedule.state =
      (schedule.setPaused paused).state := by
  simp [state, setPaused, assign]

theorem shouldDispatch_state
    (schedule : Schedule) (current : NaiveDateTime) :
    shouldDispatch ⟨naive schedule.next, schedule.paused⟩ current =
      .ok (schedule.due current) := by
  unfold shouldDispatch due
  cases schedule.paused <;> rfl

theorem assign_dispatched
    (schedule : Schedule) (current next : NaiveDateTime)
    (isNext : current.addSeconds schedule.interval = some next) :
    assign "last_dispatch" (.str (naiveText current))
        (assign "next" (.str (naiveText next)) schedule.state) =
      (schedule.dispatched current next isNext).state := by
  unfold state dispatched
  cases schedule.lastDispatch <;> simp [assign]

theorem advance_of_some
    {schedule : Schedule} {current next : NaiveDateTime}
    (isNext : current.addSeconds schedule.interval = some next) :
    schedule.advance current =
      some (schedule.dispatched current next isNext) := by
  unfold advance
  split
  · rename_i other isOther
    obtain rfl : next = other := by
      rw [isNext] at isOther
      exact Option.some.inj isOther
    rfl
  · rename_i overflow
    rw [isNext] at overflow
    cases overflow

theorem advance_of_none
    {schedule : Schedule} {current : NaiveDateTime}
    (overflow : current.addSeconds schedule.interval = none) :
    schedule.advance current = none := by
  unfold advance
  split
  · rename_i other isOther
    rw [overflow] at isOther
    cases isOther
  · rfl

theorem advanceState_state
    (schedule : Schedule) (current : NaiveDateTime) :
    advanceState schedule.state current =
      match schedule.advance current with
      | some advanced => .ok advanced.state
      | none => .error (.library .overflowError) := by
  have notShort : ¬ schedule.interval < 60 :=
    not_lt.mpr schedule.interval_ge
  unfold advanceState
  simp only [readInterval_state, ok_bind, nextRunAt, if_neg notShort]
  cases isNext : current.addSeconds schedule.interval with
  | none =>
      rw [advance_of_none isNext]
      rfl
  | some next =>
      rw [advance_of_some isNext]
      simp only [ok_bind, assign_dispatched _ _ _ isNext]

/-- What a tick decides about the text of a schedule. -/
theorem tickDecision_text
    (schedule : Schedule) (sourceId : String) (current : NaiveDateTime) :
    tickDecision sourceId current (some schedule.text) =
      if schedule.due current then
        match schedule.advance current with
        | some advanced => .ok (some advanced.state)
        | none => .error (.library .overflowError)
      else .ok none := by
  simp only [tickDecision, parseState_text, readNext_state,
    readPaused_state, shouldDispatch_state, ok_bind, advanceState_state]
  split_ifs
  · cases schedule.advance current <;> rfl
  · rfl

/-- What is known of a schedule after a dispatch. -/
theorem exists_of_advance
    {schedule advanced : Schedule} {current : NaiveDateTime}
    (isAdvanced : schedule.advance current = some advanced) :
    ∃ next, ∃ isNext : current.addSeconds schedule.interval = some next,
      advanced = schedule.dispatched current next isNext := by
  rcases Option.eq_none_or_eq_some (current.addSeconds schedule.interval)
    with overflow | ⟨next, isNext⟩
  · rw [advance_of_none overflow] at isAdvanced
    cases isAdvanced
  · rw [advance_of_some isNext] at isAdvanced
    exact ⟨next, isNext, (Option.some.inj isAdvanced).symm⟩

/-- A schedule which is due is due one interval after its last dispatch. -/
theorem spaced_of_due
    {schedule : Schedule} {last current : NaiveDateTime}
    (isLast : schedule.lastDispatch = some last)
    (due : schedule.due current = true) :
    Spaced schedule.interval last current := by
  have next := schedule.next_eq last isLast
  rw [NaiveDateTime.addSeconds_eq_some_iff] at next
  simp only [Schedule.due, Bool.and_eq_true, decide_eq_true_eq] at due
  have reached : schedule.next.microseconds ≤ current.microseconds :=
    (NaiveDateTime.le_iff _ _).mp due.2
  unfold Spaced
  omega

end Schedule

end MultisiteCrawler.Scheduler
