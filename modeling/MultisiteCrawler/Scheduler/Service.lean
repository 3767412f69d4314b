import MultisiteCrawler.Foundation.AwareTime
import MultisiteCrawler.Foundation.Interaction
import MultisiteCrawler.Foundation.JsonRoundTrip
import MultisiteCrawler.Foundation.PythonErrors

/-!
# Scheduler service

Per-source dispatch state in a text store.  Every operation reads the JSON
document of its source, decides, and writes the document back; a dispatch is
an event whose answer may be any exception.  Clock readings are naive, as
`beijing_now` returns them.
-/

namespace MultisiteCrawler.Scheduler

open Foundation.AwareTime
open Foundation.CivilTime
open Foundation.Interaction
open Foundation.JsonText
open Foundation.PythonErrors

/-- Persisted per-source scheduler state. -/
structure SchedulerState where
  nextRunAt : DateTime
  paused : Bool
deriving DecidableEq

/-- `next_run_at`. -/
def nextRunAt (current : NaiveDateTime) (intervalSeconds : ℤ) :
    Except PyError NaiveDateTime :=
  if intervalSeconds < 60 then
    .error (.value "interval_seconds must be at least 60")
  else
    match current.addSeconds intervalSeconds with
    | some next => .ok next
    | none => .error (.library .overflowError)

/--
`should_dispatch`.  A naive reading cannot be compared with a datetime which
has a zone.
-/
def shouldDispatch (state : SchedulerState) (current : NaiveDateTime) :
    Except PyError Bool :=
  if state.paused then .ok false
  else
    match state.nextRunAt.tzinfo with
    | none => .ok (decide (state.nextRunAt.wall ≤ current))
    | some _ => .error (.library .typeError)

/-- The key of the document of a source. -/
def stateKey (sourceId : String) : String :=
  "scheduler:" ++ sourceId

theorem stateKey_injective : Function.Injective stateKey := by
  intro left right equal
  exact (String.append_right_inj _).mp equal

/-! ## State documents -/

/-- The members of a state document. -/
abbrev StateDocument := List (String × Json)

/-- The document of a stored text, if there is one. -/
def parseState (sourceId : String) (value : Option String) :
    Except PyError StateDocument :=
  match value with
  | none => .error (.key ("Unknown scheduled source: " ++ sourceId))
  | some text =>
      match loads text with
      | some (.obj state) => .ok state
      | some _ => .error (.library .typeError)
      | none => .error (.library .valueError)

/--
`datetime.fromisoformat(str(state["next"]))`.  Nothing but texts are stored
there; other values are not converted.
-/
def readNext (state : StateDocument) : Except PyError DateTime :=
  match lookup "next" state with
  | none => .error (.library .keyError)
  | some (.str text) =>
      match fromisoformat text with
      | some next => .ok next
      | none => .error (.library .valueError)
  | some _ => .error (.library .valueError)

/-- `bool(state["paused"])`. -/
def readPaused (state : StateDocument) : Except PyError Bool :=
  match lookup "paused" state with
  | none => .error (.library .keyError)
  | some value => .ok value.truthy

/-- The interval of a document, which must be an integer. -/
def readInterval (state : StateDocument) : Except PyError ℤ :=
  match lookup "interval" state with
  | none => .error (.library .keyError)
  | some (.int interval) => .ok interval
  | some _ => .error (.value "Scheduler interval must be an integer")

/-- The document after a dispatch. -/
def advanceState (state : StateDocument) (current : NaiveDateTime) :
    Except PyError StateDocument := do
  let interval ← readInterval state
  let next ← nextRunAt current interval
  .ok
    (assign "last_dispatch" (.str (naiveText current))
      (assign "next" (.str (naiveText next)) state))

/-- The text of a document. -/
def stateText (state : StateDocument) : String :=
  dumps {} (.obj state)

/-- The document a registration writes. -/
def registeredState (intervalSeconds : ℤ) (current : NaiveDateTime) :
    StateDocument :=
  [("interval", .int intervalSeconds), ("paused", .bool false),
    ("next", .str (naiveText current))]

/-! ## Operations -/

/-- Programs over the scheduler store, which dispatch sources. -/
abbrev SchedulerProgram :=
  StoreProgram String String String (Except PyError Unit) PyError

/-- End with the error of an outcome, or continue with its result. -/
def attempt {Result : Type} (outcome : Except PyError Result) :
    SchedulerProgram Result :=
  Program.ofOutcome outcome

@[simp]
theorem attempt_ok {Result : Type} (result : Result) :
    attempt (.ok result) = Program.done result := rfl

@[simp]
theorem attempt_error {Result : Type} (error : PyError) :
    (attempt (.error error) : SchedulerProgram Result) =
      Program.fail error := rfl

/-- `_load`. -/
def load (sourceId : String) : SchedulerProgram StateDocument := do
  let value ← StoreProgram.get (stateKey sourceId)
  attempt (parseState sourceId value)

/-- `_save`. -/
def save (sourceId : String) (state : StateDocument) :
    SchedulerProgram Unit :=
  StoreProgram.set (stateKey sourceId) (stateText state) none

/-- Call the dispatch callback. -/
def dispatch (sourceId : String) : SchedulerProgram Unit := do
  let answer ← StoreProgram.emit sourceId
  attempt answer

/-- `register`. -/
def register (sourceId : String) (intervalSeconds : ℤ)
    (current : NaiveDateTime) : SchedulerProgram Unit := do
  let _ ← attempt (nextRunAt current intervalSeconds)
  save sourceId (registeredState intervalSeconds current)

/-- `register_if_missing`. -/
def registerIfMissing (sourceId : String) (intervalSeconds : ℤ)
    (current : NaiveDateTime) : SchedulerProgram Bool := do
  match ← StoreProgram.get (stateKey sourceId) with
  | some _ => pure false
  | none => do
      register sourceId intervalSeconds current
      pure true

/-- `pause`. -/
def pause (sourceId : String) (paused : Bool) : SchedulerProgram Unit := do
  let state ← load sourceId
  save sourceId (assign "paused" (.bool paused) state)

/-- `manual_trigger`. -/
def manualTrigger (sourceId : String) : SchedulerProgram Unit :=
  dispatch sourceId

/-- `next_run`. -/
def nextRun (sourceId : String) : SchedulerProgram DateTime := do
  let state ← load sourceId
  attempt (readNext state)

/-- `tick`. -/
def tick (sourceId : String) (current : NaiveDateTime) :
    SchedulerProgram Bool := do
  let state ← load sourceId
  let next ← attempt (readNext state)
  let paused ← attempt (readPaused state)
  let due ← attempt (shouldDispatch ⟨next, paused⟩ current)
  if due then do
    let state ← attempt (advanceState state current)
    save sourceId state
    dispatch sourceId
    pure true
  else pure false

/-! ## Operations as updates -/

/-- What a tick does with the text it reads: the document it writes, if any. -/
def tickDecision (sourceId : String) (current : NaiveDateTime)
    (value : Option String) : Except PyError (Option StateDocument) := do
  let state ← parseState sourceId value
  let next ← readNext state
  let paused ← readPaused state
  let due ← shouldDispatch ⟨next, paused⟩ current
  if due then do
    let state ← advanceState state current
    .ok (some state)
  else .ok none

/-- Between its read and its write a tick only computes. -/
theorem tick_eq (sourceId : String) (current : NaiveDateTime) :
    tick sourceId current =
      .perform (.get (stateKey sourceId)) fun value =>
        match tickDecision sourceId current value with
        | .error error => .fail error
        | .ok none => .done false
        | .ok (some state) =>
            .perform (.set (stateKey sourceId) (stateText state) none)
              fun _ => .perform (.emit sourceId) fun answer =>
                match answer with
                | .error error => .fail error
                | .ok _ => .done true := by
  unfold tick load tickDecision
  simp only [StoreProgram.bind_get, Program.bind_perform]
  congr 1
  funext value
  cases parseState sourceId value with
  | error error => rfl
  | ok state =>
      simp only [attempt_ok, Program.bind_done, ok_bind]
      cases readNext state with
      | error error => rfl
      | ok next =>
          simp only [attempt_ok, Program.bind_done, ok_bind]
          cases readPaused state with
          | error error => rfl
          | ok paused =>
              simp only [attempt_ok, Program.bind_done, ok_bind]
              cases shouldDispatch ⟨next, paused⟩ current with
              | error error => rfl
              | ok due =>
                  cases due with
                  | false => rfl
                  | true =>
                      simp only [attempt_ok, Program.bind_done, ok_bind,
                        if_true]
                      cases advanceState state current with
                      | error error => rfl
                      | ok state =>
                          simp only [attempt_ok, Program.bind_done, ok_bind,
                            save, dispatch, StoreProgram.bind_set,
                            StoreProgram.bind_emit, Program.bind_perform,
                            Program.pure_eq]
                          congr 1
                          funext _
                          congr 1
                          funext answer
                          cases answer <;> rfl

end MultisiteCrawler.Scheduler
