import MultisiteCrawler.Foundation.Interaction

/-!
# Any number of programs on one store

Programs are started at any time, take turns command by command, and may be
left unfinished.  A property of the stored values which every program keeps,
whatever valid values it reads, holds of every store reached.
-/

namespace Foundation.Processes

open Foundation.Interaction
open Foundation.Interaction.Program

section Reached

variable {Command : Type} {Reply : Command → Type}
variable {Error Result State : Type}

/--
The programs running at some moment and the state they share, when only
offered programs are started.
-/
inductive Reached (handler : Handler Command Reply State)
    (offered : Program Command Reply Error Result → Prop)
    (initial : State) :
    List (Program Command Reply Error Result) → State → Prop where
  | nothing : Reached handler offered initial [] initial
  | start
      {running : List (Program Command Reply Error Result)}
      {state : State}
      (program : Program Command Reply Error Result)
      (isOffered : offered program)
      (reached : Reached handler offered initial running state) :
      Reached handler offered initial (program :: running) state
  | step
      {before after : List (Program Command Reply Error Result)}
      {command : Command}
      {next : Reply command → Program Command Reply Error Result}
      {state : State}
      (reached :
        Reached handler offered initial
          (before ++ perform command next :: after) state) :
      Reached handler offered initial
        (before ++ next (handler command state).1 :: after)
        (handler command state).2

variable {handler : Handler Command Reply State}
variable {offered : Program Command Reply Error Result → Prop}
variable {initial state : State}

/-- A running program may run to its end. -/
theorem Reached.run
    {before after : List (Program Command Reply Error Result)}
    {program : Program Command Reply Error Result}
    (reached :
      Reached handler offered initial (before ++ program :: after) state) :
    ∃ outcome : Except Error Result,
      Reached handler offered initial (before ++ ofOutcome outcome :: after)
        (program.run handler state).2 := by
  induction program generalizing state with
  | done result => exact ⟨.ok result, reached⟩
  | fail error => exact ⟨.error error, reached⟩
  | perform command next induction => exact induction _ reached.step

end Reached

section Keeps

variable {Key Value Event Answer Error Result : Type}

/-- Every stored value is valid for its key. -/
def AllValid (valid : Key → Value → Prop) (values : Key → Option Value) :
    Prop :=
  ∀ key, ∀ value ∈ values key, valid key value

/-- The program writes only valid values as long as it reads only such. -/
def Keeps (valid : Key → Value → Prop) :
    StoreProgram Key Value Event Answer Error Result → Prop
  | .done _ => True
  | .fail _ => True
  | .perform (.get key) next =>
      ∀ read : Option Value, (∀ value ∈ read, valid key value) →
        Keeps valid (next read)
  | .perform (.set key value _) next => valid key value ∧ Keeps valid (next ())
  | .perform (.emit _) next => ∀ answer, Keeps valid (next answer)

theorem keeps_ofOutcome
    (valid : Key → Value → Prop) (outcome : Except Error Result) :
    Keeps valid
      (ofOutcome outcome :
        StoreProgram Key Value Event Answer Error Result) := by
  cases outcome <;> trivial

theorem keeps_of_emits
    (valid : Key → Value → Prop) {events : List Event}
    {program : StoreProgram Key Value Event Answer Error Result}
    (emits : Emits events program) : Keeps valid program := by
  induction events generalizing program with
  | nil =>
      rcases emits with ⟨outcome, rfl⟩
      exact keeps_ofOutcome valid outcome
  | cons event rest induction =>
      rcases emits with ⟨next, rfl, continues⟩
      intro answer
      exact induction (continues answer)

/-- A read-modify-write program keeps what its update keeps. -/
theorem keeps_of_performs
    {valid : Key → Value → Prop} {key : Key} {update : Update Value Event}
    {program : StoreProgram Key Value Event Answer Error Result}
    (performs : Performs key update program)
    (updateKeeps :
      ∀ read : Option Value, (∀ value ∈ read, valid key value) →
        ∀ written ∈ update.write read, valid key written) :
    Keeps valid program := by
  rcases performs with ⟨next, rfl, continues⟩
  intro read readValid
  have saves := continues read
  have writtenValid := updateKeeps read readValid
  cases write : update.write read with
  | none =>
      rw [write] at saves
      exact keeps_of_emits valid saves
  | some written =>
      rw [write] at saves
      rcases saves with ⟨expiry, after, shape, emits⟩
      rw [shape]
      exact ⟨writtenValid written write, keeps_of_emits valid emits⟩

variable [DecidableEq Key]

/-- One command of a program which keeps a property. -/
theorem keeps_perform
    {valid : Key → Value → Prop} {command : StoreCommand Key Value Event}
    {next :
      command.Reply Answer →
        StoreProgram Key Value Event Answer Error Result}
    (keeps : Keeps valid (perform command next))
    (answer : List Event → Event → Answer)
    (state : StoreState Key Value Event)
    (valuesValid : AllValid valid state.values) :
    AllValid valid (storeHandler answer command state).2.values ∧
      Keeps valid (next (storeHandler answer command state).1) := by
  cases command with
  | get key =>
      exact ⟨valuesValid, keeps _ (valuesValid key)⟩
  | set key value expiry =>
      refine ⟨?_, keeps.2⟩
      intro other stored member
      change stored ∈ Function.update state.values key (some value) other
        at member
      by_cases same : other = key
      · subst same
        rw [Function.update_self] at member
        rw [← Option.some.inj member]
        exact keeps.1
      · rw [Function.update_of_ne same] at member
        exact valuesValid other stored member
  | emit event =>
      exact ⟨valuesValid, keeps _⟩

/-- What every offered program keeps holds in every store reached. -/
theorem Reached.allValid
    {valid : Key → Value → Prop} {answer : List Event → Event → Answer}
    {offered : StoreProgram Key Value Event Answer Error Result → Prop}
    {initial state : StoreState Key Value Event}
    {running : List (StoreProgram Key Value Event Answer Error Result)}
    (reached :
      Reached (storeHandler answer) offered initial running state)
    (offeredKeep : ∀ program, offered program → Keeps valid program)
    (initialValid : AllValid valid initial.values) :
    AllValid valid state.values ∧
      ∀ program ∈ running, Keeps valid program := by
  induction reached with
  | nothing => exact ⟨initialValid, by simp⟩
  | start program isOffered reached induction =>
      refine ⟨induction.1, ?_⟩
      rintro other (_ | member)
      · exact offeredKeep program isOffered
      · exact induction.2 other (by assumption)
  | @step before after command next state reached induction =>
      have stepped :=
        keeps_perform (induction.2 (perform command next) (by simp)) answer
          state induction.1
      refine ⟨stepped.1, ?_⟩
      intro other member
      rcases List.mem_append.mp member with isBefore | isRest
      · exact induction.2 other (List.mem_append_left _ isBefore)
      · rcases List.mem_cons.mp isRest with rfl | isAfter
        · exact stepped.2
        · exact induction.2 other
            (List.mem_append_right _ (List.mem_cons_of_mem _ isAfter))

end Keeps

end Foundation.Processes
