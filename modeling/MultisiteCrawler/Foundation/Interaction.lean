import Mathlib.Data.Multiset.AddSub
import Mathlib.Logic.Function.Basic
import Mathlib.Tactic

/-!
# Programs which interact with a shared store

A program is a tree of commands, each followed by a continuation for every
reply.  It can be run alone against a handler, or interleaved with another
program command by command.

The second half is about read-modify-write programs: one read of a key, at
most one write of it, and then some events.  Two such programs which do not
overlap behave as if run one after the other.  If both read before either
writes, the value written last survives and both emit the events they decided
on when reading; `interleaving_cases` says exactly this.
-/

namespace Foundation.Interaction

/-! ## Programs -/

/-- A program issuing commands, which ends with a result or an error. -/
inductive Program
    (Command : Type) (Reply : Command → Type) (Error Result : Type) where
  | done (result : Result)
  | fail (error : Error)
  | perform (command : Command)
      (next : Reply command → Program Command Reply Error Result)

namespace Program

variable {Command : Type} {Reply : Command → Type} {Error : Type}
variable {Result Output State : Type}

/-- Continue with the result of a program. -/
def bind :
    Program Command Reply Error Result →
      (Result → Program Command Reply Error Output) →
        Program Command Reply Error Output
  | done result, continuation => continuation result
  | fail error, _ => fail error
  | perform command next, continuation =>
      perform command fun reply => (next reply).bind continuation

instance : Monad (Program Command Reply Error) where
  pure := done
  bind := bind

/-- Issue one command and return its reply. -/
def issue (command : Command) :
    Program Command Reply Error (Reply command) :=
  perform command done

/-- End with an outcome. -/
def ofOutcome : Except Error Result → Program Command Reply Error Result
  | .ok result => done result
  | .error error => fail error

/-- Handle the error of a program. -/
def tryCatch :
    Program Command Reply Error Result →
      (Error → Program Command Reply Error Result) →
        Program Command Reply Error Result
  | done result, _ => done result
  | fail error, handle => handle error
  | perform command next, handle =>
      perform command fun reply => (next reply).tryCatch handle

/-- Clean up after a program, whether it fails or not. -/
def tryFinally
    (program : Program Command Reply Error Result)
    (cleanup : Program Command Reply Error Unit) :
    Program Command Reply Error Result :=
  (program.tryCatch fun error => cleanup >>= fun _ => fail error) >>=
    fun result => cleanup >>= fun _ => done result

/-- Replace every command by a program which computes its reply. -/
def expand {Statement : Type} {Answer : Statement → Type}
    (meaning : (command : Command) →
      Program Statement Answer Error (Reply command)) :
    Program Command Reply Error Result →
      Program Statement Answer Error Result
  | done result => done result
  | fail error => fail error
  | perform command next =>
      (meaning command).bind fun reply => (next reply).expand meaning

@[simp]
theorem pure_eq (result : Result) :
    (pure result : Program Command Reply Error Result) = done result := rfl

@[simp]
theorem bind_done
    (result : Result)
    (continuation : Result → Program Command Reply Error Output) :
    (done result >>= continuation) = continuation result := rfl

@[simp]
theorem bind_fail
    (error : Error)
    (continuation : Result → Program Command Reply Error Output) :
    ((fail error : Program Command Reply Error Result) >>= continuation) =
      fail error := rfl

@[simp]
theorem bind_perform
    (command : Command)
    (next : Reply command → Program Command Reply Error Result)
    (continuation : Result → Program Command Reply Error Output) :
    (perform command next >>= continuation) =
      perform command fun reply => next reply >>= continuation := rfl

@[simp]
theorem bind_issue
    (command : Command)
    (continuation : Reply command → Program Command Reply Error Output) :
    (issue command >>= continuation) = perform command continuation := rfl

theorem bind_assoc {Final : Type}
    (program : Program Command Reply Error Result)
    (first : Result → Program Command Reply Error Output)
    (second : Output → Program Command Reply Error Final) :
    (program.bind first).bind second =
      program.bind fun result => (first result).bind second := by
  induction program with
  | done result => rfl
  | fail error => rfl
  | perform command next induction =>
      exact congrArg (perform command) (funext induction)

/-- The parts of a program may be expanded one after the other. -/
theorem expand_bind {Statement : Type} {Answer : Statement → Type}
    (meaning : (command : Command) →
      Program Statement Answer Error (Reply command))
    (program : Program Command Reply Error Result)
    (continuation : Result → Program Command Reply Error Output) :
    (program >>= continuation).expand meaning =
      program.expand meaning >>= fun result =>
        (continuation result).expand meaning := by
  induction program with
  | done result => rfl
  | fail error => rfl
  | perform command next induction =>
      have continued :
          (fun reply => (next reply >>= continuation).expand meaning) =
            fun reply => (next reply).expand meaning >>= fun result =>
              (continuation result).expand meaning :=
        funext induction
      have first :
          (perform command next >>= continuation).expand meaning =
            (meaning command).bind fun reply =>
              (next reply >>= continuation).expand meaning := rfl
      rw [first, continued]
      exact (bind_assoc _ _ _).symm

/-! ## Running one program -/

/-- How a state answers a command. -/
abbrev Handler
    (Command : Type) (Reply : Command → Type) (State : Type) :=
  (command : Command) → State → Reply command × State

/-- Run a program to its end. -/
def run (handler : Handler Command Reply State) :
    Program Command Reply Error Result → State → Except Error Result × State
  | done result, state => (.ok result, state)
  | fail error, state => (.error error, state)
  | perform command next, state =>
      (next (handler command state).1).run handler (handler command state).2

/-- The commands a program issues when run. -/
def commands (handler : Handler Command Reply State) :
    Program Command Reply Error Result → State → List Command
  | done _, _ => []
  | fail _, _ => []
  | perform command next, state =>
      command ::
        (next (handler command state).1).commands handler
          (handler command state).2

variable (handler : Handler Command Reply State)

@[simp]
theorem run_done (result : Result) (state : State) :
    (done result : Program Command Reply Error Result).run handler state =
      (.ok result, state) := rfl

@[simp]
theorem run_fail (error : Error) (state : State) :
    (fail error : Program Command Reply Error Result).run handler state =
      (.error error, state) := rfl

@[simp]
theorem run_perform
    (command : Command)
    (next : Reply command → Program Command Reply Error Result)
    (state : State) :
    (perform command next).run handler state =
      (next (handler command state).1).run handler
        (handler command state).2 := rfl

@[simp]
theorem run_ofOutcome (outcome : Except Error Result) (state : State) :
    (ofOutcome outcome : Program Command Reply Error Result).run handler
        state =
      (outcome, state) := by
  cases outcome <;> rfl

/-- Running a program and then its continuation. -/
theorem run_bind
    (program : Program Command Reply Error Result)
    (continuation : Result → Program Command Reply Error Output)
    (state : State) :
    (program >>= continuation).run handler state =
      match program.run handler state with
      | (.ok result, after) => (continuation result).run handler after
      | (.error error, after) => (.error error, after) := by
  induction program generalizing state with
  | done result => rfl
  | fail error => rfl
  | perform command next induction => exact induction _ _

/-- Two programs, one after the other, which leave the state as it is. -/
theorem run_bind_of_run
    {program : Program Command Reply Error Result}
    {continuation : Result → Program Command Reply Error Output}
    {state : State} {outcome : Except Error Result}
    {rest : Result → Except Error Output}
    (first : program.run handler state = (outcome, state))
    (second : ∀ result,
      (continuation result).run handler state = (rest result, state)) :
    (program >>= continuation).run handler state =
      (outcome >>= rest, state) := by
  rw [run_bind, first]
  cases outcome with
  | error error => rfl
  | ok result => exact second result

/-- Running a program and, if it fails, the handler of its error. -/
theorem run_tryCatch
    (program : Program Command Reply Error Result)
    (handle : Error → Program Command Reply Error Result)
    (state : State) :
    (program.tryCatch handle).run handler state =
      match program.run handler state with
      | (.ok result, after) => (.ok result, after)
      | (.error error, after) => (handle error).run handler after := by
  induction program generalizing state with
  | done result => rfl
  | fail error => rfl
  | perform command next induction => exact induction _ _

/-- What a failing cleanup raises replaces what the program ended with. -/
theorem run_tryFinally
    (program : Program Command Reply Error Result)
    (cleanup : Program Command Reply Error Unit) (state : State) :
    (program.tryFinally cleanup).run handler state =
      match cleanup.run handler (program.run handler state).2 with
      | (.ok (), after) => ((program.run handler state).1, after)
      | (.error error, after) => (.error error, after) := by
  rw [tryFinally, run_bind, run_tryCatch]
  cases program.run handler state with
  | mk outcome after =>
      cases outcome with
      | error error =>
          dsimp only
          rw [run_bind]
          cases cleanup.run handler after with
          | mk cleaned last => cases cleaned <;> rfl
      | ok result =>
          dsimp only
          rw [run_bind]
          cases cleanup.run handler after with
          | mk cleaned last => cases cleaned <;> rfl

/-- A cleanup comes last, whatever was raised before. -/
theorem run_tryFinally_snd
    (program : Program Command Reply Error Result)
    (cleanup : Program Command Reply Error Unit) (state : State) :
    ((program.tryFinally cleanup).run handler state).2 =
      (cleanup.run handler (program.run handler state).2).2 := by
  rw [run_tryFinally]
  cases cleanup.run handler (program.run handler state).2 with
  | mk outcome after => cases outcome <;> rfl

end Program

open Program

/-! ## Interleaving two programs -/

/-- One of two programs. -/
inductive Side where
  | left
  | right
deriving DecidableEq, Repr

/-- The other program. -/
def Side.other : Side → Side
  | .left => .right
  | .right => .left

/-- The one of two things which belongs to a side. -/
def Side.pick {Thing : Type} (left right : Thing) : Side → Thing
  | .left => left
  | .right => right

section Interleaving

variable {Command : Type} {Reply : Command → Type} {Error State : Type}
variable {Left Right : Type}

/--
Two programs share a state and take turns in any order, one command at a
time, until both have ended.  The trace lists who issued what.
-/
inductive Interleaves (handler : Handler Command Reply State) :
    Program Command Reply Error Left → Program Command Reply Error Right →
      State → List (Side × Command) → State → Prop where
  | finished
      (left : Except Error Left) (right : Except Error Right)
      (state : State) :
      Interleaves handler (ofOutcome left) (ofOutcome right) state [] state
  | stepLeft
      {command : Command}
      {next : Reply command → Program Command Reply Error Left}
      {right : Program Command Reply Error Right}
      {state final : State} {trace : List (Side × Command)}
      (rest : Interleaves handler (next (handler command state).1) right
        (handler command state).2 trace final) :
      Interleaves handler (perform command next) right state
        ((.left, command) :: trace) final
  | stepRight
      {command : Command}
      {left : Program Command Reply Error Left}
      {next : Reply command → Program Command Reply Error Right}
      {state final : State} {trace : List (Side × Command)}
      (rest : Interleaves handler left (next (handler command state).1)
        (handler command state).2 trace final) :
      Interleaves handler left (perform command next) state
        ((.right, command) :: trace) final

/-- The same interleaving with the two programs exchanged. -/
theorem Interleaves.swap
    {handler : Handler Command Reply State}
    {left : Program Command Reply Error Left}
    {right : Program Command Reply Error Right}
    {state final : State} {trace : List (Side × Command)}
    (interleaved : Interleaves handler left right state trace final) :
    Interleaves handler right left state
      (trace.map fun entry => (entry.1.other, entry.2)) final := by
  induction interleaved with
  | finished left right state => exact .finished right left state
  | stepLeft rest induction => exact .stepRight induction
  | stepRight rest induction => exact .stepLeft induction

end Interleaving

/-! ## Stores -/

/-- The commands of a text store which also emits events. -/
inductive StoreCommand (Key Value Event : Type) where
  | get (key : Key)
  | set (key : Key) (value : Value) (expiry : Option ℕ)
  | emit (event : Event)

/-- What a store replies; `Answer` is the reply to an event. -/
abbrev StoreCommand.Reply {Key Value Event : Type} (Answer : Type) :
    StoreCommand Key Value Event → Type
  | .get _ => Option Value
  | .set _ _ _ => Unit
  | .emit _ => Answer

/-- Programs over a store. -/
abbrev StoreProgram (Key Value Event Answer Error Result : Type) :=
  Program (StoreCommand Key Value Event) (StoreCommand.Reply Answer)
    Error Result

namespace StoreProgram

variable {Key Value Event Answer Error Result : Type}

/-- Read a key. -/
def get (key : Key) :
    StoreProgram Key Value Event Answer Error (Option Value) :=
  perform (.get key) done

/-- Write a key. -/
def set (key : Key) (value : Value) (expiry : Option ℕ) :
    StoreProgram Key Value Event Answer Error Unit :=
  perform (.set key value expiry) done

/-- Emit an event. -/
def emit (event : Event) :
    StoreProgram Key Value Event Answer Error Answer :=
  perform (.emit event) done

@[simp]
theorem bind_get
    (key : Key)
    (continuation :
      Option Value → StoreProgram Key Value Event Answer Error Result) :
    (get key >>= continuation) = perform (.get key) continuation := rfl

@[simp]
theorem bind_set
    (key : Key) (value : Value) (expiry : Option ℕ)
    (continuation :
      Unit → StoreProgram Key Value Event Answer Error Result) :
    (set key value expiry >>= continuation) =
      perform (.set key value expiry) continuation := rfl

@[simp]
theorem bind_emit
    (event : Event)
    (continuation :
      Answer → StoreProgram Key Value Event Answer Error Result) :
    (emit event >>= continuation) = perform (.emit event) continuation := rfl

end StoreProgram

/-- The values of a store and the events emitted so far. -/
structure StoreState (Key Value Event : Type) where
  values : Key → Option Value
  events : List Event

/-- The store without events which holds no value. -/
def StoreState.empty {Key Value Event : Type} :
    StoreState Key Value Event :=
  ⟨fun _ => none, []⟩

section Store

variable {Key Value Event Answer Error : Type}
variable {Left Right : Type}

/-! ## Read-modify-write programs -/

/-- The program emits exactly these events, whatever the answers. -/
def Emits : List Event →
    StoreProgram Key Value Event Answer Error Left → Prop
  | [], program => ∃ outcome, program = ofOutcome outcome
  | event :: rest, program =>
      ∃ next : Answer → StoreProgram Key Value Event Answer Error Left,
        program = perform (.emit event) next ∧
          ∀ answer, Emits rest (next answer)

/-- The program writes the key, if there is a value, and then emits. -/
def Saves (key : Key) (write : Option Value) (events : List Event)
    (program : StoreProgram Key Value Event Answer Error Left) : Prop :=
  match write with
  | none => Emits events program
  | some value =>
      ∃ (expiry : Option ℕ)
        (next : Unit → StoreProgram Key Value Event Answer Error Left),
        program = perform (.set key value expiry) next ∧
          Emits events (next ())

/--
What a read-modify-write program does with the value it reads: the value it
writes, if any, and the events it then emits.
-/
structure Update (Value Event : Type) where
  write : Option Value → Option Value
  events : Option Value → List Event

/-- The program reads the key and then performs the update. -/
def Performs (key : Key) (update : Update Value Event)
    (program : StoreProgram Key Value Event Answer Error Left) : Prop :=
  ∃ next : Option Value → StoreProgram Key Value Event Answer Error Left,
    program = perform (.get key) next ∧
      ∀ value, Saves key (update.write value) (update.events value)
        (next value)

/-- The value a key has after an update. -/
def Update.after (update : Update Value Event)
    (value : Option Value) : Option Value :=
  match update.write value with
  | some written => some written
  | none => value

/-- Reading or writing the key, ignoring events. -/
inductive Access where
  | load
  | save
deriving DecidableEq, Repr

/-- The access a command makes. -/
def access : StoreCommand Key Value Event → Option Access
  | .get _ => some .load
  | .set _ _ _ => some .save
  | .emit _ => none

/-- The accesses of a trace, in order. -/
def accesses (trace : List (Side × StoreCommand Key Value Event)) :
    List (Side × Access) :=
  trace.filterMap fun entry => (access entry.2).map fun kind =>
    (entry.1, kind)

/--
Both programs load before either saves, and both save, `last` being the last
to do so.
-/
def Overlap (last : Side) (order : List (Side × Access)) : Prop :=
  order = [(.left, .load), (.right, .load), (last.other, .save),
      (last, .save)] ∨
    order = [(.right, .load), (.left, .load), (last.other, .save),
      (last, .save)]

instance (last : Side) (order : List (Side × Access)) :
    Decidable (Overlap last order) := by
  unfold Overlap
  infer_instance

/-- The access of a write, if there is one. -/
def saveOf (side : Side) (write : Option Value) : List (Side × Access) :=
  if write.isSome then [(side, .save)] else []

@[simp]
theorem saveOf_none (side : Side) :
    saveOf side (none : Option Value) = [] := rfl

@[simp]
theorem saveOf_some (side : Side) (value : Value) :
    saveOf side (some value) = [(side, .save)] := rfl

theorem accesses_cons_of_some
    (side : Side) (command : StoreCommand Key Value Event)
    (trace : List (Side × StoreCommand Key Value Event)) (kind : Access)
    (isAccess : access command = some kind) :
    accesses ((side, command) :: trace) =
      (side, kind) :: accesses trace := by
  simp [accesses, isAccess]

theorem accesses_cons_of_none
    (side : Side) (command : StoreCommand Key Value Event)
    (trace : List (Side × StoreCommand Key Value Event))
    (isEvent : access command = none) :
    accesses ((side, command) :: trace) = accesses trace := by
  simp [accesses, isEvent]

/-- Exchange the two programs in a list of accesses. -/
def swapAccesses (order : List (Side × Access)) : List (Side × Access) :=
  order.map fun entry => (entry.1.other, entry.2)

@[simp]
theorem swapAccesses_saveOf (side : Side) (write : Option Value) :
    swapAccesses (saveOf side write) = saveOf side.other write := by
  cases write <;> rfl

theorem swapAccesses_swapAccesses (order : List (Side × Access)) :
    swapAccesses (swapAccesses order) = order := by
  induction order with
  | nil => rfl
  | cons head rest induction =>
      rcases head with ⟨side, kind⟩
      cases side <;> simpa [swapAccesses, Side.other] using induction

theorem accesses_swap
    (trace : List (Side × StoreCommand Key Value Event)) :
    accesses (trace.map fun entry => (entry.1.other, entry.2)) =
      swapAccesses (accesses trace) := by
  induction trace with
  | nil => rfl
  | cons head rest induction =>
      rcases head with ⟨side, command⟩
      cases command <;>
        simpa [accesses, access, swapAccesses] using induction

theorem accesses_eq_of_swap
    {trace : List (Side × StoreCommand Key Value Event)}
    {order : List (Side × Access)}
    (equal : swapAccesses (accesses trace) = order) :
    accesses trace = swapAccesses order := by
  rw [← equal, swapAccesses_swapAccesses]

theorem swapAccesses_append (first second : List (Side × Access)) :
    swapAccesses (first ++ second) =
      swapAccesses first ++ swapAccesses second :=
  List.map_append

theorem swapAccesses_cons
    (entry : Side × Access) (rest : List (Side × Access)) :
    swapAccesses (entry :: rest) =
      (entry.1.other, entry.2) :: swapAccesses rest := rfl

theorem emits_ofOutcome
    {events : List Event} {outcome : Except Error Left}
    (emits :
      Emits events
        (ofOutcome outcome :
          StoreProgram Key Value Event Answer Error Left)) :
    events = [] := by
  cases events with
  | nil => rfl
  | cons event rest =>
      rcases emits with ⟨next, shape, _⟩
      cases outcome <;> cases shape

theorem saves_ofOutcome
    {key : Key} {write : Option Value} {events : List Event}
    {outcome : Except Error Left}
    (saves :
      Saves key write events
        (ofOutcome outcome :
          StoreProgram Key Value Event Answer Error Left)) :
    write = none ∧ events = [] := by
  cases write with
  | none => exact ⟨rfl, emits_ofOutcome saves⟩
  | some value =>
      rcases saves with ⟨expiry, next, shape, _⟩
      cases outcome <;> cases shape

/-! ## Classifying the interleavings -/

variable [DecidableEq Key]

/--
A store whose values do not expire.  The answer to an event may depend on
everything emitted before.
-/
def storeHandler (answer : List Event → Event → Answer) :
    Handler (StoreCommand Key Value Event) (StoreCommand.Reply Answer)
      (StoreState Key Value Event)
  | .get key, state => (state.values key, state)
  | .set key value _, state =>
      ((), { state with
        values := Function.update state.values key (some value) })
  | .emit event, state =>
      (answer state.events event,
        { state with events := state.events ++ [event] })

@[simp]
theorem storeHandler_get
    (answer : List Event → Event → Answer) (key : Key)
    (state : StoreState Key Value Event) :
    storeHandler answer (.get key) state = (state.values key, state) := rfl

@[simp]
theorem storeHandler_set
    (answer : List Event → Event → Answer) (key : Key) (value : Value)
    (expiry : Option ℕ) (state : StoreState Key Value Event) :
    storeHandler answer (.set key value expiry) state =
      ((), { state with
        values := Function.update state.values key (some value) }) := rfl

@[simp]
theorem storeHandler_emit
    (answer : List Event → Event → Answer) (event : Event)
    (state : StoreState Key Value Event) :
    storeHandler answer (.emit event) state =
      (answer state.events event,
        { state with events := state.events ++ [event] }) := rfl

/-- The values after writing a key, if there is something to write. -/
def put (key : Key) (write : Option Value)
    (values : Key → Option Value) : Key → Option Value :=
  match write with
  | none => values
  | some value => Function.update values key (some value)

@[simp]
theorem put_none (key : Key) (values : Key → Option Value) :
    put key none values = values := rfl

@[simp]
theorem put_some (key : Key) (value : Value) (values : Key → Option Value) :
    put key (some value) values =
      Function.update values key (some value) := rfl

theorem put_self (key : Key) (update : Update Value Event)
    (values : Key → Option Value) :
    put key (update.write (values key)) values key =
      update.after (values key) := by
  unfold put Update.after
  cases update.write (values key) <;> simp

/-- The later of two writes of a key survives. -/
theorem put_put (key : Key) (first : Option Value) (second : Value)
    (values : Key → Option Value) :
    put key (some second) (put key first values) =
      put key (some second) values := by
  cases first <;> simp

/-- What a program which saves can do first. -/
theorem saves_perform
    {key : Key} {write : Option Value} {events : List Event}
    {command : StoreCommand Key Value Event}
    {next :
      command.Reply Answer →
        StoreProgram Key Value Event Answer Error Left}
    (saves : Saves key write events (perform command next))
    (answer : List Event → Event → Answer)
    (state : StoreState Key Value Event) :
    (∃ value, write = some value ∧ access command = some .save ∧
        (storeHandler answer command state).2 =
          { state with values := put key (some value) state.values } ∧
        Saves key none events
          (next (storeHandler answer command state).1)) ∨
      (∃ event rest, write = none ∧ events = event :: rest ∧
        access command = none ∧
        (storeHandler answer command state).2 =
          { state with events := state.events ++ [event] } ∧
        Saves key none rest
          (next (storeHandler answer command state).1)) := by
  cases write with
  | none =>
      cases events with
      | nil =>
          rcases saves with ⟨outcome, shape⟩
          cases outcome <;> cases shape
      | cons event rest =>
          rcases saves with ⟨continuation, shape, emits⟩
          cases shape
          exact Or.inr ⟨event, rest, rfl, rfl, rfl, rfl, emits _⟩
  | some value =>
      rcases saves with ⟨expiry, continuation, shape, emits⟩
      cases shape
      exact Or.inl ⟨value, rfl, rfl, rfl, emits⟩

/-- Two programs which have both loaded. -/
theorem saves_saves
    {key : Key} {answer : List Event → Event → Answer}
    {left : StoreProgram Key Value Event Answer Error Left}
    {right : StoreProgram Key Value Event Answer Error Right}
    {state final : StoreState Key Value Event}
    {trace : List (Side × StoreCommand Key Value Event)}
    (interleaved :
      Interleaves (storeHandler answer) left right state trace final)
    {leftWrite rightWrite : Option Value}
    {leftEvents rightEvents : List Event}
    (leftSaves : Saves key leftWrite leftEvents left)
    (rightSaves : Saves key rightWrite rightEvents right) :
    ((accesses trace = saveOf .left leftWrite ++ saveOf .right rightWrite ∧
        final.values =
          put key rightWrite (put key leftWrite state.values)) ∨
      (accesses trace = saveOf .right rightWrite ++ saveOf .left leftWrite ∧
        final.values =
          put key leftWrite (put key rightWrite state.values))) ∧
      (final.events : Multiset Event) =
        state.events + (leftEvents + rightEvents : Multiset Event) := by
  induction interleaved generalizing leftWrite rightWrite leftEvents
      rightEvents with
  | finished leftOutcome rightOutcome state =>
      rcases saves_ofOutcome leftSaves with ⟨rfl, rfl⟩
      rcases saves_ofOutcome rightSaves with ⟨rfl, rfl⟩
      simp [accesses, saveOf]
  | @stepLeft command next right state final trace rest induction =>
      rcases saves_perform leftSaves answer state with
        ⟨value, rfl, isSave, after, continues⟩ |
        ⟨event, events, rfl, rfl, isEvent, after, continues⟩
      · rcases induction continues rightSaves with ⟨order, events⟩
        rw [after] at order events
        refine ⟨Or.inl ?_, events⟩
        rw [accesses_cons_of_some _ _ _ _ isSave]
        simpa using order
      · rcases induction continues rightSaves with ⟨order, total⟩
        rw [after] at order total
        refine ⟨?_, ?_⟩
        · rw [accesses_cons_of_none _ _ _ isEvent]
          exact order
        · rw [total]
          simp only [← Multiset.coe_add, ← Multiset.cons_coe,
            Multiset.coe_nil, add_zero, Multiset.add_cons,
            Multiset.cons_add]
  | @stepRight command left next state final trace rest induction =>
      rcases saves_perform rightSaves answer state with
        ⟨value, rfl, isSave, after, continues⟩ |
        ⟨event, events, rfl, rfl, isEvent, after, continues⟩
      · rcases induction leftSaves continues with ⟨order, events⟩
        rw [after] at order events
        refine ⟨Or.inr ?_, events⟩
        rw [accesses_cons_of_some _ _ _ _ isSave]
        simpa using order
      · rcases induction leftSaves continues with ⟨order, total⟩
        rw [after] at order total
        refine ⟨?_, ?_⟩
        · rw [accesses_cons_of_none _ _ _ isEvent]
          exact order
        · rw [total]
          simp only [← Multiset.coe_add, ← Multiset.cons_coe,
            Multiset.coe_nil, add_zero, Multiset.add_cons,
            Multiset.cons_add]

/-- One program has still to load, the other has loaded already. -/
theorem performs_saves
    {key : Key} {answer : List Event → Event → Answer}
    {left : StoreProgram Key Value Event Answer Error Left}
    {right : StoreProgram Key Value Event Answer Error Right}
    {state final : StoreState Key Value Event}
    {trace : List (Side × StoreCommand Key Value Event)}
    (interleaved :
      Interleaves (storeHandler answer) left right state trace final)
    {update : Update Value Event} {write : Option Value}
    {events : List Event}
    (performs : Performs key update left)
    (saves : Saves key write events right) :
    (accesses trace =
        saveOf .right write ++ (.left, .load) ::
          saveOf .left (update.write (put key write state.values key)) ∧
      final.values =
        put key (update.write (put key write state.values key))
          (put key write state.values) ∧
      (final.events : Multiset Event) =
        state.events +
          (update.events (put key write state.values key) + events :
            Multiset Event)) ∨
    (((accesses trace =
          (.left, .load) ::
            (saveOf .left (update.write (state.values key)) ++
              saveOf .right write) ∧
        final.values =
          put key write
            (put key (update.write (state.values key)) state.values)) ∨
      (accesses trace =
          (.left, .load) ::
            (saveOf .right write ++
              saveOf .left (update.write (state.values key))) ∧
        final.values =
          put key (update.write (state.values key))
            (put key write state.values))) ∧
      (final.events : Multiset Event) =
        state.events +
          (update.events (state.values key) + events :
            Multiset Event)) := by
  induction interleaved generalizing write events with
  | finished leftOutcome rightOutcome state =>
      rcases performs with ⟨next, shape, _⟩
      cases leftOutcome <;> cases shape
  | @stepLeft command next right state final trace rest induction =>
      rcases performs with ⟨continuation, shape, continues⟩
      cases shape
      rcases saves_saves rest (continues (state.values key)) saves with
        ⟨order, total⟩
      refine Or.inr ⟨?_, total⟩
      rw [accesses_cons_of_some .left (.get key) trace .load rfl]
      simpa [storeHandler] using order
  | @stepRight command left next state final trace rest induction =>
      rcases saves_perform saves answer state with
        ⟨value, rfl, isSave, after, continues⟩ |
        ⟨event, events, rfl, rfl, isEvent, after, continues⟩
      · have result := induction performs continues
        rw [after] at result
        simp only [saveOf_none, put_none, List.nil_append, List.append_nil,
          or_self, and_assoc] at result
        rw [accesses_cons_of_some _ _ _ _ isSave, result.1]
        exact Or.inl ⟨rfl, result.2⟩
      · have result := induction performs continues
        rw [after] at result
        have total :
            ∀ others : List Event,
              ((state.events ++ [event] : List Event) : Multiset Event) +
                  (others + events : Multiset Event) =
                state.events +
                  (others + (event :: events : List Event) :
                    Multiset Event) := by
          intro others
          simp only [← Multiset.coe_add, ← Multiset.cons_coe,
            Multiset.coe_nil, add_zero, Multiset.add_cons,
            Multiset.cons_add]
        simp only [total] at result
        rw [accesses_cons_of_none _ _ _ isEvent]
        exact result

theorem run_emits
    {events : List Event}
    {program : StoreProgram Key Value Event Answer Error Left}
    (emits : Emits events program)
    (answer : List Event → Event → Answer)
    (state : StoreState Key Value Event) :
    (program.run (storeHandler answer) state).2 =
      { state with events := state.events ++ events } := by
  induction events generalizing program state with
  | nil =>
      rcases emits with ⟨outcome, rfl⟩
      rw [List.append_nil]
      cases outcome <;> rfl
  | cons event rest induction =>
      rcases emits with ⟨next, rfl, continues⟩
      rw [run_perform, storeHandler_emit, induction (continues _),
        List.append_assoc]
      rfl

theorem run_saves
    {key : Key} {write : Option Value} {events : List Event}
    {program : StoreProgram Key Value Event Answer Error Left}
    (saves : Saves key write events program)
    (answer : List Event → Event → Answer)
    (state : StoreState Key Value Event) :
    (program.run (storeHandler answer) state).2 =
      ⟨put key write state.values, state.events ++ events⟩ := by
  cases write with
  | none => exact run_emits saves answer state
  | some value =>
      rcases saves with ⟨expiry, next, rfl, emits⟩
      rw [run_perform, storeHandler_set, run_emits emits]
      rfl

/-- What a read-modify-write program does when it runs alone. -/
theorem run_performs
    {key : Key} {update : Update Value Event}
    {program : StoreProgram Key Value Event Answer Error Left}
    (performs : Performs key update program)
    (answer : List Event → Event → Answer)
    (state : StoreState Key Value Event) :
    (program.run (storeHandler answer) state).2 =
      ⟨put key (update.write (state.values key)) state.values,
        state.events ++ update.events (state.values key)⟩ := by
  rcases performs with ⟨next, rfl, continues⟩
  rw [run_perform, storeHandler_get]
  exact run_saves (continues _) answer state

/-- The values after running one update after another. -/
def serialValues (key : Key) (first second : Update Value Event)
    (values : Key → Option Value) : Key → Option Value :=
  put key (second.write (first.after (values key)))
    (put key (first.write (values key)) values)

/-- The events of running one update after another. -/
def serialEvents (first second : Update Value Event)
    (value : Option Value) : Multiset Event :=
  first.events value + second.events (first.after value)

/-- Two read-modify-write programs run one after the other. -/
theorem run_performs_performs
    {key : Key} {first second : Update Value Event}
    {firstProgram : StoreProgram Key Value Event Answer Error Left}
    {secondProgram : StoreProgram Key Value Event Answer Error Right}
    (firstPerforms : Performs key first firstProgram)
    (secondPerforms : Performs key second secondProgram)
    (answer : List Event → Event → Answer)
    (state : StoreState Key Value Event) :
    (secondProgram.run (storeHandler answer)
        (firstProgram.run (storeHandler answer) state).2).2 =
      ⟨serialValues key first second state.values,
        state.events ++ first.events (state.values key) ++
          second.events (first.after (state.values key))⟩ := by
  rw [run_performs firstPerforms, run_performs secondPerforms]
  dsimp only
  rw [put_self]
  rfl

/--
The possible results of interleaving two updates of a key.  Either they are
those of a serial execution, or both loaded before either saved and the last
to save decides the value.
-/
inductive Merged (key : Key) (left right : Update Value Event)
    (values : Key → Option Value) :
    List (Side × Access) → (Key → Option Value) → Multiset Event →
      Prop where
  | leftFirst (order : List (Side × Access))
      (apart : ∀ last, ¬ Overlap last order) :
      Merged key left right values order
        (serialValues key left right values)
        (serialEvents left right (values key))
  | rightFirst (order : List (Side × Access))
      (apart : ∀ last, ¬ Overlap last order) :
      Merged key left right values order
        (serialValues key right left values)
        (serialEvents right left (values key))
  | leftLast (order : List (Side × Access)) (lost kept : Value)
      (overlap : Overlap .left order)
      (leftWrite : left.write (values key) = some kept)
      (rightWrite : right.write (values key) = some lost) :
      Merged key left right values order (put key (some kept) values)
        (left.events (values key) + right.events (values key))
  | rightLast (order : List (Side × Access)) (lost kept : Value)
      (overlap : Overlap .right order)
      (leftWrite : left.write (values key) = some lost)
      (rightWrite : right.write (values key) = some kept) :
      Merged key left right values order (put key (some kept) values)
        (left.events (values key) + right.events (values key))

theorem put_write_eq_update
    (key : Key) (update : Update Value Event)
    (values : Key → Option Value) :
    put key (update.write (values key)) values =
      Function.update values key (update.after (values key)) := by
  unfold Update.after
  cases update.write (values key) with
  | none => exact (Function.update_eq_self key values).symm
  | some value => rfl

/-- Running two updates replaces the value of the key. -/
theorem serialValues_eq_update
    (key : Key) (first second : Update Value Event)
    (values : Key → Option Value) :
    serialValues key first second values =
      Function.update values key
        (second.after (first.after (values key))) := by
  have firstValue :
      put key (first.write (values key)) values key =
        first.after (values key) := put_self key first values
  unfold serialValues
  rw [← firstValue, put_write_eq_update, put_write_eq_update,
    Function.update_idem]

theorem overlap_swap (last : Side) (order : List (Side × Access)) :
    Overlap last.other (swapAccesses order) ↔ Overlap last order := by
  have forward :
      ∀ (last : Side) (order : List (Side × Access)),
        Overlap last order → Overlap last.other (swapAccesses order) := by
    intro last order overlap
    rcases overlap with rfl | rfl
    · cases last <;> exact Or.inr rfl
    · cases last <;> exact Or.inl rfl
  constructor
  · intro overlap
    have swapped := forward _ _ overlap
    rw [swapAccesses_swapAccesses] at swapped
    cases last <;> exact swapped
  · exact forward last order

/-- Exchanging the two programs exchanges the possible results. -/
theorem Merged.swap
    {key : Key} {left right : Update Value Event}
    {values after : Key → Option Value}
    {order : List (Side × Access)} {events : Multiset Event}
    (merged : Merged key left right values order after events) :
    Merged key right left values (swapAccesses order) after events := by
  have apartSwap :
      (∀ last, ¬ Overlap last order) →
        ∀ last, ¬ Overlap last (swapAccesses order) := by
    intro apart last overlap
    apply apart last.other
    rw [← overlap_swap]
    cases last <;> exact overlap
  cases merged with
  | leftFirst apart => exact .rightFirst _ (apartSwap apart)
  | rightFirst apart => exact .leftFirst _ (apartSwap apart)
  | leftLast lost kept overlap leftWrite rightWrite =>
      rw [add_comm]
      exact .rightLast _ lost kept ((overlap_swap .left order).mpr overlap)
        rightWrite leftWrite
  | rightLast lost kept overlap leftWrite rightWrite =>
      rw [add_comm]
      exact .leftLast _ lost kept ((overlap_swap .right order).mpr overlap)
        rightWrite leftWrite

/-- One program saving before the other loads is not an overlap. -/
theorem not_overlap_of_save_before_load
    (last : Side) (leftWrite rightWrite : Option Value) :
    ¬ Overlap last
      ((.left, .load) :: (saveOf .left leftWrite ++
        (.right, .load) :: saveOf .right rightWrite)) := by
  unfold saveOf
  generalize leftWrite.isSome = leftSaves
  generalize rightWrite.isSome = rightSaves
  revert last leftSaves rightSaves
  intro last leftSaves rightSaves
  cases last <;> cases leftSaves <;> cases rightSaves <;> decide

/-- Fewer than two saves are not an overlap. -/
theorem not_overlap_of_one_save
    (last side : Side) (write : Option Value) :
    ¬ Overlap last
      ((.left, .load) :: (.right, .load) :: saveOf side write) := by
  unfold saveOf
  generalize write.isSome = saves
  cases last <;> cases side <;> cases saves <;> decide

/-- An update which writes nothing may as well have run first. -/
theorem serialValues_of_write_none
    (key : Key) (first second : Update Value Event)
    (values : Key → Option Value)
    (silent : first.write (values key) = none) :
    serialValues key first second values =
      put key (second.write (values key)) values := by
  simp only [serialValues, Update.after, silent, put_none]

theorem serialEvents_of_write_none
    (first second : Update Value Event) (value : Option Value)
    (silent : first.write value = none) :
    serialEvents first second value =
      first.events value + second.events value := by
  simp only [serialEvents, Update.after, silent]

/-- Both programs have loaded; the first save may be either's. -/
theorem merged_of_saves
    {key : Key} {left right : Update Value Event}
    {values after : Key → Option Value} {order : List (Side × Access)}
    (result :
      (order = saveOf .left (left.write (values key)) ++
          saveOf .right (right.write (values key)) ∧
        after = put key (right.write (values key))
          (put key (left.write (values key)) values)) ∨
      (order = saveOf .right (right.write (values key)) ++
          saveOf .left (left.write (values key)) ∧
        after = put key (left.write (values key))
          (put key (right.write (values key)) values))) :
    Merged key left right values ((.left, .load) :: (.right, .load) :: order)
      after (left.events (values key) + right.events (values key)) := by
  cases leftWrite : left.write (values key) with
  | none =>
      have shape : order = saveOf .right (right.write (values key)) := by
        rcases result with ⟨order, _⟩ | ⟨order, _⟩ <;>
          simpa [leftWrite, saveOf] using order
      have values' :
          after = put key (right.write (values key)) values := by
        rcases result with ⟨_, after⟩ | ⟨_, after⟩ <;>
          simpa [leftWrite] using after
      rw [shape, values', ← serialValues_of_write_none key left right _
        leftWrite, ← serialEvents_of_write_none left right _ leftWrite]
      exact .leftFirst _ fun last => not_overlap_of_one_save last _ _
  | some leftValue =>
      cases rightWrite : right.write (values key) with
      | none =>
          have shape : order = saveOf .left (left.write (values key)) := by
            rcases result with ⟨order, _⟩ | ⟨order, _⟩ <;>
              simpa [rightWrite, saveOf] using order
          have values' :
              after = put key (left.write (values key)) values := by
            rcases result with ⟨_, after⟩ | ⟨_, after⟩ <;>
              simpa [rightWrite] using after
          rw [shape, values', ← serialValues_of_write_none key right left _
            rightWrite, add_comm,
            ← serialEvents_of_write_none right left _ rightWrite]
          exact .rightFirst _ fun last => not_overlap_of_one_save last _ _
      | some rightValue =>
          rw [leftWrite, rightWrite] at result
          rcases result with ⟨rfl, rfl⟩ | ⟨rfl, rfl⟩
          · rw [put_put]
            exact .rightLast _ leftValue rightValue (Or.inl rfl)
              leftWrite rightWrite
          · rw [put_put]
            exact .leftLast _ rightValue leftValue (Or.inl rfl)
              leftWrite rightWrite

/-- A read-modify-write program which loads first. -/
theorem saves_performs
    {key : Key} {answer : List Event → Event → Answer}
    {left : StoreProgram Key Value Event Answer Error Left}
    {right : StoreProgram Key Value Event Answer Error Right}
    {state final : StoreState Key Value Event}
    {trace : List (Side × StoreCommand Key Value Event)}
    (interleaved :
      Interleaves (storeHandler answer) left right state trace final)
    {leftUpdate rightUpdate : Update Value Event}
    (leftSaves :
      Saves key (leftUpdate.write (state.values key))
        (leftUpdate.events (state.values key)) left)
    (rightPerforms : Performs key rightUpdate right) :
    ∃ events : Multiset Event,
      (final.events : Multiset Event) = state.events + events ∧
        Merged key leftUpdate rightUpdate state.values
          ((.left, .load) :: accesses trace) final.values events := by
  have swapped := performs_saves interleaved.swap rightPerforms leftSaves
  rw [accesses_swap, put_self] at swapped
  rcases swapped with ⟨order, values, events⟩ | ⟨order, events⟩
  · refine ⟨_, events, ?_⟩
    rw [accesses_eq_of_swap order, values, add_comm]
    simp only [swapAccesses_append, swapAccesses_cons,
      swapAccesses_saveOf, Side.other]
    exact .leftFirst _ fun last =>
      not_overlap_of_save_before_load last _ _
  · refine ⟨_, events, ?_⟩
    rw [add_comm]
    rcases order with ⟨order, values⟩ | ⟨order, values⟩
    · rw [accesses_eq_of_swap order]
      simp only [swapAccesses_append, swapAccesses_cons,
        swapAccesses_saveOf, Side.other]
      exact merged_of_saves (Or.inr ⟨rfl, values⟩)
    · rw [accesses_eq_of_swap order]
      simp only [swapAccesses_append, swapAccesses_cons,
        swapAccesses_saveOf, Side.other]
      exact merged_of_saves (Or.inl ⟨rfl, values⟩)

/--
Interleaving two read-modify-write programs on a key leaves the other keys
alone, and on the key it gives one of the `Merged` results.
-/
theorem interleaving_cases
    {key : Key} {answer : List Event → Event → Answer}
    {left : StoreProgram Key Value Event Answer Error Left}
    {right : StoreProgram Key Value Event Answer Error Right}
    {state final : StoreState Key Value Event}
    {trace : List (Side × StoreCommand Key Value Event)}
    (interleaved :
      Interleaves (storeHandler answer) left right state trace final)
    {leftUpdate rightUpdate : Update Value Event}
    (leftPerforms : Performs key leftUpdate left)
    (rightPerforms : Performs key rightUpdate right) :
    ∃ events : Multiset Event,
      (final.events : Multiset Event) = state.events + events ∧
        Merged key leftUpdate rightUpdate state.values (accesses trace)
          final.values events := by
  cases interleaved with
  | finished leftOutcome rightOutcome =>
      rcases leftPerforms with ⟨next, shape, _⟩
      cases leftOutcome <;> cases shape
  | stepLeft rest =>
      rcases leftPerforms with ⟨continuation, shape, continues⟩
      cases shape
      exact saves_performs rest (continues _) rightPerforms
  | @stepRight command _ next _ _ trace rest =>
      rcases rightPerforms with ⟨continuation, shape, continues⟩
      cases shape
      rcases saves_performs rest.swap (continues _) leftPerforms with
        ⟨events, total, merged⟩
      refine ⟨events, total, ?_⟩
      have result := merged.swap
      rw [accesses_swap, swapAccesses_cons,
        swapAccesses_swapAccesses] at result
      exact result

/-! ## Serial results -/

/-- The result is that of running the two updates one after the other. -/
def SerialResult (key : Key) (left right : Update Value Event)
    (values after : Key → Option Value) (events : Multiset Event) : Prop :=
  (after = serialValues key left right values ∧
      events = serialEvents left right (values key)) ∨
    (after = serialValues key right left values ∧
      events = serialEvents right left (values key))

/--
Two updates are made from the same value and the first one saved is lost.
Still the result is serial: either the last one would have done the same after
the first, or the first would have left what the last one saved.
-/
def OverlapIsSerial (first last : Update Value Event) (value : Option Value) :
    Prop :=
  (last.after (first.after value) = last.after value ∧
      (last.events (first.after value) : Multiset Event) =
        last.events value) ∨
    (first.after (last.after value) = last.after value ∧
      (first.events (last.after value) : Multiset Event) =
        first.events value)

theorem update_eq_update_iff
    (key : Key) (values : Key → Option Value) (first second : Option Value) :
    Function.update values key first = Function.update values key second ↔
      first = second :=
  (Function.update_injective values key).eq_iff

theorem serialResult_swap
    (key : Key) (left right : Update Value Event)
    (values after : Key → Option Value) (events : Multiset Event) :
    SerialResult key left right values after events ↔
      SerialResult key right left values after events :=
  Or.comm

/-- When an overlap is serial, in terms of the update saved last. -/
theorem serialResult_of_last_iff
    (key : Key) (first last : Update Value Event)
    (values : Key → Option Value) :
    SerialResult key first last values
        (Function.update values key (last.after (values key)))
        (first.events (values key) + last.events (values key)) ↔
      OverlapIsSerial first last (values key) := by
  unfold SerialResult OverlapIsSerial serialEvents
  rw [serialValues_eq_update, serialValues_eq_update,
    update_eq_update_iff, update_eq_update_iff, add_right_inj,
    add_comm (first.events (values key) : Multiset Event), add_right_inj]
  constructor
  · rintro (⟨value, events⟩ | ⟨value, events⟩)
    · exact Or.inl ⟨value.symm, events.symm⟩
    · exact Or.inr ⟨value.symm, events.symm⟩
  · rintro (⟨value, events⟩ | ⟨value, events⟩)
    · exact Or.inl ⟨value.symm, events.symm⟩
    · exact Or.inr ⟨value.symm, events.symm⟩

theorem put_kept_eq_update
    {key : Key} {update : Update Value Event}
    {values : Key → Option Value} {kept : Value}
    (writes : update.write (values key) = some kept) :
    put key (some kept) values =
      Function.update values key (update.after (values key)) := by
  rw [← writes, put_write_eq_update]

/-- The two sides do not both save last. -/
theorem overlap_unique
    {first second : Side} {order : List (Side × Access)}
    (isFirst : Overlap first order) (isSecond : Overlap second order) :
    first = second := by
  rcases isFirst with rfl | rfl <;> rcases isSecond with equal | equal <;>
    cases first <;> cases second <;> first | rfl | cases equal

/--
A result of interleaving two updates is serial unless both loaded before
either saved and their overlap is not serial.
-/
theorem Merged.serialResult_iff
    {key : Key} {left right : Update Value Event}
    {values after : Key → Option Value}
    {order : List (Side × Access)} {events : Multiset Event}
    (merged : Merged key left right values order after events) :
    SerialResult key left right values after events ↔
      ∀ last, Overlap last order →
        OverlapIsSerial (last.other.pick left right) (last.pick left right)
          (values key) := by
  cases merged with
  | leftFirst apart =>
      refine iff_of_true (Or.inl ⟨rfl, rfl⟩) ?_
      intro last overlap
      exact absurd overlap (apart last)
  | rightFirst apart =>
      refine iff_of_true (Or.inr ⟨rfl, rfl⟩) ?_
      intro last overlap
      exact absurd overlap (apart last)
  | leftLast lost kept overlap leftWrite rightWrite =>
      rw [put_kept_eq_update leftWrite, serialResult_swap, add_comm,
        serialResult_of_last_iff]
      constructor
      · intro serial last isLast
        rw [← overlap_unique overlap isLast]
        exact serial
      · intro serial
        exact serial .left overlap
  | rightLast lost kept overlap leftWrite rightWrite =>
      rw [put_kept_eq_update rightWrite, serialResult_of_last_iff]
      constructor
      · intro serial last isLast
        rw [← overlap_unique overlap isLast]
        exact serial
      · intro serial
        exact serial .right overlap

/-- The updates of an overlap both write. -/
theorem Merged.writes_of_overlap
    {key : Key} {left right : Update Value Event}
    {values after : Key → Option Value}
    {order : List (Side × Access)} {events : Multiset Event}
    (merged : Merged key left right values order after events)
    {last : Side} (overlap : Overlap last order) :
    (∃ kept, (last.pick left right).write (values key) = some kept) ∧
      ∃ lost, (last.other.pick left right).write (values key) =
        some lost := by
  cases merged with
  | leftFirst apart => exact absurd overlap (apart last)
  | rightFirst apart => exact absurd overlap (apart last)
  | leftLast lost kept isLast leftWrite rightWrite =>
      rw [← overlap_unique isLast overlap]
      exact ⟨⟨kept, leftWrite⟩, lost, rightWrite⟩
  | rightLast lost kept isLast leftWrite rightWrite =>
      rw [← overlap_unique isLast overlap]
      exact ⟨⟨kept, rightWrite⟩, lost, leftWrite⟩

/-- In an overlap the last save decides the value; all events are emitted. -/
theorem Merged.of_overlap
    {key : Key} {left right : Update Value Event}
    {values after : Key → Option Value}
    {order : List (Side × Access)} {events : Multiset Event}
    (merged : Merged key left right values order after events)
    {last : Side} (overlap : Overlap last order) :
    after = put key ((last.pick left right).write (values key)) values ∧
      events = left.events (values key) + right.events (values key) := by
  cases merged with
  | leftFirst apart => exact absurd overlap (apart last)
  | rightFirst apart => exact absurd overlap (apart last)
  | leftLast lost kept isLast leftWrite rightWrite =>
      rw [← overlap_unique isLast overlap, Side.pick, leftWrite]
      exact ⟨rfl, rfl⟩
  | rightLast lost kept isLast leftWrite rightWrite =>
      rw [← overlap_unique isLast overlap, Side.pick, rightWrite]
      exact ⟨rfl, rfl⟩

end Store

end Foundation.Interaction
