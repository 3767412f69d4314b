import MultisiteCrawler.Foundation.Processes

/-!
# Clients of one server

Operations of several kinds of clients share a server, are started at any
time, and take turns command by command while time passes.  A kind has commands
which it may issue; they do to the server what they would do to a store of the
kind's own, and leave what the server holds for the other kinds as it is.  Then
no kind can tell the shared server from a store of its own.
-/

namespace Foundation.SharedServer

open Foundation.Interaction
open Foundation.Interaction.Program
open Foundation.Processes

/-! ## Programs of one kind on a store of their own -/

section Alone

variable {Time Command State Error Result Operation : Type}
variable {Reply : Command → Type}

/--
The operations started until some time, each with what is left of its program,
and the store they share.  What a command does may depend on the time.
-/
inductive Alone [LE Time] (handler : Time → Handler Command Reply State)
    (program : Operation → Program Command Reply Error Result)
    (started : Time) (initial : State) :
    List (Operation × Program Command Reply Error Result) → Time → State →
      Prop where
  | nothing : Alone handler program started initial [] started initial
  | start
      {running : List (Operation × Program Command Reply Error Result)}
      {now : Time} {state : State} (operation : Operation)
      (alone : Alone handler program started initial running now state) :
      Alone handler program started initial
        ((operation, program operation) :: running) now state
  | step
      {before after : List (Operation × Program Command Reply Error Result)}
      {operation : Operation} {command : Command}
      {next : Reply command → Program Command Reply Error Result}
      {now : Time} {state : State}
      (alone :
        Alone handler program started initial
          (before ++ (operation, perform command next) :: after) now state) :
      Alone handler program started initial
        (before ++ (operation, next (handler now command state).1) :: after)
        now (handler now command state).2
  | wait
      {running : List (Operation × Program Command Reply Error Result)}
      {now : Time} {state : State}
      (later : Time) (ordered : now ≤ later)
      (alone : Alone handler program started initial running now state) :
      Alone handler program started initial running later state

/-- Three programs one after the other. -/
theorem bind_bind {Output Final : Type}
    (first : Program Command Reply Error Result)
    (second : Result → Program Command Reply Error Output)
    (third : Output → Program Command Reply Error Final) :
    first >>= second >>= third =
      first >>= fun result => second result >>= third :=
  Program.bind_assoc first second third

variable {program : Operation → Program Command Reply Error Result}

/-- Where the time does not matter, the programs merely take turns. -/
theorem Alone.reached [LE Time] {handler : Handler Command Reply State}
    {started now : Time} {initial state : State}
    {running : List (Operation × Program Command Reply Error Result)}
    (alone :
      Alone (fun _ => handler) program started initial running now state) :
    Processes.Reached handler
      (fun offered => ∃ operation, offered = program operation) initial
      (running.map Prod.snd) state := by
  induction alone with
  | nothing => exact .nothing
  | start operation alone induction =>
      exact .start (program operation) ⟨operation, rfl⟩ induction
  | step alone induction =>
      rw [List.map_append, List.map_cons] at induction ⊢
      exact .step induction
  | wait later ordered alone induction => exact induction

/-- Every command of the program is permitted, whatever it is answered. -/
def Confined (permitted : Command → Prop) :
    Program Command Reply Error Result → Prop
  | .done _ => True
  | .fail _ => True
  | .perform command next =>
      permitted command ∧ ∀ reply, Confined permitted (next reply)

theorem confined_bind {Output : Type} {permitted : Command → Prop}
    {first : Program Command Reply Error Result}
    {continuation : Result → Program Command Reply Error Output}
    (firstConfined : Confined permitted first)
    (rest : ∀ result, Confined permitted (continuation result)) :
    Confined permitted (first >>= continuation) := by
  induction first with
  | done result => exact rest result
  | fail error => trivial
  | perform command next induction =>
      exact
        ⟨firstConfined.1,
          fun reply => induction reply (firstConfined.2 reply)⟩

theorem confined_ofOutcome
    (permitted : Command → Prop) (outcome : Except Error Result) :
    Confined permitted
      (ofOutcome outcome : Program Command Reply Error Result) := by
  cases outcome <;> trivial

/--
The program keeps a property of the time and the store and ends as it may:
whenever the property holds as a command is given, it holds after the command,
and so on with what follows.
-/
def Safe (handler : Time → Handler Command Reply State)
    (valid : Time → State → Prop) (ends : Except Error Result → Prop) :
    Program Command Reply Error Result → Prop
  | .done result => ends (.ok result)
  | .fail error => ends (.error error)
  | .perform command next =>
      ∀ now state, valid now state →
        valid now (handler now command state).2 ∧
          Safe handler valid ends (next (handler now command state).1)

section Safe

variable {handler : Time → Handler Command Reply State}
variable {valid : Time → State → Prop}

theorem safe_ofOutcome
    {ends : Except Error Result → Prop} {outcome : Except Error Result}
    (mayEnd : ends outcome) :
    Safe handler valid ends
      (ofOutcome outcome : Program Command Reply Error Result) := by
  cases outcome <;> exact mayEnd

/-- What follows may rely on the result of what went before. -/
theorem safe_bind {Output : Type}
    {between : Except Error Result → Prop} {ends : Except Error Output → Prop}
    {first : Program Command Reply Error Result}
    {continuation : Result → Program Command Reply Error Output}
    (firstSafe : Safe handler valid between first)
    (rest : ∀ result, between (.ok result) →
      Safe handler valid ends (continuation result))
    (fails : ∀ error, between (.error error) → ends (.error error)) :
    Safe handler valid ends (first >>= continuation) := by
  induction first with
  | done result => exact rest result firstSafe
  | fail error => exact fails error firstSafe
  | perform command next induction =>
      intro now state isValid
      rcases firstSafe now state isValid with ⟨validAfter, safe⟩
      exact ⟨validAfter, induction _ safe⟩

theorem Safe.mono
    {ends more : Except Error Result → Prop}
    {program : Program Command Reply Error Result}
    (safe : Safe handler valid ends program)
    (implies : ∀ outcome, ends outcome → more outcome) :
    Safe handler valid more program := by
  induction program with
  | done result => exact implies _ safe
  | fail error => exact implies _ safe
  | perform command next induction =>
      intro now state isValid
      rcases safe now state isValid with ⟨validAfter, continues⟩
      exact ⟨validAfter, induction _ continues⟩

/-- A program which is safe ends, if it does, as it may. -/
theorem Safe.ended
    {ends : Except Error Result → Prop} {outcome : Except Error Result}
    (safe :
      Safe handler valid ends
        (ofOutcome outcome : Program Command Reply Error Result)) :
    ends outcome := by
  cases outcome <;> exact safe

end Safe

/-- What every operation keeps holds of every store reached. -/
theorem Alone.safe [LE Time]
    {handler : Time → Handler Command Reply State}
    {valid : Time → State → Prop}
    {ends : Operation → Except Error Result → Prop} {started now : Time}
    {initial state : State}
    {running : List (Operation × Program Command Reply Error Result)}
    (alone : Alone handler program started initial running now state)
    (allSafe : ∀ operation,
      Safe handler valid (ends operation) (program operation))
    (lasts : ∀ now later state, now ≤ later → valid now state →
      valid later state)
    (initialValid : valid started initial) :
    valid now state ∧
      ∀ task ∈ running, Safe handler valid (ends task.1) task.2 := by
  induction alone with
  | nothing => exact ⟨initialValid, List.forall_mem_nil _⟩
  | start operation alone induction =>
      exact
        ⟨induction.1,
          List.forall_mem_cons.mpr ⟨allSafe operation, induction.2⟩⟩
  | @step before after operation command next now state alone induction =>
      rcases induction with ⟨stateValid, tasksSafe⟩
      rw [List.forall_mem_append, List.forall_mem_cons] at tasksSafe ⊢
      rcases tasksSafe with ⟨beforeSafe, current, afterSafe⟩
      rcases current now state stateValid with ⟨validAfter, safe⟩
      exact ⟨validAfter, beforeSafe, safe, afterSafe⟩
  | wait later ordered alone induction =>
      exact ⟨lasts _ later _ ordered induction.1, induction.2⟩

end Alone

/-! ## Programs on a store of values -/

section Store

variable {Time Key Value Event Answer Error Result : Type} [DecidableEq Key]
variable {valid : Key → Value → Prop}
variable {answer : List Event → Event → Answer}

variable (Time answer valid) in
/-- The program writes only valid values and ends as it may. -/
abbrev StoreSafe (ends : Except Error Result → Prop)
    (program : StoreProgram Key Value Event Answer Error Result) : Prop :=
  Safe (fun _ : Time => storeHandler answer)
    (fun _ state => AllValid valid state.values) ends program

/-- A value is replaced by a valid one, or removed. -/
theorem allValid_update {values : Key → Option Value}
    (allValid : AllValid valid values) {key : Key} {written : Option Value}
    (isValid : ∀ value ∈ written, valid key value) :
    AllValid valid (Function.update values key written) := by
  intro other value isStored
  by_cases same : other = key
  · subst same
    rw [Function.update_self] at isStored
    exact isValid value isStored
  · rw [Function.update_of_ne same] at isStored
    exact allValid other value isStored

theorem safe_get (key : Key) :
    StoreSafe Time valid answer
      (fun outcome => ∃ read, outcome = .ok read ∧
        ∀ value ∈ read, valid key value)
      (StoreProgram.get key :
        StoreProgram Key Value Event Answer Error (Option Value)) :=
  fun _ state isValid => ⟨isValid, state.values key, rfl, isValid key⟩

theorem safe_set {key : Key} {value : Value} (isValid : valid key value)
    (expiry : Option ℕ) :
    StoreSafe Time valid answer
      (fun outcome => outcome = .ok ())
      (StoreProgram.set key value expiry :
        StoreProgram Key Value Event Answer Error Unit) := by
  intro _ state allValid
  refine ⟨allValid_update allValid ?_, rfl⟩
  rintro other ⟨⟩
  exact isValid

theorem safe_emit (event : Event) :
    StoreSafe Time valid answer
      (fun outcome => ∃ events, outcome = .ok (answer events event))
      (StoreProgram.emit event :
        StoreProgram Key Value Event Answer Error Answer) :=
  fun _ state isValid => ⟨isValid, state.events, rfl⟩

end Store

/-! ## Kinds of clients -/

/--
The kinds of clients of a server.  A command the server refuses has no reply;
a permitted one is answered as on the kind's own store, and does not touch
what the server holds for another kind.
-/
structure Clients (Kind Time State : Type) where
  Command : Kind → Type
  Reply : (kind : Kind) → Command kind → Type
  Own : Kind → Type
  /-- What the server does with a command. -/
  serve :
    (kind : Kind) → Time → (command : Command kind) → State →
      Option (Reply kind command × State)
  /-- What a store of the kind's own does with it. -/
  own : (kind : Kind) → Time → Handler (Command kind) (Reply kind) (Own kind)
  Permitted : (kind : Kind) → Command kind → Prop
  Holds : (kind : Kind) → State → Own kind → Prop
  serve_own :
    ∀ kind now command state store,
      Permitted kind command → Holds kind state store →
        ∃ after,
          serve kind now command state =
              some ((own kind now command store).1, after) ∧
            Holds kind after (own kind now command store).2
  serve_frame :
    ∀ kind now command state reply after,
      Permitted kind command →
        serve kind now command state = some (reply, after) →
          ∀ other, other ≠ kind →
            ∀ store, Holds other state store → Holds other after store

namespace Clients

variable {Kind Time State : Type} [DecidableEq Kind] [LE Time]
variable (clients : Clients Kind Time State)
variable (Error Result : Kind → Type)

/-- The programs of a kind. -/
abbrev ProgramOf (kind : Kind) : Type :=
  Program (clients.Command kind) (clients.Reply kind) (Error kind)
    (Result kind)

variable {Error Result} {Operation : Kind → Type}

/-- The operations of every kind, each with what is left of its program. -/
abbrev Running (Error Result Operation : Kind → Type) : Type :=
  (kind : Kind) → List (Operation kind × clients.ProgramOf Error Result kind)

/--
The operations of all kinds started until some time and the server they share.
A program whose command the server refuses is not run any further.
-/
inductive Reached
    (program :
      (kind : Kind) → Operation kind → clients.ProgramOf Error Result kind)
    (started : Time) (initial : State) :
    clients.Running Error Result Operation → Time → State → Prop where
  | nothing : Reached program started initial (fun _ => []) started initial
  | start
      {running : clients.Running Error Result Operation}
      {now : Time} {state : State} (kind : Kind)
      (operation : Operation kind)
      (reached : Reached program started initial running now state) :
      Reached program started initial
        (Function.update running kind
          ((operation, program kind operation) :: running kind))
        now state
  | step
      {running : clients.Running Error Result Operation}
      {now : Time} {state after : State} (kind : Kind)
      {earlier others :
        List (Operation kind × clients.ProgramOf Error Result kind)}
      {operation : Operation kind} {command : clients.Command kind}
      {next :
        clients.Reply kind command → clients.ProgramOf Error Result kind}
      {reply : clients.Reply kind command}
      (isRunning :
        running kind =
          earlier ++ (operation, perform command next) :: others)
      (isServed :
        clients.serve kind now command state = some (reply, after))
      (reached : Reached program started initial running now state) :
      Reached program started initial
        (Function.update running kind
          (earlier ++ (operation, next reply) :: others))
        now after
  | refuse
      {running : clients.Running Error Result Operation}
      {now : Time} {state : State} (kind : Kind)
      {earlier others :
        List (Operation kind × clients.ProgramOf Error Result kind)}
      {operation : Operation kind} {command : clients.Command kind}
      {next :
        clients.Reply kind command → clients.ProgramOf Error Result kind}
      (isRunning :
        running kind =
          earlier ++ (operation, perform command next) :: others)
      (isRefused : clients.serve kind now command state = none)
      (reached : Reached program started initial running now state) :
      Reached program started initial
        (Function.update running kind (earlier ++ others)) now state
  | wait
      {running : clients.Running Error Result Operation}
      {now : Time} {state : State}
      (later : Time) (ordered : now ≤ later)
      (reached : Reached program started initial running now state) :
      Reached program started initial running later state

/-- What a kind sees of a moment of a shared run: a moment of its own. -/
structure Sees
    (program :
      (kind : Kind) → Operation kind → clients.ProgramOf Error Result kind)
    (started : Time) (initial : (kind : Kind) → clients.Own kind)
    (running : clients.Running Error Result Operation)
    (now : Time) (state : State) (kind : Kind) (store : clients.Own kind) :
    Prop where
  alone :
    Alone (clients.own kind) (program kind) started (initial kind)
      (running kind) now store
  holds : clients.Holds kind state store
  confined :
    ∀ task ∈ running kind, Confined (clients.Permitted kind) task.2

variable {clients}
variable {program :
  (kind : Kind) → Operation kind → clients.ProgramOf Error Result kind}
variable {started now : Time} {initial state : State}
variable {initialStores : (kind : Kind) → clients.Own kind}
variable {running : clients.Running Error Result Operation}

/--
At every moment of a shared run, every kind is at a moment of a run on a store
of its own: the same programs have been given the same replies.
-/
theorem Reached.sees
    (reached : clients.Reached program started initial running now state)
    (confined : ∀ kind operation,
      Confined (clients.Permitted kind) (program kind operation))
    (initialHolds : ∀ kind,
      clients.Holds kind initial (initialStores kind))
    (kind : Kind) :
    ∃ store,
      clients.Sees program started initialStores running now state kind
        store := by
  induction reached generalizing kind with
  | nothing =>
      exact
        ⟨initialStores kind, .nothing, initialHolds kind,
          List.forall_mem_nil _⟩
  | @start running now state started operation reached induction =>
      rcases induction kind with ⟨store, alone, holds, allConfined⟩
      by_cases same : kind = started
      · subst same
        refine ⟨store, ?_, holds, ?_⟩
        · rw [Function.update_self]
          exact alone.start operation
        · rw [Function.update_self]
          exact
            List.forall_mem_cons.mpr
              ⟨confined kind operation, allConfined⟩
      · refine ⟨store, ?_, holds, ?_⟩
        · rw [Function.update_of_ne same]
          exact alone
        · rw [Function.update_of_ne same]
          exact allConfined
  | @step running now state after acting earlier others operation command
      next reply isRunning isServed reached induction =>
      rcases induction acting with ⟨acted, alone, holds, allConfined⟩
      rw [isRunning] at alone allConfined
      rw [List.forall_mem_append, List.forall_mem_cons] at allConfined
      rcases allConfined with ⟨earlierConfined, current, othersConfined⟩
      rcases clients.serve_own acting now command state acted current.1 holds
        with ⟨served, isOwn, holdsAfter⟩
      rw [isServed] at isOwn
      rcases Prod.mk.inj (Option.some.inj isOwn) with ⟨rfl, rfl⟩
      by_cases same : kind = acting
      · subst same
        refine ⟨(clients.own kind now command acted).2, ?_, holdsAfter, ?_⟩
        · rw [Function.update_self]
          exact alone.step
        · rw [Function.update_self, List.forall_mem_append,
            List.forall_mem_cons]
          exact ⟨earlierConfined, current.2 _, othersConfined⟩
      · rcases induction kind with ⟨store, ownAlone, ownHolds, ownConfined⟩
        refine
          ⟨store, ?_,
            clients.serve_frame acting now command state _ after current.1
              isServed kind same store ownHolds, ?_⟩
        · rw [Function.update_of_ne same]
          exact ownAlone
        · rw [Function.update_of_ne same]
          exact ownConfined
  | @refuse running now state acting earlier others operation command next
      isRunning isRefused reached induction =>
      -- The server answers every permitted command.
      rcases induction acting with ⟨acted, _, holds, allConfined⟩
      rw [isRunning, List.forall_mem_append, List.forall_mem_cons]
        at allConfined
      rcases clients.serve_own acting now command state acted
        allConfined.2.1.1 holds with ⟨served, isServed, _⟩
      rw [isRefused] at isServed
      cases isServed
  | @wait running now state later ordered reached induction =>
      rcases induction kind with ⟨store, alone, holds, allConfined⟩
      exact ⟨store, alone.wait later ordered, holds, allConfined⟩

omit [DecidableEq Kind] in
/-- The server refuses no command of a running program. -/
theorem Sees.isServed {kind : Kind} {store : clients.Own kind}
    (sees :
      clients.Sees program started initialStores running now state kind
        store)
    {operation : Operation kind} {command : clients.Command kind}
    {next :
      clients.Reply kind command → clients.ProgramOf Error Result kind}
    (member : (operation, perform command next) ∈ running kind) :
    ∃ after,
      clients.serve kind now command state =
        some ((clients.own kind now command store).1, after) := by
  rcases clients.serve_own kind now command state store
    (sees.confined _ member).1 sees.holds with ⟨after, isServed, _⟩
  exact ⟨after, isServed⟩

/-- Every run of one kind on a store of its own is possible on the server. -/
theorem reached_of_alone {kind : Kind} {first store : clients.Own kind}
    {tasks : List (Operation kind × clients.ProgramOf Error Result kind)}
    (confined : ∀ operation,
      Confined (clients.Permitted kind) (program kind operation))
    (initialHolds : clients.Holds kind initial first)
    (alone :
      Alone (clients.own kind) (program kind) started first tasks now
        store) :
    ∃ state,
      clients.Reached program started initial
          (Function.update (fun _ => []) kind tasks) now state ∧
        clients.Holds kind state store ∧
        ∀ task ∈ tasks, Confined (clients.Permitted kind) task.2 := by
  induction alone with
  | nothing =>
      refine ⟨initial, ?_, initialHolds, List.forall_mem_nil _⟩
      rw [Function.update_eq_self]
      exact .nothing
  | @start running now store operation alone induction =>
      rcases induction with ⟨state, reached, holds, allConfined⟩
      have shared := reached.start kind operation
      rw [Function.update_idem, Function.update_self] at shared
      exact
        ⟨state, shared, holds,
          List.forall_mem_cons.mpr ⟨confined operation, allConfined⟩⟩
  | @step before after operation command next now store alone induction =>
      rcases induction with ⟨state, reached, holds, allConfined⟩
      rw [List.forall_mem_append, List.forall_mem_cons] at allConfined
      rcases allConfined with ⟨beforeConfined, current, afterConfined⟩
      rcases clients.serve_own kind now command state store current.1 holds
        with ⟨served, isServed, holdsAfter⟩
      have shared :=
        reached.step kind (Function.update_self _ _ _) isServed
      rw [Function.update_idem] at shared
      refine ⟨served, shared, holdsAfter, ?_⟩
      rw [List.forall_mem_append, List.forall_mem_cons]
      exact ⟨beforeConfined, current.2 _, afterConfined⟩
  | @wait running now store later ordered alone induction =>
      rcases induction with ⟨state, reached, holds, allConfined⟩
      exact ⟨state, reached.wait later ordered, holds, allConfined⟩

end Clients

end Foundation.SharedServer
