import MultisiteCrawler.Foundation.Interaction
import Mathlib.Logic.Relation

/-!
# Transactions under locks which are held to the end

Any number of workers run one transaction each against a shared store.  A
transaction issues its statements one at a time.  Every statement sees the
committed store and the writes of its own transaction, may have to wait for
one lock, and acquires locks which are released when the transaction is
committed or rolled back.

What a transaction may do next depends on the statements it has issued and the
replies it got.  A `Discipline` says so, and `Reached.certified` derives what
holds in every state reached from what each statement and each commit keeps.
-/

namespace Foundation.Transactions

open Foundation.Interaction
open Foundation.Interaction.Program

/-! ## Statements -/

/-- The statements a transaction has issued, with their replies, in order. -/
abbrev History (Command : Type) (Reply : Command → Type) :=
  List ((command : Command) × Reply command)

/--
What statements read, write and lock.  A statement which demands a lock waits
until no other transaction holds it.
-/
structure Semantics (Command : Type) (Reply : Command → Type)
    (Store Write Lock : Type) where
  apply : Store → Write → Store
  demand : Command → Store → Option Lock
  Answers : (command : Command) → Store → Reply command → Prop
  effects : (command : Command) → Reply command → List Write
  acquires : (command : Command) → Reply command → List Lock

section Semantics

variable {Command : Type} {Reply : Command → Type}
variable {Store Write Lock : Type}
variable (semantics : Semantics Command Reply Store Write Lock)

namespace Semantics

/-- The writes of a transaction. -/
def writes (history : History Command Reply) : List Write :=
  history.flatMap fun entry => semantics.effects entry.1 entry.2

/-- The locks of a transaction. -/
def locks (history : History Command Reply) : List Lock :=
  history.flatMap fun entry => semantics.acquires entry.1 entry.2

/-- A store after writes. -/
def replay (store : Store) (writes : List Write) : Store :=
  writes.foldl semantics.apply store

/-- What the next statement of a transaction sees. -/
def view (store : Store) (history : History Command Reply) : Store :=
  semantics.replay store (semantics.writes history)

variable (store : Store) (history : History Command Reply)
variable {command : Command} (reply : Reply command)

@[simp]
theorem writes_nil : semantics.writes [] = [] := rfl

@[simp]
theorem locks_nil : semantics.locks [] = [] := rfl

@[simp]
theorem view_nil : semantics.view store [] = store := rfl

@[simp]
theorem writes_concat :
    semantics.writes (history ++ [⟨command, reply⟩]) =
      semantics.writes history ++ semantics.effects command reply := by
  simp [writes, List.flatMap_append]

@[simp]
theorem locks_concat :
    semantics.locks (history ++ [⟨command, reply⟩]) =
      semantics.locks history ++ semantics.acquires command reply := by
  simp [locks, List.flatMap_append]

/-- Locks are kept. -/
theorem mem_locks_of_initial
    {earlier later : History Command Reply} (grows : earlier <+: later)
    {lock : Lock} (member : lock ∈ semantics.locks earlier) :
    lock ∈ semantics.locks later := by
  rcases grows with ⟨more, rfl⟩
  rw [locks, List.flatMap_append]
  exact List.mem_append_left _ member

theorem view_concat :
    semantics.view store (history ++ [⟨command, reply⟩]) =
      semantics.replay (semantics.view store history)
        (semantics.effects command reply) := by
  simp [view, replay, List.foldl_append]

end Semantics

end Semantics

/-! ## Disciplines -/

/--
What a program may do after a history, which replies it may expect, and the
errors it may end with.
-/
structure Discipline (Command : Type) (Reply : Command → Type)
    (Error : Type) where
  Allowed : History Command Reply → Command → Prop
  Possible :
    History Command Reply → (command : Command) → Reply command → Prop
  Fails : History Command Reply → Error → Prop

section Discipline

variable {Command : Type} {Reply : Command → Type}
variable {Error Result Output : Type}

/-- Whatever is replied, the program only does what is allowed. -/
def Follows (discipline : Discipline Command Reply Error)
    (ends : History Command Reply → Result → Prop) :
    History Command Reply → Program Command Reply Error Result → Prop
  | history, .done result => ends history result
  | history, .fail error => discipline.Fails history error
  | history, .perform command next =>
      discipline.Allowed history command ∧
        ∀ reply : Reply command, discipline.Possible history command reply →
          Follows discipline ends (history ++ [⟨command, reply⟩]) (next reply)

variable {discipline : Discipline Command Reply Error}
variable {history : History Command Reply}

/-- One program after the other. -/
theorem Follows.bind
    {ends : History Command Reply → Output → Prop}
    {between : History Command Reply → Result → Prop}
    {program : Program Command Reply Error Result}
    {continuation : Result → Program Command Reply Error Output}
    (follows : Follows discipline between history program)
    (continues : ∀ later result, between later result →
      Follows discipline ends later (continuation result)) :
    Follows discipline ends history (program >>= continuation) := by
  induction program generalizing history with
  | done result => exact continues history result follows
  | fail error => exact follows
  | perform command next induction =>
      rcases follows with ⟨allowed, follows⟩
      refine ⟨allowed, ?_⟩
      intro reply possible
      exact induction reply (follows reply possible)

/-- A single statement. -/
theorem Follows.issue
    {command : Command}
    {ends : History Command Reply → Reply command → Prop}
    (allowed : discipline.Allowed history command)
    (ended : ∀ reply, discipline.Possible history command reply →
      ends (history ++ [⟨command, reply⟩]) reply) :
    Follows discipline ends history (.perform command .done) :=
  ⟨allowed, ended⟩

end Discipline

/-! ## Transactions -/

/-- A transaction of a worker. -/
inductive Transaction (Command : Type) (Reply : Command → Type)
    (Error Result : Type) where
  | active (program : Program Command Reply Error Result)
      (history : History Command Reply)
  | committed
  | rolledBack

/-- The committed store and the transactions. -/
structure State (Command : Type) (Reply : Command → Type)
    (Error Result Store Worker : Type) where
  store : Store
  transactions : Worker → Transaction Command Reply Error Result

section Steps

variable {Command : Type} {Reply : Command → Type}
variable {Error Result Store Write Lock Worker : Type}
variable (semantics : Semantics Command Reply Store Write Lock)

/-- The locks a transaction holds. -/
def Semantics.held :
    Transaction Command Reply Error Result → List Lock
  | .active _ history => semantics.locks history
  | .committed => []
  | .rolledBack => []

/-- Before the first statements. -/
def begin (store : Store)
    (programs : Worker → Program Command Reply Error Result) :
    State Command Reply Error Result Store Worker :=
  ⟨store, fun worker => .active (programs worker) []⟩

variable {semantics}

/-- No other worker holds the lock. -/
def Free (semantics : Semantics Command Reply Store Write Lock)
    (state : State Command Reply Error Result Store Worker)
    (worker : Worker) (lock : Lock) : Prop :=
  ∀ other, other ≠ worker → lock ∉ semantics.held (state.transactions other)

/-- The next statement of a worker waits for a lock another worker holds. -/
def Waits (semantics : Semantics Command Reply Store Write Lock)
    (state : State Command Reply Error Result Store Worker)
    (worker other : Worker) : Prop :=
  ∃ command next history,
    state.transactions worker = .active (.perform command next) history ∧
      ∃ lock ∈ semantics.demand command (semantics.view state.store history),
        other ≠ worker ∧ lock ∈ semantics.held (state.transactions other)

variable [DecidableEq Worker]

/-- Another transaction of one worker. -/
def State.set (state : State Command Reply Error Result Store Worker)
    (worker : Worker) (transaction : Transaction Command Reply Error Result) :
    State Command Reply Error Result Store Worker :=
  { state with
    transactions := Function.update state.transactions worker transaction }

section Set

variable (state : State Command Reply Error Result Store Worker)
variable {worker other : Worker}
variable (transaction : Transaction Command Reply Error Result)

@[simp]
theorem State.set_store : (state.set worker transaction).store = state.store :=
  rfl

@[simp]
theorem State.set_self :
    (state.set worker transaction).transactions worker = transaction :=
  Function.update_self _ _ _

theorem State.set_other (different : other ≠ worker) :
    (state.set worker transaction).transactions other =
      state.transactions other :=
  Function.update_of_ne different _ _

/-- Either the transaction was set, or it is as before. -/
theorem State.of_set
    {state : State Command Reply Error Result Store Worker}
    {transaction found : Transaction Command Reply Error Result}
    (isFound : (state.set worker transaction).transactions other = found) :
    (other = worker ∧ transaction = found) ∨
      (other ≠ worker ∧ state.transactions other = found) := by
  by_cases same : other = worker
  · rw [same, State.set_self] at isFound
    exact Or.inl ⟨same, isFound⟩
  · rw [State.set_other _ _ same] at isFound
    exact Or.inr ⟨same, isFound⟩

@[simp]
theorem State.set_set
    (later : Transaction Command Reply Error Result) :
    (state.set worker transaction).set worker later =
      state.set worker later := by
  simp [State.set]

theorem State.set_eq_self
    {state : State Command Reply Error Result Store Worker}
    {transaction : Transaction Command Reply Error Result}
    (same : state.transactions worker = transaction) :
    state.set worker transaction = state := by
  rw [← same]
  simp [State.set]

end Set

/-- One step of a worker. -/
inductive Step (semantics : Semantics Command Reply Store Write Lock)
    (state : State Command Reply Error Result Store Worker)
    (worker : Worker) :
    State Command Reply Error Result Store Worker → Prop where
  | perform {command : Command}
      {next : Reply command → Program Command Reply Error Result}
      {history : History Command Reply} (reply : Reply command)
      (active :
        state.transactions worker = .active (.perform command next) history)
      (granted :
        ∀ lock ∈ semantics.demand command (semantics.view state.store history),
          Free semantics state worker lock)
      (answers :
        semantics.Answers command (semantics.view state.store history) reply)
      (acquired :
        ∀ lock ∈ semantics.acquires command reply,
          Free semantics state worker lock) :
      Step semantics state worker
        (state.set worker
          (.active (next reply) (history ++ [⟨command, reply⟩])))
  | commit {result : Result} {history : History Command Reply}
      (active : state.transactions worker = .active (.done result) history) :
      Step semantics state worker
        { state.set worker .committed with
          store := semantics.view state.store history }
  | rollback {program : Program Command Reply Error Result}
      {history : History Command Reply}
      (active : state.transactions worker = .active program history) :
      Step semantics state worker (state.set worker .rolledBack)

/-- States reached by steps of any workers. -/
def Reached (semantics : Semantics Command Reply Store Write Lock) :
    State Command Reply Error Result Store Worker →
      State Command Reply Error Result Store Worker → Prop :=
  Relation.ReflTransGen fun before after =>
    ∃ worker, Step semantics before worker after

/-! ## Exclusive locks -/

/-- No two workers hold the same lock. -/
def Exclusive (semantics : Semantics Command Reply Store Write Lock)
    (state : State Command Reply Error Result Store Worker) : Prop :=
  ∀ worker, ∀ lock ∈ semantics.held (state.transactions worker),
    Free semantics state worker lock

section Exclusive

variable {state after : State Command Reply Error Result Store Worker}
variable {worker : Worker}

omit [DecidableEq Worker] in
theorem exclusive_begin (store : Store)
    (programs : Worker → Program Command Reply Error Result) :
    Exclusive semantics (begin store programs) := by
  intro worker lock member
  cases member

/-- A worker who takes free locks or releases its own keeps all exclusive. -/
theorem Exclusive.set
    {transaction : Transaction Command Reply Error Result}
    (exclusive : Exclusive semantics state)
    (free : ∀ lock ∈ semantics.held transaction,
      Free semantics state worker lock) :
    Exclusive semantics (state.set worker transaction) := by
  intro holder lock member other different held
  by_cases isWorker : holder = worker
  · subst isWorker
    rw [State.set_self] at member
    rw [State.set_other _ _ different] at held
    exact free lock member other different held
  · rw [State.set_other _ _ isWorker] at member
    by_cases otherIsWorker : other = worker
    · subst otherIsWorker
      rw [State.set_self] at held
      exact free lock held holder isWorker member
    · rw [State.set_other _ _ otherIsWorker] at held
      exact exclusive holder lock member other different held

theorem Exclusive.step
    (exclusive : Exclusive semantics state)
    (step : Step semantics state worker after) :
    Exclusive semantics after := by
  cases step with
  | @perform command next history reply active granted answers acquired =>
      refine exclusive.set ?_
      intro lock member
      rw [Semantics.held, Semantics.locks_concat] at member
      rcases List.mem_append.mp member with earlier | now
      · refine exclusive worker lock ?_
        rw [active]
        exact earlier
      · exact acquired lock now
  | commit active =>
      have released :
          Exclusive semantics (state.set worker .committed) :=
        exclusive.set (by rintro lock ⟨⟩)
      exact released
  | rollback active => exact exclusive.set (by rintro lock ⟨⟩)

/-- A property which every step keeps holds of every state reached. -/
theorem Reached.invariant
    (holds : State Command Reply Error Result Store Worker → Prop)
    (initial : holds state)
    (kept : ∀ before worker after, holds before →
      Step semantics before worker after → holds after)
    (reached : Reached semantics state after) : holds after := by
  induction reached with
  | refl => exact initial
  | tail _ step induction =>
      rcases step with ⟨worker, step⟩
      exact kept _ worker _ induction step

theorem Reached.exclusive
    {store : Store} {programs : Worker → Program Command Reply Error Result}
    (reached : Reached semantics (begin store programs) state) :
    Exclusive semantics state :=
  reached.invariant (Exclusive semantics) (exclusive_begin store programs)
    fun _ _ _ exclusive step => exclusive.step step

omit [DecidableEq Worker] in
/-- Locks of active transactions are disjoint. -/
theorem Exclusive.disjoint
    (exclusive : Exclusive semantics state)
    {worker other : Worker} (different : other ≠ worker)
    {program otherProgram : Program Command Reply Error Result}
    {history otherHistory : History Command Reply}
    (active : state.transactions worker = .active program history)
    (otherActive :
      state.transactions other = .active otherProgram otherHistory)
    {lock : Lock} (member : lock ∈ semantics.locks history) :
    lock ∉ semantics.locks otherHistory := by
  have held : lock ∈ semantics.held (state.transactions worker) := by
    rw [active]
    exact member
  have free := exclusive worker lock held other different
  rw [otherActive] at free
  exact free

end Exclusive

/-- An active transaction was active before, with a part of its history. -/
theorem Reached.grows
    {before after : State Command Reply Error Result Store Worker}
    {worker : Worker} (reached : Reached semantics before after) :
    ∀ program history,
      after.transactions worker = .active program history →
        ∃ earlier earlierHistory,
          before.transactions worker = .active earlier earlierHistory ∧
            earlierHistory <+: history := by
  refine reached.invariant (fun state => ∀ program history,
    state.transactions worker = .active program history →
      ∃ earlier earlierHistory,
        before.transactions worker = .active earlier earlierHistory ∧
          earlierHistory <+: history) ?_ ?_
  · intro program history active
    exact ⟨program, history, active, List.prefix_rfl⟩
  · intro between stepper later grown step program history active
    cases step with
    | @perform command next earlierHistory reply wasActive =>
        rcases State.of_set active with ⟨rfl, now⟩ | ⟨_, unchanged⟩
        · cases now
          rcases grown _ _ wasActive with
            ⟨earlier, firstHistory, isEarlier, isPrefix⟩
          exact ⟨earlier, firstHistory, isEarlier,
            isPrefix.trans (List.prefix_append _ _)⟩
        · exact grown program history unchanged
    | commit =>
        rcases State.of_set active with ⟨_, ⟨⟩⟩ | ⟨_, unchanged⟩
        exact grown program history unchanged
    | rollback =>
        rcases State.of_set active with ⟨_, ⟨⟩⟩ | ⟨_, unchanged⟩
        exact grown program history unchanged

/-! ## Certificates -/

section Certificates

variable {discipline : Worker → Discipline Command Reply Error}
variable {ends : Worker → History Command Reply → Result → Prop}

/-- Statements on a store keep what is known of a history. -/
def Keeps (semantics : Semantics Command Reply Store Write Lock)
    (discipline : Discipline Command Reply Error) (store : Store)
    (good : History Command Reply → Prop) : Prop :=
  ∀ history command reply, good history →
    discipline.Allowed history command →
    semantics.Answers command (semantics.view store history) reply →
      discipline.Possible history command reply ∧
        good (history ++ [⟨command, reply⟩])

/--
What holds of the committed store, of the histories of active transactions and
of the store after a worker has committed, kept by statements and by commits.
-/
structure Certificate (semantics : Semantics Command Reply Store Write Lock)
    (discipline : Worker → Discipline Command Reply Error)
    (ends : Worker → History Command Reply → Result → Prop)
    (sound : Store → Prop)
    (good : Worker → Store → History Command Reply → Prop)
    (completed : Worker → Store → Prop) : Prop where
  keeps : ∀ worker store, sound store →
    Keeps semantics (discipline worker) store (good worker store)
  commits : ∀ worker store history result, sound store →
    good worker store history → ends worker history result →
      sound (semantics.view store history) ∧
        completed worker (semantics.view store history)
  stable : ∀ worker store history result, sound store →
    good worker store history → ends worker history result →
      ∀ other, other ≠ worker →
        (completed other store →
          completed other (semantics.view store history)) ∧
        ∀ otherHistory, good other store otherHistory →
          (∀ lock ∈ semantics.locks history,
            lock ∉ semantics.locks otherHistory) →
          good other (semantics.view store history) otherHistory

/-- What a certificate certifies of a state. -/
structure Certified (semantics : Semantics Command Reply Store Write Lock)
    (discipline : Worker → Discipline Command Reply Error)
    (ends : Worker → History Command Reply → Result → Prop)
    (sound : Store → Prop)
    (good : Worker → Store → History Command Reply → Prop)
    (completed : Worker → Store → Prop)
    (state : State Command Reply Error Result Store Worker) : Prop where
  exclusive : Exclusive semantics state
  sound : sound state.store
  active : ∀ worker program history,
    state.transactions worker = .active program history →
      good worker state.store history ∧
        Follows (discipline worker) (ends worker) history program
  committed : ∀ worker, state.transactions worker = .committed →
    completed worker state.store

variable {sound : Store → Prop}
variable {good : Worker → Store → History Command Reply → Prop}
variable {completed : Worker → Store → Prop}
variable {state after : State Command Reply Error Result Store Worker}

theorem Certified.step
    (certificate :
      Certificate semantics discipline ends sound good completed)
    (certified :
      Certified semantics discipline ends sound good completed state)
    {worker : Worker} (step : Step semantics state worker after) :
    Certified semantics discipline ends sound good completed after := by
  have exclusive := certified.exclusive.step step
  cases step with
  | @perform command next history reply active granted answers acquired =>
      rcases certified.active worker _ history active with
        ⟨isGood, allowed, follows⟩
      rcases certificate.keeps worker state.store certified.sound history
          command reply isGood allowed answers with
        ⟨possible, stillGood⟩
      refine ⟨exclusive, certified.sound, ?_, ?_⟩
      · intro other program otherHistory otherActive
        rcases State.of_set otherActive with ⟨rfl, now⟩ | ⟨_, before⟩
        · cases now
          exact ⟨stillGood, follows reply possible⟩
        · exact certified.active other program otherHistory before
      · intro other otherCommitted
        rcases State.of_set otherCommitted with ⟨_, ⟨⟩⟩ | ⟨_, before⟩
        exact certified.committed other before
  | @commit result history active =>
      rcases certified.active worker _ history active with ⟨isGood, ended⟩
      rcases certificate.commits worker state.store history result
          certified.sound isGood ended with
        ⟨stillSound, isCompleted⟩
      have stable :=
        certificate.stable worker state.store history result
          certified.sound isGood ended
      refine ⟨exclusive, stillSound, ?_, ?_⟩
      · intro other program otherHistory otherActive
        rcases State.of_set otherActive with ⟨_, ⟨⟩⟩ | ⟨different, before⟩
        rcases certified.active other program otherHistory before with
          ⟨otherGood, otherFollows⟩
        refine ⟨(stable other different).2 otherHistory otherGood ?_,
          otherFollows⟩
        intro lock member
        exact certified.exclusive.disjoint different active before member
      · intro other otherCommitted
        rcases State.of_set otherCommitted with ⟨rfl, _⟩ | ⟨different, before⟩
        · exact isCompleted
        · exact (stable other different).1 (certified.committed other before)
  | rollback active =>
      refine ⟨exclusive, certified.sound, ?_, ?_⟩
      · intro other program otherHistory otherActive
        rcases State.of_set otherActive with ⟨_, ⟨⟩⟩ | ⟨_, before⟩
        exact certified.active other program otherHistory before
      · intro other otherCommitted
        rcases State.of_set otherCommitted with ⟨_, ⟨⟩⟩ | ⟨_, before⟩
        exact certified.committed other before

/-- A certificate holds of every state reached. -/
theorem Reached.certified
    {initial : Store} {programs : Worker → Program Command Reply Error Result}
    (certificate :
      Certificate semantics discipline ends sound good completed)
    (initialSound : sound initial)
    (initialGood : ∀ worker, good worker initial [])
    (follows : ∀ worker,
      Follows (discipline worker) (ends worker) [] (programs worker))
    (reached : Reached semantics (begin initial programs) state) :
    Certified semantics discipline ends sound good completed state := by
  refine reached.invariant
    (Certified semantics discipline ends sound good completed) ?_ ?_
  · refine ⟨exclusive_begin initial programs, initialSound, ?_, ?_⟩
    · rintro worker program history ⟨⟩
      exact ⟨initialGood worker, follows worker⟩
    · rintro worker ⟨⟩
  · intro before worker after certified step
    exact certified.step certificate step

/-- What is committed stays so. -/
theorem Step.nobody_before {worker : Worker}
    (step : Step semantics state worker after)
    (nobody : ∀ other, after.transactions other ≠ .committed) :
    ∀ other, state.transactions other ≠ .committed := by
  intro other committed
  have different : other ≠ worker := by
    rintro rfl
    cases step with
    | perform _ active => rw [active] at committed; cases committed
    | commit active => rw [active] at committed; cases committed
    | rollback active => rw [active] at committed; cases committed
  refine nobody other ?_
  cases step with
  | perform => rwa [State.set_other _ _ different]
  | commit =>
      have unchanged :=
        State.set_other state (.committed : Transaction ..) different
      exact unchanged.trans committed
  | rollback => rwa [State.set_other _ _ different]

/-- As long as nobody has committed, the store is the initial one. -/
structure Uncommitted (semantics : Semantics Command Reply Store Write Lock)
    (discipline : Worker → Discipline Command Reply Error)
    (ends : Worker → History Command Reply → Result → Prop)
    (initial : Store) (fits : Worker → History Command Reply → Prop)
    (state : State Command Reply Error Result Store Worker) : Prop where
  store : state.store = initial
  active : ∀ worker program history,
    state.transactions worker = .active program history →
      fits worker history ∧
        Follows (discipline worker) (ends worker) history program

/-- What statements on the initial store keep holds until a commit. -/
theorem Reached.uncommitted
    {initial : Store} {fits : Worker → History Command Reply → Prop}
    {programs : Worker → Program Command Reply Error Result}
    (keeps : ∀ worker,
      Keeps semantics (discipline worker) initial (fits worker))
    (initialFits : ∀ worker, fits worker [])
    (follows : ∀ worker,
      Follows (discipline worker) (ends worker) [] (programs worker))
    (reached : Reached semantics (begin initial programs) state)
    (nobody : ∀ worker, state.transactions worker ≠ .committed) :
    Uncommitted semantics discipline ends initial fits state := by
  revert nobody
  refine reached.invariant
    (fun state => (∀ worker, state.transactions worker ≠ .committed) →
      Uncommitted semantics discipline ends initial fits state) ?_ ?_
  · refine fun _ => ⟨rfl, ?_⟩
    rintro worker program history ⟨⟩
    exact ⟨initialFits worker, follows worker⟩
  · intro before worker after holds step nobody
    rcases holds (step.nobody_before nobody) with ⟨sameStore, fitting⟩
    cases step with
    | @perform command next history reply active granted answers acquired =>
        rcases fitting worker _ history active with
          ⟨isFitting, allowed, follows⟩
        rw [sameStore] at answers
        rcases keeps worker history command reply isFitting allowed
            answers with
          ⟨possible, stillFitting⟩
        refine ⟨sameStore, ?_⟩
        intro other program otherHistory otherActive
        rcases State.of_set otherActive with ⟨rfl, now⟩ | ⟨_, unchanged⟩
        · cases now
          exact ⟨stillFitting, follows reply possible⟩
        · exact fitting other program otherHistory unchanged
    | commit active =>
        exact absurd (State.set_self _ _) (nobody worker)
    | rollback active =>
        refine ⟨sameStore, ?_⟩
        intro other program otherHistory otherActive
        rcases State.of_set otherActive with ⟨_, ⟨⟩⟩ | ⟨_, unchanged⟩
        exact fitting other program otherHistory unchanged

end Certificates

/-! ## One worker running alone -/

section Alone

variable {state : State Command Reply Error Result Store Worker}
variable {worker : Worker}

/-- Every statement has a reply which does not need locks that are taken. -/
def Answerable (semantics : Semantics Command Reply Store Write Lock) :
    Prop :=
  ∀ command store (taken : List Lock), ∃ reply,
    semantics.Answers command store reply ∧
      ∀ lock ∈ semantics.acquires command reply,
        lock ∈ semantics.demand command store ∨ lock ∉ taken

/-- The program has ended, with a result or an error. -/
def Ended (program : Program Command Reply Error Result) : Prop :=
  (∃ result, program = .done result) ∨ ∃ error, program = .fail error

omit [DecidableEq Worker] in
/-- The locks of all workers. -/
theorem exists_taken [Fintype Worker]
    (semantics : Semantics Command Reply Store Write Lock)
    (state : State Command Reply Error Result Store Worker) :
    ∃ taken : List Lock, ∀ worker, ∀ lock,
      lock ∉ taken → Free semantics state worker lock := by
  refine
    ⟨(Finset.univ : Finset Worker).toList.flatMap fun worker =>
      semantics.held (state.transactions worker), ?_⟩
  intro worker lock notTaken other _ held
  refine notTaken (List.mem_flatMap.mpr ⟨other, ?_, held⟩)
  exact Finset.mem_toList.mpr (Finset.mem_univ other)

/--
A worker may run until it stops where it is asked to, ends, or waits for
another worker.  What its statements keep holds then.
-/
theorem exists_alone [Fintype Worker]
    (answerable : Answerable semantics)
    (stops : Program Command Reply Error Result → Prop)
    {keeps : Program Command Reply Error Result →
      History Command Reply → Prop}
    (kept : ∀ command next history reply,
      keeps (.perform command next) history →
      ¬ stops (.perform command next) →
      semantics.Answers command (semantics.view state.store history) reply →
        keeps (next reply) (history ++ [⟨command, reply⟩]))
    {program : Program Command Reply Error Result}
    {history : History Command Reply}
    (active : state.transactions worker = .active program history)
    (initial : keeps program history) :
    ∃ later laterHistory,
      Reached semantics state
          (state.set worker (.active later laterHistory)) ∧
        history <+: laterHistory ∧ keeps later laterHistory ∧
        (stops later ∨ Ended later ∨
          ∃ other, Waits semantics
            (state.set worker (.active later laterHistory)) worker other) := by
  classical
  induction program generalizing state history with
  | done result =>
      refine ⟨.done result, history, ?_, List.prefix_rfl, initial, ?_⟩
      · rw [State.set_eq_self active]
        exact Relation.ReflTransGen.refl
      · exact Or.inr (Or.inl (Or.inl ⟨result, rfl⟩))
  | fail error =>
      refine ⟨.fail error, history, ?_, List.prefix_rfl, initial, ?_⟩
      · rw [State.set_eq_self active]
        exact Relation.ReflTransGen.refl
      · exact Or.inr (Or.inl (Or.inr ⟨error, rfl⟩))
  | perform command next induction =>
      by_cases stopped : stops (.perform command next)
      · refine ⟨.perform command next, history, ?_, List.prefix_rfl, initial,
          Or.inl stopped⟩
        rw [State.set_eq_self active]
        exact Relation.ReflTransGen.refl
      · by_cases granted :
          ∀ lock ∈ semantics.demand command
              (semantics.view state.store history),
            Free semantics state worker lock
        · rcases exists_taken semantics state with ⟨taken, free⟩
          rcases answerable command (semantics.view state.store history)
              taken with
            ⟨reply, answers, acquires⟩
          have step :
              Step semantics state worker
                (state.set worker
                  (.active (next reply) (history ++ [⟨command, reply⟩]))) := by
            refine .perform reply active granted answers ?_
            intro lock member
            rcases acquires lock member with demanded | notTaken
            · exact granted lock demanded
            · exact free worker lock notTaken
          have nowActive :
              (state.set worker (.active (next reply)
                  (history ++ [⟨command, reply⟩]))).transactions worker =
                .active (next reply) (history ++ [⟨command, reply⟩]) :=
            State.set_self _ _
          rcases @induction reply
              (state.set worker
                (.active (next reply) (history ++ [⟨command, reply⟩])))
              kept _ nowActive
              (kept command next history reply initial stopped answers) with
            ⟨later, laterHistory, reached, grows, isKept, stop⟩
          rw [State.set_set] at reached stop
          refine ⟨later, laterHistory, ?_, ?_, isKept, stop⟩
          · exact Relation.ReflTransGen.head ⟨worker, step⟩ reached
          · exact (List.prefix_append _ _).trans grows
        · refine ⟨.perform command next, history, ?_, List.prefix_rfl,
            initial, Or.inr (Or.inr ?_)⟩
          · rw [State.set_eq_self active]
            exact Relation.ReflTransGen.refl
          · rw [State.set_eq_self active]
            simp only [Free, not_forall, not_not] at granted
            rcases granted with ⟨lock, demanded, other, different, held⟩
            exact ⟨other, command, next, history, active, lock, demanded,
              different, held⟩

/-- A worker still waits when the other one has run on. -/
theorem Waits.set
    {other : Worker} {program later : Program Command Reply Error Result}
    {history laterHistory : History Command Reply}
    (waits : Waits semantics state worker other)
    (active : state.transactions other = .active program history)
    (grows : history <+: laterHistory) :
    Waits semantics (state.set other (.active later laterHistory)) worker
      other := by
  rcases waits with
    ⟨command, next, ownHistory, ownActive, lock, demanded, different, held⟩
  refine ⟨command, next, ownHistory, ?_, lock, demanded, different, ?_⟩
  · rw [State.set_other _ _ (Ne.symm different)]
    exact ownActive
  · rw [active] at held
    rw [State.set_self]
    exact semantics.mem_locks_of_initial grows held

end Alone

end Steps

end Foundation.Transactions
