import MultisiteCrawler.Foundation.Interaction

/-!
# Serial orders of short programs

Any number of programs share a store.  Each of them reads one key and then
writes at most once, or writes without reading.  If every write is one which
its program would also make if it read the key now, then the programs do what
they do when they are run one after the other, in the order in which they end.
-/

namespace Foundation.SerialOrder

open Foundation.Interaction
open Foundation.Interaction.Program

section Programs

variable {Index Key Value Event Answer Error Result : Type}

/-! ## Short programs -/

/-- A program which ends with its next write. -/
def Writing (program : StoreProgram Key Value Event Answer Error Result) :
    Prop :=
  ∃ (key : Key) (value : Value) (expiry : Option ℕ)
    (outcome : Except Error Result),
    program = perform (.set key value expiry) fun _ => ofOutcome outcome

/-- A program which has ended, or ends with its next write. -/
def Ending (program : StoreProgram Key Value Event Answer Error Result) :
    Prop :=
  (∃ outcome, program = ofOutcome outcome) ∨ Writing program

/-- A program which reads a key before it ends, or writes at once. -/
def Short (program : StoreProgram Key Value Event Answer Error Result) :
    Prop :=
  (∃ (key : Key)
    (next : Option Value → StoreProgram Key Value Event Answer Error Result),
    program = perform (.get key) next ∧ ∀ value, Ending (next value)) ∨
    Writing program

theorem ofOutcome_ne_perform
    {outcome : Except Error Result} {command : StoreCommand Key Value Event}
    {next :
      command.Reply Answer →
        StoreProgram Key Value Event Answer Error Result} :
    ofOutcome outcome ≠ perform command next := by
  cases outcome <;> rintro ⟨⟩

/-! ## Programs in progress -/

/-- Programs in progress, what each has read, and the store. -/
structure Progress (Index Key Value Event Answer Error Result : Type) where
  programs : Index → StoreProgram Key Value Event Answer Error Result
  loaded : Index → Option Value
  state : StoreState Key Value Event

section Waiting

variable
  (start : Index → StoreProgram Key Value Event Answer Error Result)
variable (progress : Progress Index Key Value Event Answer Error Result)

/-- A program has not begun, or knows what it has read. -/
def Waits (index : Index) : Prop :=
  progress.programs index = start index ∨
    ∃ key next, start index = perform (.get key) next ∧
      progress.programs index = next (progress.loaded index)

/-- A program would do the same if it read now. -/
def Current (index : Index) : Prop :=
  ∀ key next, start index = perform (.get key) next →
    next (progress.loaded index) = next (progress.state.values key)

variable {start progress}

/-- Another program has not moved. -/
theorem Waits.of_same
    {after : Progress Index Key Value Event Answer Error Result}
    {other : Index} (waits : Waits start progress other)
    (program : after.programs other = progress.programs other)
    (loaded : after.loaded other = progress.loaded other) :
    Waits start after other := by
  unfold Waits
  rw [program, loaded]
  exact waits

end Waiting

/-! ## One program after the other -/

section OneAfterTheOther

variable [DecidableEq Key] (answer : List Event → Event → Answer)
variable (start : Index → StoreProgram Key Value Event Answer Error Result)

/-- The store after running programs one after the other. -/
def serialState (initial : StoreState Key Value Event)
    (order : List Index) : StoreState Key Value Event :=
  order.foldl
    (fun state index => ((start index).run (storeHandler answer) state).2)
    initial

/-- The outcome of a program which is run after others. -/
def serialOutcome (initial : StoreState Key Value Event)
    (before : List Index) (index : Index) : Except Error Result :=
  ((start index).run (storeHandler answer)
    (serialState answer start initial before)).1

theorem serialState_concat
    (initial : StoreState Key Value Event) (order : List Index)
    (index : Index) :
    serialState answer start initial (order ++ [index]) =
      ((start index).run (storeHandler answer)
        (serialState answer start initial order)).2 :=
  List.foldl_concat _ _ _ _

end OneAfterTheOther

/-! ## Serial orders -/

variable [DecidableEq Key] (answer : List Event → Event → Answer)
variable (start : Index → StoreProgram Key Value Event Answer Error Result)

/-- The programs which have ended did what they do in this order. -/
structure Serial (initial : StoreState Key Value Event)
    (progress : Progress Index Key Value Event Answer Error Result)
    (order : List Index) : Prop where
  nodup : order.Nodup
  mem_iff : ∀ index, index ∈ order ↔
    ∃ outcome, progress.programs index = ofOutcome outcome
  state : progress.state = serialState answer start initial order
  outcome : ∀ before index after, order = before ++ index :: after →
    progress.programs index =
      ofOutcome (serialOutcome answer start initial before index)

variable {answer start} {initial : StoreState Key Value Event}
variable {progress after : Progress Index Key Value Event Answer Error Result}
variable {order : List Index} {index : Index}

/-- A program which ends as if run now is the next one of the order. -/
theorem Serial.commit
    (serial : Serial answer start initial progress order)
    (isNew : index ∉ order)
    (others : ∀ other ≠ index,
      after.programs other = progress.programs other)
    (state : after.state =
      ((start index).run (storeHandler answer) progress.state).2)
    (outcome : after.programs index =
      ofOutcome
        ((start index).run (storeHandler answer) progress.state).1) :
    Serial answer start initial after (order ++ [index]) := by
  rw [serial.state] at state outcome
  constructor
  · rw [List.nodup_append]
    refine ⟨serial.nodup, List.nodup_singleton _, ?_⟩
    intro first isFirst second isSecond same
    cases List.mem_singleton.mp isSecond
    rw [same] at isFirst
    exact isNew isFirst
  · intro other
    rw [List.mem_append, List.mem_singleton]
    by_cases same : other = index
    · subst same
      exact iff_of_true (Or.inr rfl) ⟨_, outcome⟩
    · rw [others other same, ← serial.mem_iff]
      exact or_iff_left same
  · rw [serialState_concat]
    exact state
  · intro before other rest split
    rcases List.eq_nil_or_concat rest with rfl | ⟨front, last, rfl⟩
    · have parts := List.append_inj' split rfl
      cases parts.2
      rw [← parts.1]
      exact outcome
    · rw [List.concat_eq_append, ← List.cons_append, ← List.append_assoc]
        at split
      have parts := List.append_inj' split rfl
      have different : other ≠ index := by
        rintro rfl
        apply isNew
        rw [parts.1]
        exact List.mem_append_right _ List.mem_cons_self
      rw [others other different]
      exact serial.outcome before other front parts.1

/-- A program which has not ended leaves the order as it is. -/
theorem Serial.pass
    (serial : Serial answer start initial progress order)
    (isNew : index ∉ order)
    (others : ∀ other ≠ index,
      after.programs other = progress.programs other)
    (state : after.state = progress.state)
    (running : ∀ outcome, after.programs index ≠ ofOutcome outcome) :
    Serial answer start initial after order := by
  refine ⟨serial.nodup, ?_, state.trans serial.state, ?_⟩
  · intro other
    by_cases same : other = index
    · subst same
      refine iff_of_false isNew ?_
      rintro ⟨outcome, ended⟩
      exact running outcome ended
    · rw [others other same]
      exact serial.mem_iff other
  · intro before other rest split
    have different : other ≠ index := by
      rintro rfl
      apply isNew
      rw [split]
      exact List.mem_append_right _ List.mem_cons_self
    rw [others other different]
    exact serial.outcome before other rest split

/-- The programs which have not ended wait. -/
structure Ordered (answer : List Event → Event → Answer)
    (start : Index → StoreProgram Key Value Event Answer Error Result)
    (initial : StoreState Key Value Event)
    (progress : Progress Index Key Value Event Answer Error Result)
    (order : List Index) : Prop where
  serial : Serial answer start initial progress order
  waits : ∀ index ∉ order, Waits start progress index

/-- Nothing has ended at first. -/
theorem ordered_initially
    (short : ∀ index, Short (start index)) :
    Ordered answer start initial ⟨start, fun _ => none, initial⟩ [] := by
  refine ⟨⟨List.nodup_nil, ?_, rfl, ?_⟩, ?_⟩
  · intro index
    refine iff_of_false List.not_mem_nil ?_
    rintro ⟨outcome, ended⟩
    rcases short index with ⟨key, next, reads, _⟩ | ⟨_, _, _, _, writes⟩
    · exact ofOutcome_ne_perform (ended.symm.trans reads)
    · exact ofOutcome_ne_perform (ended.symm.trans writes)
  · intro before index after split
    have noMember : index ∈ ([] : List Index) := by
      rw [split]
      exact List.mem_append_right _ List.mem_cons_self
    cases noMember
  · intro index _
    exact Or.inl rfl

/-- A program which is about to issue a command has not ended. -/
theorem Serial.not_mem
    (serial : Serial answer start initial progress order)
    {command : StoreCommand Key Value Event}
    {next :
      command.Reply Answer →
        StoreProgram Key Value Event Answer Error Result}
    (isNext : progress.programs index = perform command next) :
    index ∉ order := by
  intro member
  rcases (serial.mem_iff index).mp member with ⟨outcome, ended⟩
  rw [ended] at isNext
  exact ofOutcome_ne_perform isNext

/-- A program which ends is the next one of the order. -/
theorem Ordered.commit
    (ordered : Ordered answer start initial progress order)
    (isNew : index ∉ order)
    (others : ∀ other ≠ index,
      after.programs other = progress.programs other)
    (loaded : ∀ other ≠ index, after.loaded other = progress.loaded other)
    (state : after.state =
      ((start index).run (storeHandler answer) progress.state).2)
    (outcome : after.programs index =
      ofOutcome
        ((start index).run (storeHandler answer) progress.state).1) :
    Ordered answer start initial after (order ++ [index]) := by
  refine ⟨ordered.serial.commit isNew others state outcome, ?_⟩
  intro other isOther
  rw [List.mem_append, List.mem_singleton, not_or] at isOther
  exact (ordered.waits other isOther.1).of_same (others other isOther.2)
    (loaded other isOther.2)

/-- A program which is about to read has not begun. -/
theorem Ordered.start_eq
    (ordered : Ordered answer start initial progress order)
    (short : ∀ index, Short (start index)) {key : Key}
    {next :
      Option Value → StoreProgram Key Value Event Answer Error Result}
    (isNext : progress.programs index = perform (.get key) next) :
    start index = perform (.get key) next := by
  have isNew := ordered.serial.not_mem isNext
  rcases ordered.waits index isNew with same | ⟨other, following, reads, waits⟩
  · rw [← same, isNext]
  · rw [waits] at isNext
    rcases short index with ⟨first, continued, begins, ending⟩ | writing
    · rw [begins] at reads
      cases reads
      rcases ending (progress.loaded index) with
        ⟨outcome, ended⟩ | ⟨_, _, _, _, writes⟩
      · exact absurd (ended.symm.trans isNext) ofOutcome_ne_perform
      · rw [writes] at isNext
        cases isNext
    · rcases writing with ⟨_, _, _, _, writes⟩
      rw [writes] at reads
      cases reads

/-- A program which is about to write ends, and would write the same now. -/
theorem Ordered.run_eq
    (ordered : Ordered answer start initial progress order)
    (short : ∀ index, Short (start index))
    (current : Current start progress index) {key : Key} {value : Value}
    {expiry : Option ℕ}
    {next : Unit → StoreProgram Key Value Event Answer Error Result}
    (isNext :
      progress.programs index = perform (.set key value expiry) next) :
    ∃ outcome,
      next () = ofOutcome outcome ∧
        (start index).run (storeHandler answer) progress.state =
          (outcome,
            { progress.state with
              values :=
                Function.update progress.state.values key (some value) }) := by
  have isNew := ordered.serial.not_mem isNext
  have ends (program : StoreProgram Key Value Event Answer Error Result)
      (same : program = perform (.set key value expiry) next)
      (writing : Writing program) :
      ∃ outcome, next () = ofOutcome outcome := by
    rcases writing with ⟨_, _, _, outcome, writes⟩
    rw [same] at writes
    cases writes
    exact ⟨outcome, rfl⟩
  have runs (outcome : Except Error Result)
      (ended : next () = ofOutcome outcome) :
      (perform (.set key value expiry) next).run (storeHandler answer)
          progress.state =
        (outcome,
          { progress.state with
            values :=
              Function.update progress.state.values key (some value) }) := by
    rw [run_perform]
    show (next ()).run _ _ = _
    rw [ended, run_ofOutcome]
    rfl
  rcases ordered.waits index isNew with same | ⟨first, following, reads, waits⟩
  · rw [same] at isNext
    rcases short index with ⟨_, _, reads, _⟩ | writing
    · rw [isNext] at reads
      cases reads
    · rcases ends _ isNext writing with ⟨outcome, ended⟩
      refine ⟨outcome, ended, ?_⟩
      rw [isNext]
      exact runs outcome ended
  · rw [waits, current first following reads] at isNext
    have ending : Ending (following (progress.state.values first)) := by
      rcases short index with ⟨_, _, begins, ending⟩ | ⟨_, _, _, _, writes⟩
      · rw [reads] at begins
        cases begins
        exact ending _
      · rw [reads] at writes
        cases writes
    rcases ending with ⟨outcome, ended⟩ | writing
    · exact absurd (ended.symm.trans isNext) ofOutcome_ne_perform
    · rcases ends _ isNext writing with ⟨outcome, ended⟩
      refine ⟨outcome, ended, ?_⟩
      rw [reads, run_perform]
      show (following (progress.state.values first)).run _ _ = _
      rw [isNext]
      exact runs outcome ended

/-! ## Runs -/

variable [DecidableEq Index]

/-- A program has read a value. -/
def Progress.load
    (progress : Progress Index Key Value Event Answer Error Result)
    (index : Index) (value : Option Value)
    (program : StoreProgram Key Value Event Answer Error Result) :
    Progress Index Key Value Event Answer Error Result where
  programs := Function.update progress.programs index program
  loaded := Function.update progress.loaded index value
  state := progress.state

/-- A program has written a value. -/
def Progress.save
    (progress : Progress Index Key Value Event Answer Error Result)
    (index : Index) (key : Key) (value : Value)
    (program : StoreProgram Key Value Event Answer Error Result) :
    Progress Index Key Value Event Answer Error Result where
  programs := Function.update progress.programs index program
  loaded := progress.loaded
  state :=
    { progress.state with
      values := Function.update progress.state.values key (some value) }

/-- Programs take turns, and write only where the guard allows it. -/
inductive Reached
    (start : Index → StoreProgram Key Value Event Answer Error Result)
    (initial : StoreState Key Value Event)
    (guard : Progress Index Key Value Event Answer Error Result → Index →
      Prop) :
    Progress Index Key Value Event Answer Error Result → Prop where
  | initially : Reached start initial guard ⟨start, fun _ => none, initial⟩
  | load {progress : Progress Index Key Value Event Answer Error Result}
      {index : Index} {key : Key}
      {next :
        Option Value → StoreProgram Key Value Event Answer Error Result}
      (reached : Reached start initial guard progress)
      (isNext : progress.programs index = perform (.get key) next) :
      Reached start initial guard
        (progress.load index (progress.state.values key)
          (next (progress.state.values key)))
  | save {progress : Progress Index Key Value Event Answer Error Result}
      {index : Index} {key : Key} {value : Value} {expiry : Option ℕ}
      {next : Unit → StoreProgram Key Value Event Answer Error Result}
      (reached : Reached start initial guard progress)
      (isNext :
        progress.programs index = perform (.set key value expiry) next)
      (allowed : guard progress index) :
      Reached start initial guard
        (progress.save index key value (next ()))

/-- A program reads: it ends, or waits to write. -/
theorem Ordered.load
    (ordered : Ordered answer start initial progress order)
    (short : ∀ index, Short (start index)) {key : Key}
    {next :
      Option Value → StoreProgram Key Value Event Answer Error Result}
    (isNext : progress.programs index = perform (.get key) next) :
    ∃ order,
      Ordered answer start initial
        (progress.load index (progress.state.values key)
          (next (progress.state.values key))) order := by
  have isNew := ordered.serial.not_mem isNext
  have begins := ordered.start_eq short isNext
  have others (other : Index) (different : other ≠ index) :
      (progress.load index (progress.state.values key)
          (next (progress.state.values key))).programs other =
        progress.programs other :=
    Function.update_of_ne different _ _
  have loaded (other : Index) (different : other ≠ index) :
      (progress.load index (progress.state.values key)
          (next (progress.state.values key))).loaded other =
        progress.loaded other :=
    Function.update_of_ne different _ _
  have moved :
      (progress.load index (progress.state.values key)
          (next (progress.state.values key))).programs index =
        next (progress.state.values key) :=
    Function.update_self _ _ _
  have run :
      (start index).run (storeHandler answer) progress.state =
        (next (progress.state.values key)).run (storeHandler answer)
          progress.state := by
    rw [begins]
    rfl
  have ending : Ending (next (progress.state.values key)) := by
    rcases short index with ⟨_, _, reads, ending⟩ | ⟨_, _, _, _, writes⟩
    · rw [begins] at reads
      cases reads
      exact ending _
    · rw [begins] at writes
      cases writes
  rcases ending with ⟨outcome, ended⟩ | ⟨_, _, _, _, writes⟩
  · refine ⟨order ++ [index], ordered.commit isNew others loaded ?_ ?_⟩
    · rw [run, ended, run_ofOutcome]
      rfl
    · rw [moved, run, ended, run_ofOutcome]
  · refine ⟨order, ordered.serial.pass isNew others rfl ?_, ?_⟩
    · intro outcome ended
      rw [moved, writes] at ended
      exact ofOutcome_ne_perform ended.symm
    · intro other isOther
      by_cases same : other = index
      · subst same
        refine Or.inr ⟨key, next, begins, ?_⟩
        have known :
            (progress.load other (progress.state.values key)
                (next (progress.state.values key))).loaded other =
              progress.state.values key :=
          Function.update_self _ _ _
        rw [moved, known]
      · exact (ordered.waits other isOther).of_same (others other same)
          (loaded other same)

/-- A program writes, and ends. -/
theorem Ordered.save
    (ordered : Ordered answer start initial progress order)
    (short : ∀ index, Short (start index))
    (current : Current start progress index) {key : Key} {value : Value}
    {expiry : Option ℕ}
    {next : Unit → StoreProgram Key Value Event Answer Error Result}
    (isNext :
      progress.programs index = perform (.set key value expiry) next) :
    Ordered answer start initial
      (progress.save index key value (next ())) (order ++ [index]) := by
  rcases ordered.run_eq short current isNext with ⟨outcome, ended, run⟩
  apply ordered.commit (ordered.serial.not_mem isNext)
  · intro other different
    exact Function.update_of_ne different _ _
  · intro other _
    rfl
  · rw [run]
    rfl
  · rw [run]
    exact (Function.update_self _ _ _).trans ended

/-- Runs in which every write is current are serial. -/
theorem exists_ordered
    {guard : Progress Index Key Value Event Answer Error Result → Index →
      Prop}
    (short : ∀ index, Short (start index))
    (current : ∀ progress index, guard progress index →
      Current start progress index)
    (reached : Reached start initial guard progress) :
    ∃ order, Ordered answer start initial progress order := by
  induction reached with
  | initially => exact ⟨[], ordered_initially short⟩
  | load reached isNext induction =>
      rcases induction with ⟨order, ordered⟩
      exact ordered.load short isNext
  | save reached isNext allowed induction =>
      rcases induction with ⟨order, ordered⟩
      exact
        ⟨_, ordered.save short (current _ _ allowed) isNext⟩

end Programs

end Foundation.SerialOrder
