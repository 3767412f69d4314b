import MultisiteCrawler.Foundation.Interaction

/-!
# Programs which keep to a protocol

A protocol has phases.  It says which commands may be issued in a phase, and
which phase a reply leads to.  A program keeps to a protocol if it issues only
commands which may be issued, whatever is replied.

The rules follow the structure of programs: sequences, handlers and cleanup,
and the expansion of every command by a program of another protocol.  A
program which keeps to a protocol does so in every run.
-/

namespace Foundation.Interaction

/-- What may be issued in a phase, and where a reply leads. -/
structure Protocol (Command : Type) (Reply : Command → Type)
    (Phase : Type) where
  Allowed : Phase → Command → Prop
  next : Phase → (command : Command) → Reply command → Phase

namespace Program

variable {Command Phase Error Result Output : Type} {Reply : Command → Type}

/-- A program keeps to a protocol and ends as a condition says. -/
def KeepsTo (protocol : Protocol Command Reply Phase) :
    Phase → Program Command Reply Error Result →
      (Phase → Except Error Result → Prop) → Prop
  | phase, done result, Ends => Ends phase (.ok result)
  | phase, fail error, Ends => Ends phase (.error error)
  | phase, perform command next, Ends =>
      protocol.Allowed phase command ∧
        ∀ reply,
          KeepsTo protocol (protocol.next phase command reply) (next reply)
            Ends

section Rules

variable {protocol : Protocol Command Reply Phase}
variable {Ends : Phase → Except Error Result → Prop} {phase : Phase}

theorem KeepsTo.mono
    {program : Program Command Reply Error Result}
    {Weaker : Phase → Except Error Result → Prop}
    (keeps : KeepsTo protocol phase program Ends)
    (weakens : ∀ reached outcome, Ends reached outcome →
      Weaker reached outcome) :
    KeepsTo protocol phase program Weaker := by
  induction program generalizing phase with
  | done result => exact weakens _ _ keeps
  | fail error => exact weakens _ _ keeps
  | perform command next induction =>
      exact ⟨keeps.1, fun reply => induction reply (keeps.2 reply)⟩

/-- A sequence, by the outcome of its first part. -/
theorem KeepsTo.bind
    {program : Program Command Reply Error Result}
    {continuation : Result → Program Command Reply Error Output}
    {Finally : Phase → Except Error Output → Prop}
    (keeps : KeepsTo protocol phase program Ends)
    (continues : ∀ reached result, Ends reached (.ok result) →
      KeepsTo protocol reached (continuation result) Finally)
    (fails : ∀ reached error, Ends reached (.error error) →
      Finally reached (.error error)) :
    KeepsTo protocol phase (program >>= continuation) Finally := by
  induction program generalizing phase with
  | done result => exact continues _ _ keeps
  | fail error => exact fails _ _ keeps
  | perform command next induction =>
      exact ⟨keeps.1, fun reply => induction reply (keeps.2 reply)⟩

theorem KeepsTo.tryCatch
    {program : Program Command Reply Error Result}
    {handle : Error → Program Command Reply Error Result}
    {Finally : Phase → Except Error Result → Prop}
    (keeps : KeepsTo protocol phase program Ends)
    (returns : ∀ reached result, Ends reached (.ok result) →
      Finally reached (.ok result))
    (handles : ∀ reached error, Ends reached (.error error) →
      KeepsTo protocol reached (handle error) Finally) :
    KeepsTo protocol phase (program.tryCatch handle) Finally := by
  induction program generalizing phase with
  | done result => exact returns _ _ keeps
  | fail error => exact handles _ _ keeps
  | perform command next induction =>
      exact ⟨keeps.1, fun reply => induction reply (keeps.2 reply)⟩

/-- Cleanup which ends as a condition says, after every outcome. -/
theorem KeepsTo.tryFinally
    {program : Program Command Reply Error Result}
    {cleanup : Program Command Reply Error Unit}
    {Finally : Phase → Except Error Result → Prop}
    (keeps : KeepsTo protocol phase program Ends)
    (cleans : ∀ reached outcome, Ends reached outcome →
      KeepsTo protocol reached cleanup fun cleaned ended =>
        Finally cleaned (ended >>= fun _ => outcome)) :
    KeepsTo protocol phase (program.tryFinally cleanup) Finally := by
  induction program generalizing phase with
  | done result =>
      refine (cleans _ _ keeps).bind ?_ ?_
      · exact fun _ _ ended => ended
      · exact fun _ _ ended => ended
  | fail error =>
      have failed :
          KeepsTo protocol phase
            (cleanup >>= fun _ =>
              (fail error : Program Command Reply Error Result))
            fun reached outcome =>
              Finally reached outcome ∧ ∃ raised, outcome = .error raised := by
        refine (cleans _ _ keeps).bind ?_ ?_
        · exact fun _ _ ended => ⟨ended, error, rfl⟩
        · exact fun _ raised ended => ⟨ended, raised, rfl⟩
      refine failed.bind ?_ ?_
      · rintro _ _ ⟨_, _, impossible⟩
        cases impossible
      · exact fun _ _ ended => ended.1
  | perform command next induction =>
      exact ⟨keeps.1, fun reply => induction reply (keeps.2 reply)⟩

/-- An outcome, and what follows on a result. -/
theorem keepsTo_ofOutcome_bind
    {outcome : Except Error Result}
    {continuation : Result → Program Command Reply Error Output}
    {Finally : Phase → Except Error Output → Prop}
    (continues : ∀ result, outcome = .ok result →
      KeepsTo protocol phase (continuation result) Finally)
    (fails : ∀ error, outcome = .error error →
      Finally phase (.error error)) :
    KeepsTo protocol phase (ofOutcome outcome >>= continuation) Finally := by
  cases outcome with
  | ok result => exact continues result rfl
  | error error => exact fails error rfl

end Rules

/-! ## Expansion -/

/-- A program whose error is kept as a result. -/
def settled {Other : Type} :
    Program Command Reply Error Result →
      Program Command Reply Other (Except Error Result)
  | done result => done (.ok result)
  | fail error => done (.error error)
  | perform command next => perform command fun reply => (next reply).settled

theorem KeepsTo.settled
    {Other : Type} {protocol : Protocol Command Reply Phase} {phase : Phase}
    {program : Program Command Reply Error Result}
    {Ends : Phase → Except Error Result → Prop}
    (keeps : KeepsTo protocol phase program Ends) :
    KeepsTo protocol phase
      (program.settled : Program Command Reply Other (Except Error Result))
      fun reached settled =>
        ∃ outcome, settled = .ok outcome ∧ Ends reached outcome := by
  induction program generalizing phase with
  | done result => exact ⟨.ok result, rfl, keeps⟩
  | fail error => exact ⟨.error error, rfl, keeps⟩
  | perform command next induction =>
      exact ⟨keeps.1, fun reply => induction reply (keeps.2 reply)⟩

section Expansion

variable {Statement Stage : Type} {Answer : Statement → Type}
variable {protocol : Protocol Command Reply Phase}
variable {detailed : Protocol Statement Answer Stage}

/--
Every command which may be issued is expanded by a program which keeps to
another protocol, does not fail, and leads to the phase of its reply.
-/
def Expands (protocol : Protocol Command Reply Phase)
    (detailed : Protocol Statement Answer Stage) (stage : Phase → Stage)
    (meaning : (command : Command) →
      Program Statement Answer Error (Reply command)) : Prop :=
  ∀ phase command, protocol.Allowed phase command →
    KeepsTo detailed (stage phase) (meaning command) fun reached outcome =>
      ∃ reply, outcome = .ok reply ∧
        reached = stage (protocol.next phase command reply)

/-- A program keeps to the protocol which its commands are expanded to. -/
theorem KeepsTo.expand
    {stage : Phase → Stage}
    {meaning : (command : Command) →
      Program Statement Answer Error (Reply command)}
    (expands : Expands protocol detailed stage meaning)
    {phase : Phase} {program : Program Command Reply Error Result}
    {Ends : Phase → Except Error Result → Prop}
    (keeps : KeepsTo protocol phase program Ends) :
    KeepsTo detailed (stage phase) (program.expand meaning)
      fun reached outcome =>
        ∃ ended, reached = stage ended ∧ Ends ended outcome := by
  induction program generalizing phase with
  | done result => exact ⟨phase, rfl, keeps⟩
  | fail error => exact ⟨phase, rfl, keeps⟩
  | perform command next induction =>
      refine (expands phase command keeps.1).bind ?_ ?_
      · rintro _ result ⟨reply, isReply, rfl⟩
        cases isReply
        exact induction result (keeps.2 result)
      · rintro _ error ⟨reply, isReply, _⟩
        cases isReply

end Expansion

/-! ## Runs -/

/-- The commands which a run issues, with what is replied. -/
def history {State : Type} (handler : Handler Command Reply State) :
    Program Command Reply Error Result → State →
      List (Σ command, Reply command)
  | done _, _ => []
  | fail _, _ => []
  | perform command next, state =>
      ⟨command, (handler command state).1⟩ ::
        history handler (next (handler command state).1)
          (handler command state).2

end Program

namespace Protocol

variable {Command Phase : Type} {Reply : Command → Type}

/-- The phase after a history. -/
def after (protocol : Protocol Command Reply Phase) (phase : Phase)
    (history : List (Σ command, Reply command)) : Phase :=
  history.foldl (fun reached issued => protocol.next reached issued.1 issued.2)
    phase

/-- Every command of a history was allowed when it was issued. -/
def Accepts (protocol : Protocol Command Reply Phase) (phase : Phase)
    (history : List (Σ command, Reply command)) : Prop :=
  ∀ earlier issued later, history = earlier ++ issued :: later →
    protocol.Allowed (protocol.after phase earlier) issued.1

end Protocol

/-- A program which keeps to a protocol does so in every run. -/
theorem Program.KeepsTo.run
    {Command Phase Error Result State : Type} {Reply : Command → Type}
    {protocol : Protocol Command Reply Phase} {phase : Phase}
    {program : Program Command Reply Error Result}
    {Ends : Phase → Except Error Result → Prop}
    (keeps : KeepsTo protocol phase program Ends)
    (handler : Handler Command Reply State) (state : State) :
    protocol.Accepts phase (program.history handler state) ∧
      Ends (protocol.after phase (program.history handler state))
        (program.run handler state).1 := by
  induction program generalizing phase state with
  | done result =>
      refine ⟨?_, keeps⟩
      intro earlier issued later split
      cases earlier <;> cases split
  | fail error =>
      refine ⟨?_, keeps⟩
      intro earlier issued later split
      cases earlier <;> cases split
  | perform command next induction =>
      rcases induction _ (keeps.2 (handler command state).1)
          (handler command state).2 with
        ⟨accepts, ends⟩
      refine ⟨?_, ends⟩
      intro earlier issued later split
      cases earlier with
      | nil =>
          cases split
          exact keeps.1
      | cons first rest =>
          rw [Program.history, List.cons_append, List.cons.injEq] at split
          rw [← split.1]
          exact accepts rest issued later split.2

end Foundation.Interaction
