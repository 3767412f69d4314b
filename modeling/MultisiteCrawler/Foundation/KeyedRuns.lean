import Mathlib.Data.List.Basic
import Mathlib.Tactic

/-!
# Machines with a local state for every key

A machine whose calls are each about one key.  A call reads and changes only
what the machine keeps for its key.  Then the answers to the calls about a key
are those of a run in which the other calls are left out.
-/

namespace Foundation.KeyedRuns

/-- A machine, and what it keeps for a key. -/
structure KeyedMachine (State Key Call Answer Local : Type) where
  key : Call → Key
  step : State → Call → State × Answer
  look : State → Key → Local
  look_step_of_ne : ∀ state call other, other ≠ key call →
    look (step state call).1 other = look state other
  step_congr : ∀ state same call,
    look state (key call) = look same (key call) →
      (step state call).2 = (step same call).2 ∧
        look (step state call).1 (key call) =
          look (step same call).1 (key call)

namespace KeyedMachine

variable {State Key Call Answer Local : Type}
variable (machine : KeyedMachine State Key Call Answer Local)

/-- The state after a sequence of calls. -/
def after (state : State) (calls : List Call) : State :=
  calls.foldl (fun state call => (machine.step state call).1) state

theorem after_concat (state : State) (calls : List Call) (call : Call) :
    machine.after state (calls ++ [call]) =
      (machine.step (machine.after state calls) call).1 := by
  simp [after]

variable [DecidableEq Key]

/-- The answers to the calls about a key. -/
def answersAt (key : Key) : State → List Call → List Answer
  | _, [] => []
  | state, call :: rest =>
      if machine.key call = key then
        (machine.step state call).2 ::
          answersAt key (machine.step state call).1 rest
      else answersAt key (machine.step state call).1 rest

theorem answersAt_append
    (key : Key) (state : State) (calls rest : List Call) :
    machine.answersAt key state (calls ++ rest) =
      machine.answersAt key state calls ++
        machine.answersAt key (machine.after state calls) rest := by
  induction calls generalizing state with
  | nil => rfl
  | cons call calls induction =>
      rw [List.cons_append, answersAt, answersAt, induction]
      split_ifs <;> rfl

theorem answersAt_concat
    (key : Key) (state : State) (calls : List Call) (call : Call) :
    machine.answersAt key state (calls ++ [call]) =
      machine.answersAt key state calls ++
        if machine.key call = key then
          [(machine.step (machine.after state calls) call).2]
        else [] := by
  rw [answersAt_append]
  rfl

/-- Runs with the same local state of a key give the same answers about it. -/
theorem answersAt_congr
    {key : Key} {state same : State}
    (looks : machine.look state key = machine.look same key)
    (calls : List Call) :
    machine.answersAt key state calls =
      machine.answersAt key same
        (calls.filter fun call => decide (machine.key call = key)) := by
  induction calls generalizing state same with
  | nil => rfl
  | cons call calls induction =>
      by_cases isKey : machine.key call = key
      · subst isKey
        rcases machine.step_congr state same call looks with
          ⟨sameAnswer, sameLook⟩
        rw [List.filter_cons_of_pos (by simp), answersAt,
          answersAt, if_pos rfl, if_pos rfl, sameAnswer, induction sameLook]
      · rw [List.filter_cons_of_neg (by simp [isKey]), answersAt,
          if_neg isKey]
        apply induction
        rw [machine.look_step_of_ne state call key (Ne.symm isKey), looks]

/-- The answers about a key do not depend on the other calls. -/
theorem answersAt_filter
    (key : Key) (state : State) (calls : List Call) :
    machine.answersAt key state calls =
      machine.answersAt key state
        (calls.filter fun call => decide (machine.key call = key)) :=
  machine.answersAt_congr rfl calls

end KeyedMachine

end Foundation.KeyedRuns
