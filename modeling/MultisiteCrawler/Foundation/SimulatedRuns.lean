import Mathlib.Data.List.Basic

/-!
# Simulation of runs

A machine takes a step for every action.  One machine simulates another if
every step of the other is a step of its own, under a label, or no step at
all.  Then every run of the other machine is a run of its own, and what never
happens to the one never happens to the other.
-/

namespace MultisiteCrawler.Foundation.SimulatedRuns

variable {State Action Abstract Label : Type}

/-- A step of a machine is explained by another machine, under a label. -/
structure Simulation (step : State → Action → State)
    (abstractStep : Abstract → Label → Abstract) where
  /-- What the other machine knows of a state. -/
  view : State → Abstract
  /-- The step of the other machine, if it takes one. -/
  label : State → Action → Option Label
  /-- The states which are reached. -/
  Invariant : State → Prop
  invariant_step : ∀ state action,
    Invariant state → Invariant (step state action)
  view_step : ∀ state action, Invariant state →
    view (step state action) =
      ((label state action).map (abstractStep (view state))).getD
        (view state)

variable {step : State → Action → State}
variable {abstractStep : Abstract → Label → Abstract}

/-- What holds at the start of a run and is kept by every step. -/
theorem run_invariant {Invariant : State → Prop}
    (preserves : ∀ state action,
      Invariant state → Invariant (step state action))
    (actions : List Action) {state : State} (holds : Invariant state) :
    Invariant (actions.foldl step state) := by
  induction actions generalizing state with
  | nil => exact holds
  | cons action rest induction =>
      exact induction (preserves state action holds)

namespace Simulation

variable (simulation : Simulation step abstractStep)

/-- The steps which the other machine takes during a run. -/
def labels : State → List Action → List Label
  | _, [] => []
  | state, action :: rest =>
      (simulation.label state action).toList ++
        labels (step state action) rest

theorem labels_append
    (state : State) (earlier later : List Action) :
    simulation.labels state (earlier ++ later) =
      simulation.labels state earlier ++
        simulation.labels (earlier.foldl step state) later := by
  induction earlier generalizing state with
  | nil => rfl
  | cons action rest induction =>
      rw [List.cons_append, labels, labels, induction, List.append_assoc,
        List.foldl_cons]

/-- A run is a run of the other machine. -/
theorem view_run
    (actions : List Action) {state : State}
    (holds : simulation.Invariant state) :
    simulation.view (actions.foldl step state) =
      (simulation.labels state actions).foldl abstractStep
        (simulation.view state) := by
  induction actions generalizing state with
  | nil => rfl
  | cons action rest induction =>
      have reached := simulation.invariant_step state action holds
      have viewed := simulation.view_step state action holds
      rw [List.foldl_cons, induction reached, labels, List.foldl_append,
        viewed]
      cases simulation.label state action <;> rfl

end Simulation

end MultisiteCrawler.Foundation.SimulatedRuns
