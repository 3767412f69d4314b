import Mathlib.Data.List.Forall2
import MultisiteCrawler.Foundation.PythonErrors

/-!
# Exceptions which escape

A computation fails cleanly if it raises no exception but those its caller
handles.  An exception escapes from a sequence of computations if it escapes
from one of them when those before it have succeeded.
-/

namespace Foundation.EscapingErrors

open Foundation.PythonErrors

variable {Error Value Result Output : Type} (Handled : Error → Prop)

/-- An exception is raised which the caller does not handle. -/
def Escapes (outcome : Except Error Result) : Prop :=
  ∃ error, outcome = .error error ∧ ¬ Handled error

/-- Only exceptions which the caller handles are raised. -/
def FailsCleanly (outcome : Except Error Result) : Prop :=
  ∀ error, outcome = .error error → Handled error

variable {Handled}

theorem failsCleanly_iff {outcome : Except Error Result} :
    FailsCleanly Handled outcome ↔ ¬ Escapes Handled outcome := by
  constructor
  · rintro clean ⟨error, raised, unhandled⟩
    exact unhandled (clean error raised)
  · intro kept error raised
    by_contra unhandled
    exact kept ⟨error, raised, unhandled⟩

@[simp]
theorem not_escapes_ok (result : Result) :
    ¬ Escapes Handled (.ok result : Except Error Result) := by
  rintro ⟨error, ⟨⟩, _⟩

@[simp]
theorem escapes_error_iff (error : Error) :
    Escapes Handled (.error error : Except Error Result) ↔
      ¬ Handled error := by
  constructor
  · rintro ⟨_, ⟨⟩, unhandled⟩
    exact unhandled
  · intro unhandled
    exact ⟨error, rfl, unhandled⟩

/-- What escapes from two computations, one after the other. -/
theorem escapes_bind_iff
    (first : Except Error Result)
    (continuation : Result → Except Error Output) :
    Escapes Handled (first >>= continuation) ↔
      Escapes Handled first ∨
        ∃ result, first = .ok result ∧
          Escapes Handled (continuation result) := by
  cases first with
  | error error => simp
  | ok result => simp

section Lists

variable (check : Value → Except Error Result)

/-- All values of a list are accepted. -/
theorem mapM_eq_ok_iff (values : List Value) (results : List Result) :
    values.mapM check = .ok results ↔
      List.Forall₂ (fun value result => check value = .ok result)
        values results := by
  induction values generalizing results with
  | nil =>
      rw [List.mapM_nil, List.forall₂_nil_left_iff]
      exact ⟨fun equal => (Except.ok.inj equal).symm, fun empty => by
        rw [empty]
        rfl⟩
  | cons value rest induction =>
      rw [List.mapM_cons, List.forall₂_cons_left_iff]
      simp only [bind_eq_ok_iff, induction]
      constructor
      · rintro ⟨result, accepted, others, remaining, ⟨⟩⟩
        exact ⟨result, others, accepted, remaining, rfl⟩
      · rintro ⟨result, others, accepted, remaining, rfl⟩
        exact ⟨result, accepted, others, remaining, rfl⟩

/-- The first exception of a list of checks. -/
theorem mapM_eq_error
    {before : List Value} (after : List Value) {value : Value} {error : Error}
    (passed : ∀ earlier ∈ before, ∃ result, check earlier = .ok result)
    (raised : check value = .error error) :
    (before ++ value :: after).mapM check = .error error := by
  induction before with
  | nil =>
      rw [List.nil_append, List.mapM_cons, raised]
      rfl
  | cons first rest induction =>
      rw [List.forall_mem_cons] at passed
      rcases passed with ⟨⟨result, accepted⟩, later⟩
      rw [List.cons_append, List.mapM_cons, accepted, ok_bind,
        induction later]
      rfl

/-- What escapes from a list of checks escapes from one of them. -/
theorem escapes_mapM_iff (values : List Value) :
    Escapes Handled (values.mapM check) ↔
      ∃ before value after, values = before ++ value :: after ∧
        (∀ earlier ∈ before, ∃ result, check earlier = .ok result) ∧
        Escapes Handled (check value) := by
  induction values with
  | nil =>
      refine iff_of_false (not_escapes_ok _) ?_
      rintro ⟨before, value, after, split, _⟩
      cases before <;> cases split
  | cons first rest induction =>
      have last : ∀ result others,
          ¬ Escapes Handled
            (pure (result :: others) : Except Error (List Result)) :=
        fun result others => not_escapes_ok _
      rw [List.mapM_cons]
      simp only [escapes_bind_iff, induction, last, and_false, exists_false,
        or_false]
      constructor
      · rintro (here | ⟨result, accepted, before, value, after, rfl, passed,
          escapes⟩)
        · exact ⟨[], first, rest, rfl, nofun, here⟩
        · refine ⟨first :: before, value, after, rfl, ?_, escapes⟩
          rw [List.forall_mem_cons]
          exact ⟨⟨result, accepted⟩, passed⟩
      · rintro ⟨before, value, after, split, passed, escapes⟩
        cases before with
        | nil =>
            cases split
            exact Or.inl escapes
        | cons head before =>
            cases split
            rw [List.forall_mem_cons] at passed
            rcases passed with ⟨⟨result, accepted⟩, passed⟩
            exact Or.inr ⟨result, accepted, before, value, after, rfl, passed,
              escapes⟩

variable {check}

/-- A list of checks none of which fails cleanly. -/
theorem mapM_isOk_or_escapes
    (either : ∀ value,
      (∃ result, check value = .ok result) ∨ Escapes Handled (check value))
    (values : List Value) :
    (∃ results, values.mapM check = .ok results) ∨
      ∃ value ∈ values, Escapes Handled (check value) := by
  induction values with
  | nil => exact Or.inl ⟨[], rfl⟩
  | cons value rest induction =>
      rcases either value with ⟨result, accepted⟩ | escapes
      · rcases induction with ⟨results, remaining⟩ | ⟨other, member, escapes⟩
        · refine Or.inl ⟨result :: results, ?_⟩
          rw [List.mapM_cons, accepted, remaining]
          rfl
        · exact Or.inr ⟨other, List.mem_cons_of_mem _ member, escapes⟩
      · exact Or.inr ⟨value, List.mem_cons_self, escapes⟩

/-- Without clean failures, what escapes from any check escapes. -/
theorem escapes_mapM_iff_of_either
    (either : ∀ value,
      (∃ result, check value = .ok result) ∨ Escapes Handled (check value))
    (values : List Value) :
    Escapes Handled (values.mapM check) ↔
      ∃ value ∈ values, Escapes Handled (check value) := by
  constructor
  · intro escapes
    rcases (escapes_mapM_iff check values).mp escapes with
      ⟨before, value, after, rfl, _, here⟩
    exact ⟨value, List.mem_append_right before List.mem_cons_self, here⟩
  · intro fails
    induction values with
    | nil =>
        rcases fails with ⟨value, member, _⟩
        cases member
    | cons value rest induction =>
        rw [List.mapM_cons, escapes_bind_iff]
        rcases either value with ⟨result, accepted⟩ | escapes
        · refine Or.inr ⟨result, accepted, ?_⟩
          rw [escapes_bind_iff]
          refine Or.inl (induction ?_)
          rcases fails with ⟨other, member, escapes⟩
          rcases List.mem_cons.mp member with rfl | isRest
          · rw [accepted] at escapes
            exact (not_escapes_ok result escapes).elim
          · exact ⟨other, isRest, escapes⟩
        · exact Or.inl escapes

end Lists

end Foundation.EscapingErrors
