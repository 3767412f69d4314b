import Mathlib.Tactic

/-!
# Python exceptions

An exception is its class and its message.  The message is kept where the
program writes it; the text of an exception the standard library raises is not
modelled.
-/

namespace Foundation.PythonErrors

/-- Exception classes, those not listed by their name. -/
inductive ErrorKind where
  | valueError
  | keyError
  | typeError
  | overflowError
  | runtimeError
  | attributeError
  | osError
  | other (className : String)
deriving DecidableEq, Repr

/-- `__name__` of an exception class. -/
def ErrorKind.name : ErrorKind → String
  | .valueError => "ValueError"
  | .keyError => "KeyError"
  | .typeError => "TypeError"
  | .overflowError => "OverflowError"
  | .runtimeError => "RuntimeError"
  | .attributeError => "AttributeError"
  | .osError => "OSError"
  | .other className => className

/-- An exception; no message if the library words it. -/
structure PyError where
  kind : ErrorKind
  message : Option String
deriving DecidableEq, Repr

/-- `raise ValueError(message)`. -/
def PyError.value (message : String) : PyError :=
  ⟨.valueError, some message⟩

/-- `raise KeyError(message)`. -/
def PyError.key (message : String) : PyError :=
  ⟨.keyError, some message⟩

/-- An exception the standard library raises. -/
def PyError.library (kind : ErrorKind) : PyError :=
  ⟨kind, none⟩

section Except

variable {Error Result Output : Type}

@[simp]
theorem ok_bind
    (result : Result) (continuation : Result → Except Error Output) :
    (Except.ok result >>= continuation) = continuation result := rfl

@[simp]
theorem error_bind
    (error : Error) (continuation : Result → Except Error Output) :
    ((Except.error error : Except Error Result) >>= continuation) =
      .error error := rfl

/-- A sequence of two steps succeeds if both do. -/
theorem bind_eq_ok_iff
    (first : Except Error Result)
    (continuation : Result → Except Error Output) (output : Output) :
    (first >>= continuation) = .ok output ↔
      ∃ result, first = .ok result ∧ continuation result = .ok output := by
  cases first with
  | error error => simp
  | ok result => simp

/-- A sequence of two steps fails if either of them does. -/
theorem bind_eq_error_iff
    (first : Except Error Result)
    (continuation : Result → Except Error Output) (error : Error) :
    (first >>= continuation) = .error error ↔
      first = .error error ∨
        ∃ result, first = .ok result ∧ continuation result = .error error := by
  cases first with
  | error error => simp
  | ok result => simp

/-- What is made of a result is there if the result is. -/
theorem map_eq_ok_iff
    {output : Result → Output} {outcome : Except Error Result}
    {made : Output} :
    outcome.map output = .ok made ↔
      ∃ result, outcome = .ok result ∧ output result = made := by
  cases outcome with
  | error error => simp [Except.map]
  | ok result => simp [Except.map]

theorem map_eq_error
    {output : Result → Output} {outcome : Except Error Result} {error : Error}
    (raised : outcome.map output = .error error) :
    outcome = .error error := by
  cases outcome with
  | error raisedError =>
      cases raised
      rfl
  | ok result => cases raised

end Except

end Foundation.PythonErrors
